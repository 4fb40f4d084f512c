import Arrears.Connection
import Arrears.Environment
import Arrears.Shell
import Arrears.Store.Entry

/-!
# The service

Variables that are not set are taken from a file `.env`, if there is one in the working directory or,
failing that, in one of the folders above it.  The reference data are loaded, the database is opened
and the reference data are merged into it.  If any of this fails the service ends with code 1 and
writes nothing.  What stops the program ends it with code 101.
-/

namespace Arrears

def Reference.load (files : Files) (path : String) : Except Error Reference :=
  match files.readText path with
  | .error fault => .error (.config (.unreadable path fault.message))
  | .ok chars =>
    match Reference.ofToml (String.ofList chars) with
    | .ok reference => .ok reference
    | .error fault => .error (.config fault)

namespace Service

structure Outcome where
  code : Nat
  output : String
  files : Files

/-- The places where a file of variables is looked for: in so many folders from a place upwards,
and in the root. -/
def environmentPlaces : Nat → Place → List Place
  | 0, place => [place ++ [Text.bytes ".env"]]
  | levels + 1, place =>
    (place ++ [Text.bytes ".env"]) :: environmentPlaces levels place.dropLast

def environment (files : Files) (given : Environment) : Except Crash Environment :=
  match (environmentPlaces files.home.length files.home).findSome? files.content? with
  | some (.bytes bytes) => given.load bytes
  | _ => .ok given

structure Started where
  connection : Connection
  database : Database

def start (files : Files) (given : Environment) : Except Failure Started := do
  let environment ← match environment files given with
    | .ok environment => pure environment
    | .error cause => throw (.crashed cause)
  let reference ← match Reference.load files environment.referencePath with
    | .ok reference => pure reference
    | .error error => refuse error
  let connection ← stored (Connection.establish files environment.databaseUrl)
  let database ← stored connection.database
  let (result, database) := reference.seed database
  let _ ← result
  return ⟨connection, database⟩

def exitCode : Shell.Ending → Nat
  | .finished => 0
  | .unreadable _ => 1
  | .crashed _ => 101

def failureCode : Failure → Nat
  | .refused _ => 1
  | .crashed _ => 101

def run (clock : Nat → Moment) (files : Files) (given : Environment) (input : List UInt8) :
    Outcome :=
  match start files given with
  | .error failure => ⟨failureCode failure, "", files⟩
  | .ok started =>
    let run := Shell.run clock input started.database
    ⟨exitCode run.ending, run.output, started.connection.save run.database files⟩

end Service
end Arrears
