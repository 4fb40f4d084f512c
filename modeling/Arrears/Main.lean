import Arrears.Json.Record
import Arrears.Service
import Std.Time.DateTime.Timestamp

/-!
# The program

Reads the environment, the reference data and the database from the disk, starts the service, and
answers the lines of standard input one after the other.  Whenever a line has changed the store,
its snapshot is written before the response.
-/

namespace Arrears
namespace Program

/-- The path of a place, as far as it is text. -/
def pathOf (place : Place) : String :=
  (String.fromUTF8? ⟨place.path.toArray⟩).getD ""

def readVariables (names : List String) : IO Environment := do
  let values ← names.mapM fun name => do
    return (← IO.getEnv name).map fun value => (name, value)
  return ⟨values.filterMap id⟩

def addPlace (content : List UInt8 → Content) (place : Place) (files : Files) : IO Files := do
  let path := pathOf place
  try
    let bytes ← IO.FS.readBinFile path
    return files.put place (content bytes.toList)
  catch _ =>
    try
      let _ ← IO.FS.realPath path
      return files.putFolder place
    catch _ =>
      return files

def readHome : IO Files := do
  let path := (← IO.currentDir).toString
  return .within ((Files.within []).placeOf (Text.bytes path))

/-- Reads the variables that the service asks for, and those that a file of variables may name. -/
def readEnvironment (files : Files) : IO Environment := do
  let named := files.contents.flatMap fun entry => match entry.2 with
    | .bytes bytes => Environment.namesIn bytes
    | .database _ => []
  readVariables (["LEDGER_CONFIG", "DATABASE_URL"] ++ named)

def readFiles (environment : Environment) (files : Files) : IO Files := do
  let reference := files.placeOf (Text.bytes environment.referencePath)
  let files ← addPlace .bytes reference.dropLast files >>= addPlace .bytes reference
  match Connection.placeOf? files environment.databaseUrl with
  | none => return files
  | some place =>
    addPlace .bytes place.dropLast files >>= addPlace .bytes (Place.beside ".lock" place) >>=
      addPlace .bytes (Place.beside "-wal" place) >>= addPlace Content.ofBytes place

def now : IO Moment := do
  return Moment.ofNanoseconds (← Std.Time.Timestamp.now).toNanosecondsSinceUnixEpoch.val

def remove (place : Place) : IO Unit := do
  try
    IO.FS.removeFile (pathOf place)
  catch _ =>
    pure ()

def save (connection : Connection) (database : Database) : IO Unit := do
  match connection, database with
  | .file kept, .opened store => IO.FS.writeFile (pathOf kept.place) store.snapshot
  | _, _ => pure ()

def tidy (connection : Connection) (files : Files) : IO Unit := do
  match connection with
  | .file kept => (kept.remnants files).forM remove
  | .temporary _ => pure ()

/-- Reads a line with its line feed; `read` holds its bytes in reverse. -/
partial def readLine (input : IO.FS.Stream) (read : List UInt8) : IO (List UInt8) := do
  match (← input.read 1).toList with
  | [] => return read.reverse
  | byte :: _ =>
    if byte = 10 then return (byte :: read).reverse else readLine input (byte :: read)

partial def serve (connection : Connection) (database : Database)
    (input output : IO.FS.Stream) : IO Shell.Ending := do
  let line ← readLine input []
  if line.isEmpty then
    return .finished
  match Shell.answer (← now) line database with
  | .stop ending _ => return ending
  | .next response database' =>
    if database' ≠ database then
      save connection database'
    match response with
    | some response =>
      output.putStr (response.text ++ "\n")
      output.flush
    | none => pure ()
    serve connection database' input output

def failureText : Failure → String
  | .refused error => error.text
  | .crashed cause => cause.message

def run : IO UInt32 := do
  let home ← readHome
  let places := Service.environmentPlaces home.home.length home.home
  let files ← places.foldlM (fun files place => addPlace .bytes place files) home
  let given ← readEnvironment files
  let files ← match Service.environment files given with
    | .ok environment => readFiles environment files
    | .error _ => pure files
  match Service.start files given with
  | .error failure =>
    IO.eprintln (failureText failure)
    return UInt32.ofNat (Service.failureCode failure)
  | .ok started =>
    tidy started.connection files
    save started.connection started.database
    let ending ← serve started.connection started.database (← IO.getStdin) (← IO.getStdout)
    match ending with
    | .finished => pure ()
    | .unreadable fault => IO.eprintln (Error.io fault.message).text
    | .crashed cause => IO.eprintln cause.message
    return UInt32.ofNat (Service.exitCode ending)

end Program
end Arrears

def main : IO UInt32 :=
  Arrears.Program.run
