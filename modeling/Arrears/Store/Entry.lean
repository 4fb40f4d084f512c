import Arrears.Store.Basic
import Arrears.Toml

/-!
# Records from outside

Operation types and users are not made by the ledger; they are given in a TOML document and merged
into the store.  Any record can be entered into a table as it is, past the rules of the ledger.
-/

namespace Arrears

/-! ## Merging

A record enters when its id is not stored yet, so what is stored stays and of several records with
one id the first wins.  The behavior of a new operation type must be readable and is stored in its
canonical text.
-/

structure Reference where
  operationTypes : List OperationType
  users : List User
deriving DecidableEq, Repr

namespace Reference

/-- Whether every behavior is readable; the first that is not is the reason of the refusal. -/
def checkBehaviors : List OperationType → Except ConfigFault Unit
  | [] => .ok ()
  | operationType :: rest => do
    let _ ← Behavior.ofText operationType.behavior
    checkBehaviors rest

def mergeUsers (rows : List User) : List User → List User
  | [] => rows
  | user :: users =>
    if rows.any fun row => row.id = user.id then mergeUsers rows users
    else mergeUsers (rows ++ [user]) users

/-- Adds the operation types whose ids are new, in canonical form. -/
def mergeOperationTypes (rows : List OperationType) :
    List OperationType → Except ConfigFault (List OperationType)
  | [] => .ok rows
  | operationType :: rest =>
    if rows.any fun row => row.id = operationType.id then mergeOperationTypes rows rest
    else do
      let behavior ← Behavior.ofText operationType.behavior
      mergeOperationTypes
        (rows ++ [{ operationType with behavior := behavior.text }]) rest

def added (s s' : Store) : Nat :=
  (s'.users.length - s.users.length) + (s'.operationTypes.length - s.operationTypes.length)

def merge (reference : Reference) : Work Nat := fun s =>
  match mergeOperationTypes s.operationTypes reference.operationTypes with
  | .error fault => refuse (.config fault)
  | .ok operationTypes =>
    let s' : Store :=
      { s with users := mergeUsers s.users reference.users, operationTypes := operationTypes }
    .ok (added s s', s')

def seed (reference : Reference) (db : Database) : Except Failure Nat × Database :=
  db.commit reference.merge

end Reference

/-! ## Reading

Either list may be missing; other fields are passed over.  A record is a table, or a list of its
members in the order of declaration.  The whole document is read before the behaviors are checked.
-/

namespace Reference

def text? : Toml.Value → Option String
  | .text s => some s
  | _ => none

def integer? : Toml.Value → Option Int
  | .integer n => some n
  | _ => none

def operationType? : Toml.Value → Option OperationType
  | .table fields => do
    let id ← (← fields.lookup "id") |> integer?
    let description ← (← fields.lookup "description") |> text?
    let behavior ← (← fields.lookup "amount_behavior") |> text?
    return ⟨id, description, behavior⟩
  | .list (id :: description :: behavior :: _) => do
    return ⟨← integer? id, ← text? description, ← text? behavior⟩
  | _ => none

def user? : Toml.Value → Option User
  | .table fields => do
    let id ← (← fields.lookup "id") |> integer?
    let name ← (← fields.lookup "name") |> text?
    return ⟨id, name⟩
  | .list (id :: name :: _) => do
    return ⟨← integer? id, ← text? name⟩
  | _ => none

def records? {α : Type} (read : Toml.Value → Option α) : Option Toml.Value → Option (List α)
  | none => some []
  | some (.list items) => items.mapM read
  | some _ => none

/-- Reads reference data without checking the behaviors. -/
def parse? (text : String) : Option Reference := do
  let fields ← Toml.ofText? text
  let operationTypes ← records? operationType? (fields.lookup "operation_types")
  let users ← records? user? (fields.lookup "users")
  return ⟨operationTypes, users⟩

def ofToml (text : String) : Except ConfigFault Reference :=
  match parse? text with
  | none => .error .malformed
  | some reference => do
    checkBehaviors reference.operationTypes
    return reference

end Reference

/-! ## Entering

An account or a transaction with a negative id enters its table, but stops the program: ids are
given out from 1 on, and the id of the newest record is taken for a count.
-/

/-- An insertion that stays, and stops the program if the id of its record is negative. -/
def entered {α : Type} (id : α → Int) (insert : Store → Except StoreFault (α × Store)) (s : Store) :
    Except Failure α × Store :=
  match insert s with
  | .error fault => (storeFault fault, s)
  | .ok (row, s') => (if id row < 0 then .error (.crashed .negativeId) else .ok row, s')

namespace Database

def enterOperationType (operationType : OperationType) (db : Database) :
    Except Failure OperationType × Database :=
  db.commit fun s => stored (s.insertOperationType operationType)

def enterAccount (id : Option Int) (document : String) (balance : Money) (userId : Int)
    (createdAt : Moment) (db : Database) : Except Failure Account × Database :=
  db.perform <| entered (·.id) fun s => s.insertAccount id document balance userId createdAt

def enterTransaction (id : Option Int) (accountId operationTypeId : Int) (amount balance : Money)
    (createdAt : Moment) (db : Database) : Except Failure Transaction × Database :=
  db.perform <| entered (·.id) fun s =>
    s.insertTransaction id accountId operationTypeId amount balance createdAt

end Database

end Arrears
