import Arrears.Money

/-!
# Errors

Every refusal is a value that names its cause; `Error.text` is the only place that words it.  A
`Failure` is what can end a piece of work early: a refusal, or what stops the whole program.
-/

namespace Arrears

inductive Entity
  | account
  | transaction
  | operationType
  | user
deriving DecidableEq, Repr

def Entity.name : Entity → String
  | .account => "Account"
  | .transaction => "Transaction"
  | .operationType => "Operation type"
  | .user => "User"

inductive Invalid
  | badAmount (fault : AmountFault)
  | emptyDocument
  | openingBalanceNotPositive (balance : Money)
  | postedAmountNotPositive (amount : Money)
  | emptyCommand
  | unknownCommand (name : String)
  | argumentCount (command : String) (expected found : Nat)
  | notAnId (field text : String)
  | fieldNotPositive (field : String) (amount : Money)
  | stated (message : String)
deriving DecidableEq, Repr

def Invalid.message : Invalid → String
  | .badAmount fault => fault.message
  | .emptyDocument => "document number cannot be empty"
  | .openingBalanceNotPositive balance =>
    "current balance must be greater than zero, got " ++ balance.text
  | .postedAmountNotPositive amount => "amount must be greater than zero, got " ++ amount.text
  | .emptyCommand => "empty command"
  | .unknownCommand name => "unknown command '" ++ name ++ "'"
  | .argumentCount command expected found =>
    "'" ++ command ++ "' takes " ++ Text.ofNat expected ++ " argument(s), got " ++
      Text.ofNat found
  | .notAnId field text => field ++ " must be a positive integer, got '" ++ text ++ "'"
  | .fieldNotPositive field amount => field ++ " must be greater than zero, got " ++ amount.text
  | .stated message => message

inductive ConfigFault
  | unreadable (path reason : String)
  | malformed
  | unknownBehavior (text : String)
  | stated (message : String)
deriving DecidableEq, Repr

def ConfigFault.message : ConfigFault → String
  | .unreadable path reason => "Failed to read config file " ++ path ++ ": " ++ reason
  | .malformed => "Failed to parse reference data"
  | .unknownBehavior text => "Unknown amount behavior '" ++ text ++ "'"
  | .stated message => message

inductive StoreFault
  | closed
  | unsupportedUrl (url : String)
  | badUrl (reason : String)
  | cannotOpen (path : String)
  | notADatabase
  | readOnly
  | duplicateId
  | duplicateDocument
  | missingReference
  | idsExhausted
  | stated (message : String)
deriving DecidableEq, Repr

def StoreFault.message : StoreFault → String
  | .closed => "the database is closed"
  | .unsupportedUrl url => "no driver supports the connection string '" ++ url ++ "'"
  | .badUrl reason => reason
  | .cannotOpen path => "unable to open database file " ++ path
  | .notADatabase => "file is not a database"
  | .readOnly => "attempt to write a readonly database"
  | .duplicateId => "the id is taken"
  | .duplicateDocument => "the document number is taken"
  | .missingReference => "a referenced record is missing"
  | .idsExhausted => "there is no further id"
  | .stated message => "Custom Error: " ++ message

inductive Error
  | notFound (entity : Entity) (id : Int)
  | alreadyExists (entity : Entity) (key : String)
  | validation (cause : Invalid)
  | store (cause : StoreFault)
  | config (cause : ConfigFault)
  | io (reason : String)
  | environment
deriving DecidableEq, Repr

def Error.text : Error → String
  | .notFound entity id => entity.name ++ " not found: " ++ Text.ofInt id
  | .alreadyExists entity key => entity.name ++ " already exists: " ++ key
  | .validation cause => "Validation failed: " ++ cause.message
  | .store cause => "Store error: " ++ cause.message
  | .config cause => "Configuration error: " ++ cause.message
  | .io reason => "I/O error: " ++ reason
  | .environment => "Environment variable error: environment variable not found"

/-- Whether the error reports a failure of the store, of the input or output, or of the
environment, and so has an underlying source. -/
def Error.hasSource : Error → Bool
  | .store _ | .io _ | .environment => true
  | _ => false

/-- What stops the program at once. -/
inductive Crash
  | overflow (step : Overflow)
  | negativeId
  | zeroByte (name : String)
deriving DecidableEq, Repr

def Crash.message : Crash → String
  | .overflow step => step.message
  | .negativeId => "internal error: entered unreachable code: negative last_insert_rowid"
  | .zeroByte name => "failed to set environment variable `" ++ name ++ "`: nul byte found"

inductive Failure
  | refused (error : Error)
  | crashed (cause : Crash)
deriving DecidableEq, Repr

def refuse {α : Type} (error : Error) : Except Failure α :=
  .error (.refused error)

def calculated {α : Type} : Except Overflow α → Except Failure α
  | .ok value => .ok value
  | .error step => .error (.crashed (.overflow step))

end Arrears
