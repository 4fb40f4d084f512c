import Arrears.Ledger

/-!
# The shell

Lines of input are commands to the ledger.  Each is executed and answered with one response, until a
line asks to quit or is not UTF-8.
-/

namespace Arrears

/-! ## Commands

Commands with arguments take exactly as many as they need; the others ignore what follows.  An id is
a positive 64-bit integer, with an optional plus sign and any number of leading zeros; an amount is
read as money and has to be positive.  The first rule that a line breaks is reported, in the order of
the arguments.
-/

inductive Command
  | createAccount (request : NewAccount)
  | post (request : NewTransaction)
  | account (id : Int)
  | transaction (id : Int)
  | debits (accountId : Int)
  | operationTypes
  | help
  | quit
deriving DecidableEq, Repr

namespace Command

def readId (field word : String) : Except Invalid Int :=
  match Text.integer? word.toList with
  | some id => if 0 < id ∧ id ≤ Word.greatest then .ok id else .error (.notAnId field word)
  | none => .error (.notAnId field word)

def readAmount (field word : String) : Except Invalid Money :=
  match Money.ofText word with
  | .ok amount => if amount.isPositive then .ok amount else .error (.fieldNotPositive field amount)
  | .error fault => .error (.badAmount fault)

def readOne (name field : String) : List String → Except Invalid Int
  | [id] => readId field id
  | arguments => .error (.argumentCount name 1 arguments.length)

def readNewAccount (name : String) : List String → Except Invalid NewAccount
  | [document, balance, userId] => do
    let balance ← readAmount "current_balance" balance
    let userId ← readId "user_id" userId
    return ⟨document, balance, userId⟩
  | arguments => .error (.argumentCount name 3 arguments.length)

def readNewTransaction (name : String) : List String → Except Invalid NewTransaction
  | [accountId, operationTypeId, amount] => do
    let accountId ← readId "account_id" accountId
    let operationTypeId ← readId "operation_type_id" operationTypeId
    let amount ← readAmount "amount" amount
    return ⟨accountId, operationTypeId, amount⟩
  | arguments => .error (.argumentCount name 3 arguments.length)

def ofWords : List String → Except Invalid Command
  | [] => .error .emptyCommand
  | name :: arguments =>
    match name with
    | "create-account" => return .createAccount (← readNewAccount name arguments)
    | "post" => return .post (← readNewTransaction name arguments)
    | "account" => return .account (← readOne name "account_id" arguments)
    | "transaction" => return .transaction (← readOne name "transaction_id" arguments)
    | "debits" => return .debits (← readOne name "account_id" arguments)
    | "operation-types" => return .operationTypes
    | "help" => return .help
    | "quit" => return .quit
    | "exit" => return .quit
    | _ => throw (.unknownCommand name)

def ofLine (line : String) : Except Invalid Command :=
  ofWords (Text.words line)

def usage : List String :=
  ["create-account <document_number> <current_balance> <user_id>  Opens an account",
    "post <account_id> <operation_type_id> <amount>                 Posts a transaction",
    "account <account_id>                                          Shows an account",
    "transaction <transaction_id>                                  Shows a transaction",
    "debits <account_id>                                           Lists unsettled debits, oldest first",
    "operation-types                                               Lists operation types",
    "help                                                          Shows this help",
    "quit                                                          Exits"]

end Command

/-! ## Responses

Refusals that name something the caller got wrong are told to the caller; whatever went wrong
inside is told as one fixed sentence.
-/

inductive Status
  | ok
  | notFound
  | conflict
  | badRequest
  | internal
deriving DecidableEq, Repr

def Status.label : Status → String
  | .ok => "OK"
  | .notFound => "NOT_FOUND"
  | .conflict => "CONFLICT"
  | .badRequest => "BAD_REQUEST"
  | .internal => "INTERNAL"

structure Response where
  status : Status
  lines : List String
deriving DecidableEq, Repr

namespace Response

def success (lines : List String) : Response :=
  ⟨.ok, lines⟩

/-- The sentence that hides what went wrong inside. -/
def apology : String :=
  "Something went wrong, please try again."

def ofError (error : Error) : Response :=
  match error with
  | .notFound _ _ => ⟨.notFound, [error.text]⟩
  | .alreadyExists _ _ => ⟨.conflict, [error.text]⟩
  | .validation cause => ⟨.badRequest, [cause.message]⟩
  | _ => ⟨.internal, [apology]⟩

def text (response : Response) : String :=
  response.lines.foldl (fun written line => written ++ "\n  " ++ line) response.status.label

end Response

def Account.describe (account : Account) : String :=
  "account id=" ++ Text.ofInt account.id ++ " document=" ++ account.document ++
    " current_balance=" ++ account.currentBalance.text ++ " user=" ++ Text.ofInt account.userId ++
    " created_at=" ++ account.createdAt.text

def Transaction.describe (t : Transaction) : String :=
  "transaction id=" ++ Text.ofInt t.id ++ " account=" ++ Text.ofInt t.accountId ++
    " operation_type=" ++ Text.ofInt t.operationTypeId ++ " amount=" ++ t.amount.text ++
    " balance=" ++ t.balance.text ++ " created_at=" ++ t.createdAt.text

def OperationType.describe (operationType : OperationType) : String :=
  "operation_type id=" ++ Text.ofInt operationType.id ++ " description=" ++
    operationType.description ++ " behavior=" ++ operationType.behavior

/-! ## Runs -/

namespace Shell

def respond {α : Type} (lines : α → List String) : Except Failure α → Except Crash Response
  | .ok value => .ok (.success (lines value))
  | .error (.refused error) => .ok (.ofError error)
  | .error (.crashed cause) => .error cause

def execute (now : Moment) (command : Command) (db : Database) :
    Except Crash Response × Database :=
  match command with
  | .createAccount request =>
    let (result, db) := Ledger.createAccount now request db
    (respond (fun account => [account.describe]) result, db)
  | .post request =>
    let (result, db) := Ledger.post now request db
    (respond (fun transaction => [transaction.describe]) result, db)
  | .account id => (respond (fun account => [account.describe]) (Ledger.account id db), db)
  | .transaction id =>
    (respond (fun transaction => [transaction.describe]) (Ledger.transaction id db), db)
  | .debits accountId =>
    (respond (List.map Transaction.describe) (Ledger.openDebits accountId db), db)
  | .operationTypes =>
    (respond (List.map OperationType.describe) (Ledger.operationTypes db), db)
  | .help => (.ok (.success Command.usage), db)
  | .quit => (.ok (.success []), db)

inductive Request
  | nothing
  | quit
  | run (command : Command)
  | invalid (cause : Invalid)
deriving DecidableEq, Repr

def Request.ofLine (line : List Char) : Request :=
  match Text.trimmed line with
  | [] => .nothing
  | '#' :: _ => .nothing
  | chars =>
    match Command.ofLine (String.ofList chars) with
    | .ok .quit => .quit
    | .ok command => .run command
    | .error cause => .invalid cause

inductive Ending
  /-- At the end of the input, or because it was asked to. -/
  | finished
  | unreadable (fault : Text.Utf8Fault)
  | crashed (cause : Crash)
deriving DecidableEq, Repr

inductive Step
  /-- The run goes on, perhaps after a response. -/
  | next (response : Option Response) (database : Database)
  | stop (ending : Ending) (database : Database)
deriving DecidableEq, Repr

def answer (now : Moment) (line : List UInt8) (db : Database) : Step :=
  match Text.decodeUtf8 line with
  | .error fault => .stop (.unreadable fault) db
  | .ok chars =>
    match Request.ofLine chars with
    | .nothing => .next none db
    | .quit => .stop .finished db
    | .invalid cause => .next (some (.ofError (.validation cause))) db
    | .run command =>
      match execute now command db with
      | (.ok response, db) => .next (some response) db
      | (.error cause, db) => .stop (.crashed cause) db

structure Run where
  responses : List Response
  ending : Ending
  database : Database
deriving DecidableEq, Repr

def Run.output (run : Run) : String :=
  run.responses.foldl (fun written response => written ++ response.text ++ "\n") ""

/-- The lines of the input, each with its line feed. -/
def lines : List UInt8 → List (List UInt8)
  | [] => []
  | byte :: bytes =>
    if byte = 10 then
      [byte] :: lines bytes
    else
      match lines bytes with
      | [] => [[byte]]
      | line :: others => (byte :: line) :: others

/-- Runs the shell over lines.  The moment of each line is the one that `clock` gives for the
number of records stored before it. -/
def runLines (clock : Nat → Moment) : List (List UInt8) → Database → Run
  | [], db => ⟨[], .finished, db⟩
  | line :: rest, db =>
    match answer (clock db.size) line db with
    | .stop ending db => ⟨[], ending, db⟩
    | .next response db =>
      let run := runLines clock rest db
      { run with responses := response.toList ++ run.responses }

def run (clock : Nat → Moment) (input : List UInt8) (db : Database) : Run :=
  runLines clock (lines input) db

end Shell

end Arrears
