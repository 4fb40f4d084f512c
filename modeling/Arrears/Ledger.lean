import Arrears.LockTable
import Arrears.Store.Basic

/-!
# The ledger

**Opening an account.** The document number is trimmed and must not be empty, the balance has to
be positive, the user has to exist and no account may have the document number yet.

**Posting a transaction.** The amount has to be positive; account and operation type have to exist.
A debit is booked with its full amount as open balance.  A credit discharges the open debits of
the account, the oldest first, and is booked with what remains of it.

Both are one unit of work: a failure leaves no trace.  The moment of the new record is an argument.
-/

namespace Arrears

structure NewAccount where
  document : String
  balance : Money
  userId : Int
deriving DecidableEq, Repr

structure NewTransaction where
  accountId : Int
  operationTypeId : Int
  amount : Money
deriving DecidableEq, Repr

namespace NewAccount

/-- The trimmed document number of a request that makes sense by itself. -/
def check (request : NewAccount) : Except Invalid String :=
  let document := Text.trim request.document
  if document = "" then .error .emptyDocument
  else if !request.balance.isPositive then .error (.openingBalanceNotPositive request.balance)
  else .ok document

end NewAccount

namespace NewTransaction

def check (request : NewTransaction) : Except Invalid Unit :=
  if request.amount.isPositive then .ok () else .error (.postedAmountNotPositive request.amount)

end NewTransaction

namespace Store

def createAccount (now : Moment) (document : String) (balance : Money) (userId : Int) :
    Work Account := fun s =>
  match s.insertAccount none document balance userId now with
  | .ok result => .ok result
  | .error .duplicateDocument => refuse (.alreadyExists .account document)
  | .error fault => storeFault fault

/-- Stores a new transaction with an amount and a balance that are already worked out. -/
def createTransaction (now : Moment) (accountId operationTypeId : Int) (amount balance : Money) :
    Work Transaction := fun s =>
  stored (s.insertTransaction none accountId operationTypeId amount balance now)

def applyUpdates (accountId : Int) (updates : List BalanceUpdate) : Work Unit := fun s =>
  match s.writeBalances accountId updates with
  | (.ok (), s') => .ok ((), s')
  | (.error failure, _) => .error failure

def openAccount (now : Moment) (document : String) (balance : Money) (userId : Int) :
    Work Account := fun s =>
  if (s.user? userId).isNone then
    refuse (.notFound .user userId)
  else
    s.createAccount now document balance userId

/-- What a booking of a signed amount does to the open debits of its account.  What a credit has
discharged goes to the log only, but it is worked out all the same. -/
def settle (behavior : Behavior) (accountId : Int) (amount : Money) (s : Store) :
    Except Overflow Settlement :=
  match behavior with
  | .debit => .ok ⟨[], amount⟩
  | .credit => do
    let settlement ← discharge amount ((s.openDebits accountId).map Transaction.toOpenDebit)
    let _ ← settlement.discharged amount
    return settlement

def post (now : Moment) (request : NewTransaction) : Work Transaction := fun s => do
  if (s.account? request.accountId).isNone then
    refuse (.notFound .account request.accountId)
  let behavior ← s.behavior request.operationTypeId
  let amount ← calculated (behavior.sign request.amount)
  let settlement ← calculated (s.settle behavior request.accountId amount)
  let ((), s) ← s.applyUpdates request.accountId settlement.updates
  s.createTransaction now request.accountId request.operationTypeId amount settlement.remaining

end Store

namespace Ledger

def createAccount (now : Moment) (request : NewAccount) (db : Database) :
    Except Failure Account × Database :=
  match request.check with
  | .error cause => (refuse (.validation cause), db)
  | .ok document => db.commit (Store.openAccount now document request.balance request.userId)

def post (now : Moment) (request : NewTransaction) (db : Database) :
    Except Failure Transaction × Database :=
  match request.check with
  | .error cause => (refuse (.validation cause), db)
  | .ok () => db.commit (Store.post now request)

/-- Posts transactions one after the other.  The moment of each is the one that `clock` gives for
the number of records stored before it. -/
def postAll (clock : Nat → Moment) :
    List NewTransaction → Database → List (Except Failure Transaction) × Database
  | [], db => ([], db)
  | request :: requests, db =>
    let (result, db) := post (clock db.size) request db
    let (results, db) := postAll clock requests db
    (result :: results, db)

/-- Posts a transaction under the lock of its account: once the request makes sense a ticket is
taken, and in the end it is given back.  There is no result if the ticket has to wait. -/
def postUnderLock (now : Moment) (request : NewTransaction) (table : LockTable) (db : Database) :
    Option (Except Failure Transaction) × LockTable × Database :=
  match request.check with
  | .error cause => (some (refuse (.validation cause)), table, db)
  | .ok () =>
    let (ticket, table) := table.acquire request.accountId
    if table.holds ticket then
      let (result, db) := db.commit (Store.post now request)
      (some result, table.release ticket, db)
    else
      (none, table, db)

def postAllUnderLock (clock : Nat → Moment) :
    List NewTransaction → LockTable → Database →
      List (Option (Except Failure Transaction)) × LockTable × Database
  | [], table, db => ([], table, db)
  | request :: requests, table, db =>
    let (result, table, db) := postUnderLock (clock db.size) request table db
    let (results, table, db) := postAllUnderLock clock requests table db
    (result :: results, table, db)

def account (id : Int) (db : Database) : Except Failure Account :=
  db.query (Store.account id)

def transaction (id : Int) (db : Database) : Except Failure Transaction :=
  db.query (Store.transaction id)

/-- The open debits of an existing account, the oldest first. -/
def openDebits (accountId : Int) (db : Database) : Except Failure (List Transaction) :=
  db.query fun s => do
    let _ ← s.account accountId
    return s.openDebits accountId

def operationTypes (db : Database) : Except Failure (List OperationType) :=
  db.query fun s => .ok s.operationTypesById

end Ledger
end Arrears
