import Arrears.Discharge
import Arrears.Error

/-!
# The store

The store holds users, operation types, accounts and transactions.  A record enters a table with an
id that is new there, and every record that it refers to has to be stored already; the document
numbers of accounts differ from each other.  Nothing but the balance of a booking ever changes in a
record.
-/

namespace Arrears

/-! ## Behaviors

An operation type books its amounts as credits, which are positive and settle debt, or as debits,
which are negative and make debt.  The stored text is read without regard to case and blanks.
-/

inductive Behavior
  | credit
  | debit
deriving DecidableEq, Repr

namespace Behavior

def text : Behavior → String
  | .credit => "CREDIT"
  | .debit => "DEBIT"

def ofText (s : String) : Except ConfigFault Behavior :=
  let word := String.ofList ((Text.trimmed s.toList).map Char.toUpper)
  if word = "CREDIT" then .ok .credit
  else if word = "DEBIT" then .ok .debit
  else .error (.unknownBehavior word)

/-- The amount with the sign of the behavior, whatever sign it had. -/
def sign (behavior : Behavior) (amount : Money) : Except Overflow Money := do
  let size ← amount.magnitude
  match behavior with
  | .credit => return size
  | .debit => size.negate

end Behavior

/-! ## Records -/

structure User where
  id : Int
  name : String
deriving DecidableEq, Repr

structure OperationType where
  id : Int
  description : String
  behavior : String
deriving DecidableEq, Repr

structure Account where
  id : Int
  document : String
  currentBalance : Money
  userId : Int
  createdAt : Moment
deriving DecidableEq, Repr

structure Transaction where
  id : Int
  accountId : Int
  operationTypeId : Int
  /-- The booked amount, negative for a debit. -/
  amount : Money
  /-- What is still unsettled of the amount. -/
  balance : Money
  createdAt : Moment
deriving DecidableEq, Repr

namespace Transaction

def isOpen (t : Transaction) : Bool :=
  t.balance.isNegative

def toOpenDebit (t : Transaction) : OpenDebit :=
  ⟨t.id, t.createdAt, t.balance⟩

/-- The stored order of bookings: by the text of their moment, and under one text by id. -/
def notAfter (a b : Transaction) : Bool :=
  a.createdAt.text < b.createdAt.text ||
    (a.createdAt.text = b.createdAt.text && a.id ≤ b.id)

end Transaction

/-! ## Tables -/

structure Store where
  users : List User
  operationTypes : List OperationType
  accounts : List Account
  transactions : List Transaction
deriving DecidableEq, Repr

namespace Store

def empty : Store :=
  ⟨[], [], [], []⟩

def size (s : Store) : Nat :=
  s.accounts.length + s.transactions.length

def user? (s : Store) (id : Int) : Option User :=
  s.users.find? fun user => user.id = id

def operationType? (s : Store) (id : Int) : Option OperationType :=
  s.operationTypes.find? fun operationType => operationType.id = id

def account? (s : Store) (id : Int) : Option Account :=
  s.accounts.find? fun account => account.id = id

def transaction? (s : Store) (id : Int) : Option Transaction :=
  s.transactions.find? fun transaction => transaction.id = id

/-- The id that follows the largest of a table; ids start at 1. -/
def nextId (ids : List Int) : Except StoreFault Int :=
  let largest := ids.foldl max 0
  if largest < Word.greatest then .ok (largest + 1) else .error .idsExhausted

/-- The id of a new record: a given one, which has to be new, or the next one. -/
def newId (ids : List Int) : Option Int → Except StoreFault Int
  | none => nextId ids
  | some id => if id ∈ ids then .error .duplicateId else .ok id

def insertOperationType (s : Store) (operationType : OperationType) :
    Except StoreFault (OperationType × Store) :=
  if (s.operationType? operationType.id).isSome then
    .error .duplicateId
  else
    .ok (operationType, { s with operationTypes := s.operationTypes ++ [operationType] })

def insertAccount (s : Store) (id : Option Int) (document : String) (balance : Money)
    (userId : Int) (createdAt : Moment) : Except StoreFault (Account × Store) := do
  let id ← newId (s.accounts.map (·.id)) id
  if s.accounts.any fun account => account.document = document then
    throw .duplicateDocument
  if (s.user? userId).isNone then
    throw .missingReference
  let account : Account := ⟨id, document, balance, userId, createdAt⟩
  return (account, { s with accounts := s.accounts ++ [account] })

def insertTransaction (s : Store) (id : Option Int) (accountId operationTypeId : Int)
    (amount balance : Money) (createdAt : Moment) :
    Except StoreFault (Transaction × Store) := do
  let id ← newId (s.transactions.map (·.id)) id
  if (s.account? accountId).isNone || (s.operationType? operationTypeId).isNone then
    throw .missingReference
  let transaction : Transaction := ⟨id, accountId, operationTypeId, amount, balance, createdAt⟩
  return (transaction, { s with transactions := s.transactions ++ [transaction] })

/-- The bookings of an account that still carry debt, in stored order. -/
def openDebits (s : Store) (accountId : Int) : List Transaction :=
  (s.transactions.filter fun t => t.accountId = accountId && t.isOpen).mergeSort
    Transaction.notAfter

def concerns (accountId : Int) (update : BalanceUpdate) (t : Transaction) : Bool :=
  t.id = update.transactionId && t.accountId = accountId

def setBalance (accountId : Int) (update : BalanceUpdate) (rows : List Transaction) :
    List Transaction :=
  rows.map fun t =>
    if concerns accountId update t then { t with balance := update.newBalance } else t

/-- Applies updates one after the other up to the first that means no booking of the account,
whose id is given in that case. -/
def updateAll (accountId : Int) :
    List BalanceUpdate → List Transaction → List Transaction × Option Int
  | [], rows => (rows, none)
  | update :: updates, rows =>
    if rows.any (concerns accountId update) then
      updateAll accountId updates (setBalance accountId update rows)
    else
      (rows, some update.transactionId)

/-- Applies updates statement by statement: what was written before a failure stays. -/
def writeBalances (accountId : Int) (updates : List BalanceUpdate) (s : Store) :
    Except Failure Unit × Store :=
  match updateAll accountId updates s.transactions with
  | (rows, none) => (.ok (), { s with transactions := rows })
  | (rows, some id) => (refuse (.notFound .transaction id), { s with transactions := rows })

end Store

/-! ## Units of work

A database is open and holds a store, or is closed and refuses everything.  A sealed one is open,
but refuses whatever would change its store.

A unit of work takes the store to a result and a new store, or fails.  When it is committed, its
store replaces the old one if it succeeds, and a failure leaves the old one.  A single statement has
no such cover: what it wrote before a failure stays.
-/

/-- A database is closed, or open on a store, which may have to stay as it is. -/
inductive Database
  | closed
  | opened (store : Store)
  | sealed (store : Store)
deriving DecidableEq, Repr

abbrev Work (α : Type) : Type :=
  Store → Except Failure (α × Store)

def storeFault {α : Type} (fault : StoreFault) : Except Failure α :=
  refuse (.store fault)

def stored {α : Type} : Except StoreFault α → Except Failure α
  | .ok value => .ok value
  | .error fault => storeFault fault

namespace Database

/-- Runs a statement whose writing stays even if it fails. -/
def perform {α : Type} (statement : Store → Except Failure α × Store) :
    Database → Except Failure α × Database
  | .closed => (storeFault .closed, .closed)
  | .opened s =>
    let (result, s') := statement s
    (result, .opened s')
  | .sealed s =>
    let (result, s') := statement s
    (if s' = s then result else storeFault .readOnly, .sealed s)

/-- Runs a unit of work and keeps its store if it succeeds. -/
def commit {α : Type} (work : Work α) (db : Database) : Except Failure α × Database :=
  db.perform fun s =>
    match work s with
    | .ok (value, s') => (.ok value, s')
    | .error failure => (.error failure, s)

def rollback {α : Type} (work : Work α) (db : Database) : Except Failure α × Database :=
  ((commit work db).1, db)

def query {α : Type} (question : Store → Except Failure α) (db : Database) : Except Failure α :=
  match db with
  | .closed => storeFault .closed
  | .opened s => question s
  | .sealed s => question s

def store? : Database → Option Store
  | .closed => none
  | .opened s => some s
  | .sealed s => some s

/-- Makes tables where there are none.  Tables that are there stay as they are, and need not be
writable. -/
def createTables (canBeWritten : Bool) : Option Store → Except StoreFault Database
  | some s => .ok (if canBeWritten then .opened s else .sealed s)
  | none => if canBeWritten then .ok (.opened .empty) else .error .readOnly

/-- Writes balances statement by statement; without updates the store is not asked at all. -/
def writeBalances (accountId : Int) (updates : List BalanceUpdate) (db : Database) :
    Except Failure Unit × Database :=
  match updates with
  | [] => (.ok (), db)
  | _ => db.perform (Store.writeBalances accountId updates)

def size : Database → Nat
  | .closed => 0
  | .opened s => s.size
  | .sealed s => s.size

end Database

/-! ## Related records -/

namespace Store

def sortById {α : Type} (id : α → Int) (rows : List α) : List α :=
  rows.mergeSort fun a b => id a ≤ id b

def usersById (s : Store) : List User :=
  sortById User.id s.users

def operationTypesById (s : Store) : List OperationType :=
  sortById OperationType.id s.operationTypes

def accountsById (s : Store) : List Account :=
  sortById Account.id s.accounts

def transactionsById (s : Store) : List Transaction :=
  sortById Transaction.id s.transactions

def orNotFound {α : Type} (entity : Entity) (id : Int) : Option α → Except Failure α
  | some row => .ok row
  | none => refuse (.notFound entity id)

def account (id : Int) (s : Store) : Except Failure Account :=
  orNotFound .account id (s.account? id)

def transaction (id : Int) (s : Store) : Except Failure Transaction :=
  orNotFound .transaction id (s.transaction? id)

def operationType (id : Int) (s : Store) : Except Failure OperationType :=
  orNotFound .operationType id (s.operationType? id)

def behavior (id : Int) (s : Store) : Except Failure Behavior := do
  let found ← operationType id s
  match Behavior.ofText found.behavior with
  | .ok behavior => .ok behavior
  | .error fault => refuse (.config fault)

def userOfAccount (id : Int) (s : Store) : Except Failure User := do
  let found ← account id s
  orNotFound .user found.userId (s.user? found.userId)

def accountOfTransaction (id : Int) (s : Store) : Except Failure Account := do
  let found ← transaction id s
  account found.accountId s

def operationTypeOfTransaction (id : Int) (s : Store) : Except Failure OperationType := do
  let found ← transaction id s
  operationType found.operationTypeId s

def transactionsOfAccount (id : Int) (s : Store) : Except Failure (List Transaction) := do
  let _ ← account id s
  return s.transactionsById.filter fun t => t.accountId = id

def transactionsOfOperationType (id : Int) (s : Store) : Except Failure (List Transaction) := do
  let _ ← operationType id s
  return s.transactionsById.filter fun t => t.operationTypeId = id

def accountsOfUser (id : Int) (s : Store) : Option (List Account) :=
  (s.user? id).map fun _ => s.accountsById.filter fun account => account.userId = id

end Store

end Arrears
