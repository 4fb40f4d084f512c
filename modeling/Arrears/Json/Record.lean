import Arrears.Files
import Arrears.Json.Reader
import Arrears.Ledger
import Arrears.Text.Unicode

/-!
# Records of the ledger in JSON

Requests and stored records are read from JSON.  The amounts of requests are texts, those of stored
records whole numbers of cents.
-/

namespace Arrears

/-! ## Typed members

A record of the ledger is given as a JSON record or as a list of its members in the order of
declaration.  In a record the members are checked in the order of their keys, unknown ones are passed
over, and only then a missing member is reported, the first in the order of declaration.  In a list
the members are checked one after the other, then the length.
-/

namespace Json

inductive Fault
  /-- A value of another type than expected. -/
  | mistyped (found expected : String)
  /-- A whole number beyond the 64-bit range. -/
  | misvalued (found expected : String)
  | missing (key : String)
  | length (found : Nat) (expected : String)
  | amount (fault : AmountFault)
  | moment (fault : Moment.Fault)
deriving DecidableEq, Repr

def Fault.message : Fault → String
  | .mistyped found expected => "invalid type: " ++ found ++ ", expected " ++ expected
  | .misvalued found expected => "invalid value: " ++ found ++ ", expected " ++ expected
  | .missing key => "missing field `" ++ key ++ "`"
  | .length found expected =>
    "invalid length " ++ Text.ofNat found ++ ", expected " ++ expected
  | .amount fault => "Validation failed: " ++ fault.message
  | .moment fault => fault.message

def kind : Json → String
  | .null => "null"
  | .truth true => "boolean `true`"
  | .truth false => "boolean `false`"
  | .integer n => "integer `" ++ Text.ofInt n ++ "`"
  | .real x => "floating point `" ++ x.text ++ "`"
  | .text s => "string " ++ Text.escaped s
  | .list _ => "sequence"
  | .record _ => "map"

def mistyped {α : Type} (expected : String) (json : Json) : Except Fault α :=
  .error (.mistyped json.kind expected)

def toText : Json → Except Fault String
  | .text s => .ok s
  | json => mistyped "a string" json

def toInteger : Json → Except Fault Int
  | .integer n =>
    if Word.Fits n then .ok n else .error (.misvalued (kind (.integer n)) "i64")
  | json => mistyped "i64" json

def toCents (json : Json) : Except Fault Money := do
  let n ← toInteger json
  match Money.ofMinor? n with
  | some amount => .ok amount
  | none => .error (.misvalued (kind (.integer n)) "i64")

def toMoney (json : Json) : Except Fault Money := do
  match Money.ofText (← toText json) with
  | .ok amount => .ok amount
  | .error fault => .error (.amount fault)

/-- An amount is written as a text. -/
def ofMoney (amount : Money) : Json :=
  .text amount.text

def toMoment : Json → Except Fault Moment
  | .text s =>
    match Moment.ofText s with
    | .ok moment => .ok moment
    | .error fault => .error (.moment fault)
  | json => mistyped "an RFC 3339 formatted date and time string" json

/-- Checks the member of a record with a key, if there is one. -/
def checked {α : Type} (members : List (String × Json)) (key : String)
    (read : Json → Except Fault α) : Except Fault (Option α) :=
  match members.lookup key with
  | some json => (read json).map some
  | none => .ok none

def required {α : Type} (key : String) : Option α → Except Fault α
  | some value => .ok value
  | none => .error (.missing key)

/-- What a list has to be that stands for a record with so many members. -/
def expectedLength (name : String) (size : Nat) : String :=
  "struct " ++ name ++ " with " ++ Text.ofNat size ++
    (if size = 1 then " element" else " elements")

def item {α : Type} (name : String) (size : Nat) (items : List Json) (place : Nat)
    (read : Json → Except Fault α) : Except Fault α :=
  match items[place]? with
  | some json => read json
  | none => .error (.length place (expectedLength name size))

/-- A list that stands for a record has no further items. -/
def noMore (size : Nat) (items : List Json) : Except Fault Unit :=
  if items.length ≤ size then .ok ()
  else .error (.length items.length "fewer elements in array")

end Json

/-! ## Records -/

def NewAccount.ofJson : Json → Except Json.Fault NewAccount
  | .record members => do
    let balance ← Json.checked members "current_balance" Json.toMoney
    let document ← Json.checked members "document_number" Json.toText
    let userId ← Json.checked members "user_id" Json.toInteger
    let document ← Json.required "document_number" document
    let balance ← Json.required "current_balance" balance
    let userId ← Json.required "user_id" userId
    return ⟨document, balance, userId⟩
  | .list items => do
    let document ← Json.item "NewAccount" 3 items 0 Json.toText
    let balance ← Json.item "NewAccount" 3 items 1 Json.toMoney
    let userId ← Json.item "NewAccount" 3 items 2 Json.toInteger
    Json.noMore 3 items
    return ⟨document, balance, userId⟩
  | json => Json.mistyped "struct NewAccount" json

def NewTransaction.ofJson : Json → Except Json.Fault NewTransaction
  | .record members => do
    let accountId ← Json.checked members "account_id" Json.toInteger
    let amount ← Json.checked members "amount" Json.toMoney
    let operationTypeId ← Json.checked members "operation_type_id" Json.toInteger
    let accountId ← Json.required "account_id" accountId
    let operationTypeId ← Json.required "operation_type_id" operationTypeId
    let amount ← Json.required "amount" amount
    return ⟨accountId, operationTypeId, amount⟩
  | .list items => do
    let accountId ← Json.item "NewTransaction" 3 items 0 Json.toInteger
    let operationTypeId ← Json.item "NewTransaction" 3 items 1 Json.toInteger
    let amount ← Json.item "NewTransaction" 3 items 2 Json.toMoney
    Json.noMore 3 items
    return ⟨accountId, operationTypeId, amount⟩
  | json => Json.mistyped "struct NewTransaction" json

namespace User

def ofJson : Json → Except Json.Fault User
  | .record members => do
    let id ← Json.checked members "id" Json.toInteger
    let name ← Json.checked members "name" Json.toText
    let id ← Json.required "id" id
    let name ← Json.required "name" name
    return ⟨id, name⟩
  | .list items => do
    let id ← Json.item "Model" 2 items 0 Json.toInteger
    let name ← Json.item "Model" 2 items 1 Json.toText
    Json.noMore 2 items
    return ⟨id, name⟩
  | json => Json.mistyped "struct Model" json

def toJson (user : User) : Json :=
  .record [("id", .integer user.id), ("name", .text user.name)]

end User

namespace OperationType

def ofJson : Json → Except Json.Fault OperationType
  | .record members => do
    let behavior ← Json.checked members "amount_behavior" Json.toText
    let description ← Json.checked members "description" Json.toText
    let id ← Json.checked members "id" Json.toInteger
    let id ← Json.required "id" id
    let description ← Json.required "description" description
    let behavior ← Json.required "amount_behavior" behavior
    return ⟨id, description, behavior⟩
  | .list items => do
    let id ← Json.item "Model" 3 items 0 Json.toInteger
    let description ← Json.item "Model" 3 items 1 Json.toText
    let behavior ← Json.item "Model" 3 items 2 Json.toText
    Json.noMore 3 items
    return ⟨id, description, behavior⟩
  | json => Json.mistyped "struct Model" json

def toJson (operationType : OperationType) : Json :=
  .record
    [("id", .integer operationType.id), ("description", .text operationType.description),
      ("amount_behavior", .text operationType.behavior)]

end OperationType

namespace Account

def ofJson : Json → Except Json.Fault Account
  | .record members => do
    let createdAt ← Json.checked members "created_at" Json.toMoment
    let balance ← Json.checked members "current_balance" Json.toCents
    let document ← Json.checked members "document_number" Json.toText
    let id ← Json.checked members "id" Json.toInteger
    let userId ← Json.checked members "user_id" Json.toInteger
    let id ← Json.required "id" id
    let document ← Json.required "document_number" document
    let balance ← Json.required "current_balance" balance
    let userId ← Json.required "user_id" userId
    let createdAt ← Json.required "created_at" createdAt
    return ⟨id, document, balance, userId, createdAt⟩
  | .list items => do
    let id ← Json.item "Model" 5 items 0 Json.toInteger
    let document ← Json.item "Model" 5 items 1 Json.toText
    let balance ← Json.item "Model" 5 items 2 Json.toCents
    let userId ← Json.item "Model" 5 items 3 Json.toInteger
    let createdAt ← Json.item "Model" 5 items 4 Json.toMoment
    Json.noMore 5 items
    return ⟨id, document, balance, userId, createdAt⟩
  | json => Json.mistyped "struct Model" json

def toJson (account : Account) : Json :=
  .record
    [("id", .integer account.id), ("document_number", .text account.document),
      ("current_balance", .integer account.currentBalance.minor),
      ("user_id", .integer account.userId), ("created_at", .text account.createdAt.zuluText)]

end Account

namespace Transaction

def ofJson : Json → Except Json.Fault Transaction
  | .record members => do
    let accountId ← Json.checked members "account_id" Json.toInteger
    let amount ← Json.checked members "amount" Json.toCents
    let balance ← Json.checked members "balance" Json.toCents
    let createdAt ← Json.checked members "created_at" Json.toMoment
    let id ← Json.checked members "id" Json.toInteger
    let operationTypeId ← Json.checked members "operation_type_id" Json.toInteger
    let id ← Json.required "id" id
    let accountId ← Json.required "account_id" accountId
    let operationTypeId ← Json.required "operation_type_id" operationTypeId
    let amount ← Json.required "amount" amount
    let balance ← Json.required "balance" balance
    let createdAt ← Json.required "created_at" createdAt
    return ⟨id, accountId, operationTypeId, amount, balance, createdAt⟩
  | .list items => do
    let id ← Json.item "Model" 6 items 0 Json.toInteger
    let accountId ← Json.item "Model" 6 items 1 Json.toInteger
    let operationTypeId ← Json.item "Model" 6 items 2 Json.toInteger
    let amount ← Json.item "Model" 6 items 3 Json.toCents
    let balance ← Json.item "Model" 6 items 4 Json.toCents
    let createdAt ← Json.item "Model" 6 items 5 Json.toMoment
    Json.noMore 6 items
    return ⟨id, accountId, operationTypeId, amount, balance, createdAt⟩
  | json => Json.mistyped "struct Model" json

def toJson (t : Transaction) : Json :=
  .record
    [("id", .integer t.id), ("account_id", .integer t.accountId),
      ("operation_type_id", .integer t.operationTypeId), ("amount", .integer t.amount.minor),
      ("balance", .integer t.balance.minor), ("created_at", .text t.createdAt.zuluText)]

end Transaction

/-! ## Snapshots

A snapshot is the text of a whole store: a JSON record of its four tables, each with its records
in order of insertion.  Files that hold a snapshot are databases; all others are plain bytes.
-/

namespace Store

def toJson (s : Store) : Json :=
  .record
    [("users", .list (s.users.map User.toJson)),
      ("operation_types", .list (s.operationTypes.map OperationType.toJson)),
      ("accounts", .list (s.accounts.map Account.toJson)),
      ("transactions", .list (s.transactions.map Transaction.toJson))]

def tableOfJson? {α : Type} (key : String) (read : Json → Except Json.Fault α) (json : Json) :
    Option (List α) :=
  match json.member? key with
  | some (.list rows) => (rows.mapM read).toOption
  | _ => none

def ofJson? (json : Json) : Option Store := do
  let users ← tableOfJson? "users" User.ofJson json
  let operationTypes ← tableOfJson? "operation_types" OperationType.ofJson json
  let accounts ← tableOfJson? "accounts" Account.ofJson json
  let transactions ← tableOfJson? "transactions" Transaction.ofJson json
  return ⟨users, operationTypes, accounts, transactions⟩

def snapshot (s : Store) : String :=
  s.toJson.render

def ofSnapshot? (text : String) : Option Store :=
  Json.ofText? text >>= ofJson?

end Store

def Content.ofBytes (bytes : List UInt8) : Content :=
  match Text.decodeUtf8 bytes with
  | .ok chars =>
    match Store.ofSnapshot? (String.ofList chars) with
    | some store => .database store
    | none => .bytes bytes
  | .error _ => .bytes bytes

end Arrears
