import Arrears.Json.Record
import Arrears.Proofs.Json.Reading
import Arrears.Proofs.Ledger.Run
import Arrears.Proofs.Moment.Reading

/-!
# Snapshots are read back

A store is read back from its snapshot if its ids fit their words and its moments can be read.  A
ledger keeps its store so, as long as the clock gives such moments.
-/

namespace Arrears

/-! ## Records -/

namespace Json

theorem toInteger_integer {n : Int} (h : Word.Fits n) : toInteger (.integer n) = .ok n :=
  if_pos h

theorem toCents_integer (amount : Money) : toCents (.integer amount.minor) = .ok amount := by
  rw [toCents, toInteger_integer amount.fits]
  simp only [bind, Except.bind, Money.ofMinor?, amount.fits, dif_pos]

theorem toMoment_text {t : Moment} (h : t.Readable) : toMoment (.text t.zuluText) = .ok t := by
  rw [toMoment, Moment.ofText_zuluText h]

theorem plainItems_map {α : Type} {write : α → Json} {rows : List α}
    (h : ∀ row ∈ rows, (write row).Plain) : PlainItems (rows.map write) := by
  induction rows with
  | nil => trivial
  | cons row rows ih =>
      rw [List.forall_mem_cons] at h
      exact ⟨h.1, ih h.2⟩

end Json

/-- The numbers of the record fit their words, and its moment can be read. -/
structure Account.Storable (account : Account) : Prop where
  id : Word.Fits account.id
  userId : Word.Fits account.userId
  createdAt : account.createdAt.Readable

/-- The numbers of the record fit their words, and its moment can be read. -/
structure Transaction.Storable (t : Transaction) : Prop where
  id : Word.Fits t.id
  accountId : Word.Fits t.accountId
  operationTypeId : Word.Fits t.operationTypeId
  createdAt : t.createdAt.Readable

theorem User.ofJson_toJson {user : User} (h : Word.Fits user.id) :
    ofJson user.toJson = .ok user := by
  simp only [ofJson, toJson, Json.checked, List.lookup_cons, String.reduceBEq, Json.toInteger_integer h]
  rfl

theorem OperationType.ofJson_toJson {operationType : OperationType}
    (h : Word.Fits operationType.id) : ofJson operationType.toJson = .ok operationType := by
  simp only [ofJson, toJson, Json.checked, List.lookup_cons, String.reduceBEq, Json.toInteger_integer h]
  rfl

theorem Account.ofJson_toJson {account : Account} (h : account.Storable) :
    ofJson account.toJson = .ok account := by
  simp only [ofJson, toJson, Json.checked, List.lookup_cons, String.reduceBEq,
    Json.toInteger_integer h.id, Json.toInteger_integer h.userId, Json.toCents_integer,
    Json.toMoment_text h.createdAt]
  rfl

theorem Transaction.ofJson_toJson {t : Transaction} (h : t.Storable) :
    ofJson t.toJson = .ok t := by
  simp only [ofJson, toJson, Json.checked, List.lookup_cons, String.reduceBEq,
    Json.toInteger_integer h.id, Json.toInteger_integer h.accountId,
    Json.toInteger_integer h.operationTypeId, Json.toCents_integer, Json.toMoment_text h.createdAt]
  rfl

/-- The ids of all records fit their words. -/
structure Reference.Fits (reference : Reference) : Prop where
  users : ∀ user ∈ reference.users, Word.Fits user.id
  operationTypes : ∀ operationType ∈ reference.operationTypes, Word.Fits operationType.id

/-- What the call brings along can be read back. -/
def Call.Storable : Call → Prop
  | .seed reference => reference.Fits
  | .openAccount now _ => now.Readable
  | .post now _ => now.Readable

namespace Store

variable {s s' : Store}

/-! ## Tables -/

/-- All records of the store can be read back. -/
structure Storable (s : Store) : Prop where
  users : ∀ user ∈ s.users, Word.Fits user.id
  operationTypes : ∀ operationType ∈ s.operationTypes, Word.Fits operationType.id
  accounts : ∀ account ∈ s.accounts, account.Storable
  transactions : ∀ t ∈ s.transactions, t.Storable

theorem tableOfJson?_list {α : Type} {key : String} {read : Json → Except Json.Fault α}
    {write : α → Json} {json : Json} {rows : List α}
    (hmember : json.member? key = some (.list (rows.map write)))
    (hread : ∀ row ∈ rows, read (write row) = .ok row) :
    tableOfJson? key read json = some rows := by
  have hrows : (rows.map write).mapM read = .ok rows := by
    rw [Reference.mapM_eq_ok_iff, List.forall₂_map_left_iff, List.forall₂_same]
    exact hread
  rw [tableOfJson?, hmember]
  simp only [hrows]
  rfl

theorem ofJson?_toJson (h : s.Storable) : ofJson? s.toJson = some s := by
  have husers : tableOfJson? "users" User.ofJson s.toJson = some s.users :=
    tableOfJson?_list rfl fun user huser => User.ofJson_toJson (h.users user huser)
  have htypes : tableOfJson? "operation_types" OperationType.ofJson s.toJson =
      some s.operationTypes :=
    tableOfJson?_list rfl fun operationType hmem =>
      OperationType.ofJson_toJson (h.operationTypes operationType hmem)
  have haccounts : tableOfJson? "accounts" Account.ofJson s.toJson = some s.accounts :=
    tableOfJson?_list rfl fun account haccount =>
      Account.ofJson_toJson (h.accounts account haccount)
  have htransactions : tableOfJson? "transactions" Transaction.ofJson s.toJson =
      some s.transactions :=
    tableOfJson?_list rfl fun t ht => Transaction.ofJson_toJson (h.transactions t ht)
  rw [ofJson?, husers, htypes, haccounts, htransactions]
  rfl

theorem plain_toJson (h : s.Storable) : s.toJson.Plain := by
  have husers : Json.PlainItems (s.users.map User.toJson) :=
    Json.plainItems_map fun user huser =>
      ⟨by simp, h.users user huser, trivial, trivial⟩
  have htypes : Json.PlainItems (s.operationTypes.map OperationType.toJson) :=
    Json.plainItems_map fun operationType hmem =>
      ⟨by simp, h.operationTypes operationType hmem, trivial, trivial, trivial⟩
  have haccounts : Json.PlainItems (s.accounts.map Account.toJson) :=
    Json.plainItems_map fun account haccount => by
      have hrow := h.accounts account haccount
      exact ⟨by simp, hrow.id, trivial, account.currentBalance.fits, hrow.userId, trivial, trivial⟩
  have htransactions : Json.PlainItems (s.transactions.map Transaction.toJson) :=
    Json.plainItems_map fun t ht => by
      have hrow := h.transactions t ht
      exact ⟨by simp, hrow.id, hrow.accountId, hrow.operationTypeId, t.amount.fits,
        t.balance.fits, trivial, trivial⟩
  exact ⟨by simp, husers, htypes, haccounts, htransactions, trivial⟩

/-- **Snapshots are read back.** -/
theorem ofSnapshot?_snapshot (h : s.Storable) : ofSnapshot? s.snapshot = some s := by
  rw [ofSnapshot?, snapshot, Json.ofText?_render (plain_toJson h)]
  exact ofJson?_toJson h

/-! ## What a ledger stores -/

theorem fits_of_nextId {ids : List Int} {id : Int} (h : nextId ids = .ok id) : Word.Fits id := by
  have hnonneg : 0 ≤ largestId ids := (le_foldl_max ids 0).1
  have hid := eq_of_nextId h
  rw [nextId_eq] at h
  split at h
  · next hroom =>
      unfold Word.Fits Word.least
      unfold Word.greatest at hroom ⊢
      omega
  · cases h

theorem storable_empty : empty.Storable where
  users := by simp [empty]
  operationTypes := by simp [empty]
  accounts := by simp [empty]
  transactions := by simp [empty]

theorem Storable.fits_of_user? (hs : s.Storable) {id : Int} (h : (s.user? id).isSome = true) :
    Word.Fits id := by
  obtain ⟨user, huser⟩ := Option.isSome_iff_exists.mp h
  have hid : user.id = id := by simpa using List.find?_some huser
  exact hid ▸ hs.users user (List.mem_of_find?_eq_some huser)

theorem Storable.fits_of_account? (hs : s.Storable) {id : Int}
    (h : (s.account? id).isSome = true) : Word.Fits id := by
  obtain ⟨account, haccount⟩ := Option.isSome_iff_exists.mp h
  have hid : account.id = id := by simpa using List.find?_some haccount
  exact hid ▸ (hs.accounts account (List.mem_of_find?_eq_some haccount)).id

theorem Storable.fits_of_operationType? (hs : s.Storable) {id : Int}
    {operationType : OperationType} (h : s.operationType? id = some operationType) :
    Word.Fits id := by
  have hid : operationType.id = id := by simpa using List.find?_some h
  exact hid ▸ hs.operationTypes operationType (List.mem_of_find?_eq_some h)

theorem Storable.merged (hs : s.Storable) {reference : Reference} (hreference : reference.Fits)
    {operationTypes : List OperationType}
    (hmerge : Reference.mergeOperationTypes s.operationTypes reference.operationTypes =
      .ok operationTypes) : (s.merged reference operationTypes).Storable where
  users user huser := by
    rw [Store.merged, Reference.mergeUsers_eq] at huser
    rcases List.mem_append.mp huser with hold | hnew
    · exact hs.users user hold
    · exact hreference.users user ((Reference.entering_sublist _ _ _).subset hnew)
  operationTypes operationType hmem := by
    obtain ⟨entered, hentered, rfl⟩ := Reference.mergeOperationTypes_eq_ok_iff.mp hmerge
    rcases List.mem_append.mp hmem with hold | hnew
    · exact hs.operationTypes operationType hold
    · have hid : operationType.id ∈ entered.map OperationType.id := List.mem_map_of_mem hnew
      rw [Reference.map_id_of_canonical hentered] at hid
      obtain ⟨given, hgiven, heq⟩ := List.mem_map.mp hid
      rw [← heq]
      exact hreference.operationTypes given ((Reference.entering_sublist _ _ _).subset hgiven)
  accounts := hs.accounts
  transactions := hs.transactions

theorem Storable.step {call : Call} {answer : Answer} (hs : s.Storable) (hcall : call.Storable)
    (h : Step s call answer s') : s'.Storable := by
  cases h with
  | refused => exact hs
  | seeded hmerge => exact hs.merged hcall hmerge
  | @opened now request document id hcheck huser hid hnew =>
      refine ⟨hs.users, hs.operationTypes, ?_, hs.transactions⟩
      rw [Store.withAccount, List.forall_mem_append, List.forall_mem_singleton]
      exact ⟨hs.accounts, fits_of_nextId hid, hs.fits_of_user? huser, hcall⟩
  | @booked now request operationType behavior id hpos haccount htype hbehavior hid =>
      refine ⟨by simpa using hs.users, by simpa using hs.operationTypes,
        by simpa using hs.accounts, fun t ht => ?_⟩
      rcases mem_booked ht with ⟨u, hu, credit, rfl⟩ | rfl
      · obtain ⟨hid, haccountId, htypeId, hcreated⟩ := hs.transactions u hu
        exact ⟨hid, haccountId, htypeId, hcreated⟩
      · exact ⟨fits_of_nextId hid, hs.fits_of_account? haccount, hs.fits_of_operationType? htype,
          hcall⟩

theorem Steps.storable {calls : List Call} {answers : List Answer}
    (h : Steps s calls answers s') (hcalls : ∀ call ∈ calls, call.Storable) (hs : s.Storable) :
    s'.Storable := by
  induction h with
  | nil => exact hs
  | cons hsound hstep _ ih =>
      obtain ⟨hcall, hrest⟩ := List.forall_mem_cons.mp hcalls
      exact ih hrest (hs.step hcall hstep)

end Store

/-- A file that holds the snapshot of a store is this database. -/
theorem Content.ofBytes_snapshot {s : Store} (h : s.Storable) :
    ofBytes (Text.bytes s.snapshot) = .database s := by
  rw [ofBytes, Text.decodeUtf8_bytes]
  simp only [String.ofList_toList, Store.ofSnapshot?_snapshot h]

end Arrears
