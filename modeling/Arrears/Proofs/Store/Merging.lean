import Arrears.Proofs.Money
import Arrears.Store.Entry
import Mathlib.Data.List.Forall2

/-!
# Records entering the store

A record that enters stands behind all others of its table, and nothing else changes.  Ids that the
store gives out follow the largest one of the table.
-/

namespace Arrears
namespace Store

/-! ## Ids -/

/-- The largest id of a table, or 0. -/
def largestId (ids : List Int) : Int :=
  ids.foldl max 0

theorem le_foldl_max (ids : List Int) (n : Int) :
    n ≤ ids.foldl max n ∧ ∀ id ∈ ids, id ≤ ids.foldl max n := by
  induction ids generalizing n with
  | nil => simp
  | cons id ids ih =>
      obtain ⟨hstart, hids⟩ := ih (max n id)
      rw [List.foldl_cons]
      constructor
      · omega
      · intro other hother
        rcases List.mem_cons.mp hother with rfl | hother
        · omega
        · exact hids other hother

theorem le_largestId {ids : List Int} {id : Int} (h : id ∈ ids) : id ≤ largestId ids :=
  (le_foldl_max ids 0).2 id h

theorem largestId_append_singleton (ids : List Int) (id : Int) :
    largestId (ids ++ [id]) = max (largestId ids) id := by
  rw [largestId, List.foldl_append]
  rfl

theorem nextId_eq (ids : List Int) :
    nextId ids =
      if largestId ids < Word.greatest then .ok (largestId ids + 1) else .error .idsExhausted :=
  rfl

theorem eq_idsExhausted_of_nextId {ids : List Int} {fault : StoreFault}
    (h : nextId ids = .error fault) : fault = .idsExhausted := by
  rw [nextId_eq] at h
  split at h
  · cases h
  · exact (Except.error.inj h).symm

theorem eq_of_nextId {ids : List Int} {id : Int} (h : nextId ids = .ok id) :
    id = largestId ids + 1 := by
  rw [nextId_eq] at h
  split at h
  · exact (Except.ok.inj h).symm
  · cases h

theorem lt_of_nextId {ids : List Int} {id other : Int} (h : nextId ids = .ok id)
    (hother : other ∈ ids) : other < id := by
  have hle := le_largestId hother
  rw [eq_of_nextId h]
  omega

theorem largestId_append_nextId {ids : List Int} {id : Int} (h : nextId ids = .ok id) :
    largestId (ids ++ [id]) = id := by
  have hid := eq_of_nextId h
  rw [largestId_append_singleton]
  omega

/-- A table whose largest id is no larger has a next id too, and no larger a one. -/
theorem exists_nextId_of_le {ids others : List Int} {id : Int} (h : nextId ids = .ok id)
    (hle : largestId others ≤ largestId ids) : ∃ other, nextId others = .ok other ∧ other ≤ id := by
  have hid := eq_of_nextId h
  have hroom : largestId others < Word.greatest := by
    rw [nextId_eq] at h
    split at h
    · omega
    · cases h
  refine ⟨largestId others + 1, ?_, by omega⟩
  rw [nextId_eq, if_pos hroom]

theorem largestId_lt {ids : List Int} {bound : Int} (hbound : 0 < bound)
    (h : ∀ id ∈ ids, id < bound) : largestId ids < bound := by
  have hfold : ∀ (ids : List Int) (n : Int), n < bound → (∀ id ∈ ids, id < bound) →
      ids.foldl max n < bound := by
    intro ids
    induction ids with
    | nil => exact fun n hn _ => hn
    | cons id ids ih =>
        intro n hn hids
        obtain ⟨hfirst, hrest⟩ := List.forall_mem_cons.mp hids
        exact ih (max n id) (by omega) hrest
  exact hfold ids 0 hbound h

theorem exists_nextId {ids : List Int} (h : ∀ id ∈ ids, id < Word.greatest) :
    ∃ id, nextId ids = .ok id :=
  ⟨_, by rw [nextId_eq, if_pos (largestId_lt (by decide) h)]⟩

/-! ## Insertions -/

/-- The store with a booking behind all others. -/
def withBooking (s : Store) (t : Transaction) : Store :=
  { s with transactions := s.transactions ++ [t] }

@[simp] theorem withBooking_transactions (s : Store) (t : Transaction) :
    (s.withBooking t).transactions = s.transactions ++ [t] :=
  rfl

@[simp] theorem withBooking_users (s : Store) (t : Transaction) :
    (s.withBooking t).users = s.users :=
  rfl

@[simp] theorem withBooking_operationTypes (s : Store) (t : Transaction) :
    (s.withBooking t).operationTypes = s.operationTypes :=
  rfl

@[simp] theorem withBooking_accounts (s : Store) (t : Transaction) :
    (s.withBooking t).accounts = s.accounts :=
  rfl

theorem insertTransaction_eq {s : Store} {accountId operationTypeId : Int}
    (haccount : (s.account? accountId).isSome = true)
    (htype : (s.operationType? operationTypeId).isSome = true) (amount balance : Money)
    (now : Moment) :
    s.insertTransaction none accountId operationTypeId amount balance now =
      (nextId (s.transactions.map (·.id))).map fun id =>
        (⟨id, accountId, operationTypeId, amount, balance, now⟩,
          s.withBooking ⟨id, accountId, operationTypeId, amount, balance, now⟩) := by
  have haccount' : (s.account? accountId).isNone = false := Option.isNone_eq_false_iff.mpr haccount
  have htype' : (s.operationType? operationTypeId).isNone = false :=
    Option.isNone_eq_false_iff.mpr htype
  simp only [insertTransaction, newId, haccount', htype']
  cases nextId (s.transactions.map (·.id)) <;> rfl

def withAccount (s : Store) (account : Account) : Store :=
  { s with accounts := s.accounts ++ [account] }

theorem insertAccount_eq {s : Store} {userId : Int} (huser : (s.user? userId).isSome = true)
    (document : String) (balance : Money) (now : Moment) :
    s.insertAccount none document balance userId now =
      match nextId (s.accounts.map (·.id)) with
      | .error fault => .error fault
      | .ok id =>
        if s.accounts.any fun account => account.document = document then
          .error .duplicateDocument
        else
          .ok (⟨id, document, balance, userId, now⟩,
            s.withAccount ⟨id, document, balance, userId, now⟩) := by
  have huser' : (s.user? userId).isNone = false := Option.isNone_eq_false_iff.mpr huser
  simp only [insertAccount, newId, huser']
  cases nextId (s.accounts.map (·.id)) with
  | error fault => rfl
  | ok id =>
      cases s.accounts.any fun account => account.document = document <;> rfl

end Store

/-! ## Merging reference data -/

namespace Reference

/-- Operation types that enter stand behind all others, with their behavior in canonical text. -/
theorem mergeOperationTypes_eq_ok :
    ∀ {new rows rows' : List OperationType}, mergeOperationTypes rows new = .ok rows' →
      ∃ added, rows' = rows ++ added ∧
        ∀ operationType ∈ added, ∃ behavior : Behavior, operationType.behavior = behavior.text
  | [], rows, rows', h => by
      refine ⟨[], ?_, by simp⟩
      rw [List.append_nil]
      exact (Except.ok.inj h).symm
  | operationType :: new, rows, rows', h => by
      rw [mergeOperationTypes] at h
      split at h
      · exact mergeOperationTypes_eq_ok h
      · cases hbehavior : Behavior.ofText operationType.behavior with
        | error fault =>
            rw [hbehavior] at h
            cases h
        | ok behavior =>
            rw [hbehavior] at h
            obtain ⟨added, hrows, hadded⟩ := mergeOperationTypes_eq_ok h
            refine ⟨{ operationType with behavior := behavior.text } :: added, ?_, ?_⟩
            · rw [hrows, List.append_assoc]
              rfl
            · intro other hother
              rcases List.mem_cons.mp hother with rfl | hother
              · exact ⟨behavior, rfl⟩
              · exact hadded other hother

end Reference

/-! ## Merging by ids

Reference data may repeat ids and may name ids that are stored already.  `entering` is the walk of a
merge on ids alone, the same for users and operation types.  A record enters exactly if it is the
first of its id in the list and the table did not have the id from the start (`mem_entering_iff`).
-/

namespace Reference

instance : Append Reference :=
  ⟨fun a b => ⟨a.operationTypes ++ b.operationTypes, a.users ++ b.users⟩⟩

@[simp] theorem append_users (a b : Reference) : (a ++ b).users = a.users ++ b.users :=
  rfl

@[simp] theorem append_operationTypes (a b : Reference) :
    (a ++ b).operationTypes = a.operationTypes ++ b.operationTypes :=
  rfl

/-! ### The records that enter a table -/

section Entering

variable {α : Type} {id : α → Int} {taken : List Int} {given : List α} {x : α}

/-- The records of a list that enter a table in which some ids are taken. -/
def entering (id : α → Int) (taken : List Int) : List α → List α
  | [] => []
  | x :: given =>
    if id x ∈ taken then entering id taken given
    else x :: entering id (taken ++ [id x]) given

theorem entering_cons_of_mem (h : id x ∈ taken) (given : List α) :
    entering id taken (x :: given) = entering id taken given := by
  rw [entering, if_pos h]

theorem entering_cons_of_not_mem (h : id x ∉ taken) (given : List α) :
    entering id taken (x :: given) = x :: entering id (taken ++ [id x]) given := by
  rw [entering, if_neg h]

theorem entering_sublist (id : α → Int) (taken : List Int) (given : List α) :
    (entering id taken given).Sublist given := by
  induction given generalizing taken with
  | nil => exact List.Sublist.refl _
  | cons x given ih =>
      by_cases h : id x ∈ taken
      · rw [entering_cons_of_mem h]
        exact (ih taken).cons x
      · rw [entering_cons_of_not_mem h]
        exact (ih _).cons_cons x

/-- A record enters if it is the first of its id and the id was not taken from the start. -/
theorem mem_entering_iff :
    x ∈ entering id taken given ↔
      id x ∉ taken ∧ given.find? (fun y => id y = id x) = some x := by
  induction given generalizing taken with
  | nil => simp [entering]
  | cons y given ih =>
      by_cases h : id y ∈ taken
      · rw [entering_cons_of_mem h, ih]
        constructor
        · rintro ⟨hfree, hfirst⟩
          have hne : id y ≠ id x := fun heq => hfree (heq ▸ h)
          exact ⟨hfree, by simpa [hne] using hfirst⟩
        · rintro ⟨hfree, hfirst⟩
          have hne : id y ≠ id x := fun heq => hfree (heq ▸ h)
          exact ⟨hfree, by simpa [hne] using hfirst⟩
      · rw [entering_cons_of_not_mem h, List.mem_cons, ih]
        by_cases heq : id y = id x
        · -- No later record of this id enters, since the first one takes the id.
          rw [heq] at h
          simp [heq, h, eq_comm]
        · have hne : x ≠ y := fun hxy => heq (by rw [hxy])
          simp [heq, Ne.symm heq, hne]

theorem nodup_entering (id : α → Int) (taken : List Int) (given : List α) :
    ((entering id taken given).map id).Nodup := by
  induction given generalizing taken with
  | nil => exact List.nodup_nil
  | cons x given ih =>
      by_cases h : id x ∈ taken
      · rw [entering_cons_of_mem h]
        exact ih taken
      · rw [entering_cons_of_not_mem h, List.map_cons, List.nodup_cons]
        refine ⟨fun hagain => ?_, ih _⟩
        obtain ⟨y, hy, heq⟩ := List.mem_map.mp hagain
        exact (mem_entering_iff.mp hy).1 (by simp [heq])

theorem mem_taken_of_mem (h : x ∈ given) :
    id x ∈ taken ++ (entering id taken given).map id := by
  by_cases htaken : id x ∈ taken
  · exact List.mem_append_left _ htaken
  · obtain ⟨first, hfirst⟩ : ∃ first, given.find? (fun y => id y = id x) = some first :=
      Option.isSome_iff_exists.mp (List.find?_isSome.mpr ⟨x, h, by simp⟩)
    have hid : id first = id x := by simpa using List.find?_some hfirst
    refine List.mem_append_right _ (List.mem_map.mpr ⟨first, ?_, hid⟩)
    rw [mem_entering_iff, hid]
    exact ⟨htaken, hfirst⟩

theorem entering_eq_nil (h : ∀ x ∈ given, id x ∈ taken) : entering id taken given = [] := by
  refine List.eq_nil_iff_forall_not_mem.mpr fun x hx => ?_
  exact (mem_entering_iff.mp hx).1 (h x ((entering_sublist id taken given).subset hx))

theorem any_id_eq (rows : List α) (n : Int) :
    (rows.any fun row => id row = n) = decide (n ∈ rows.map id) := by
  rw [Bool.eq_iff_iff]
  simp [List.any_eq_true]

end Entering

/-! ### The two merges -/

theorem mergeUsers_eq (rows given : List User) :
    mergeUsers rows given = rows ++ entering User.id (rows.map User.id) given := by
  induction given generalizing rows with
  | nil => simp [mergeUsers, entering]
  | cons user given ih =>
      rw [mergeUsers, any_id_eq]
      by_cases h : user.id ∈ rows.map User.id
      · rw [if_pos (by simpa using h), ih, entering_cons_of_mem h]
      · rw [if_neg (by simpa using h), ih, entering_cons_of_not_mem h, List.map_append,
          List.append_assoc]
        rfl

theorem mergeUsers_append (rows given more : List User) :
    mergeUsers rows (given ++ more) = mergeUsers (mergeUsers rows given) more := by
  induction given generalizing rows with
  | nil => rfl
  | cons user given ih =>
      rw [List.cons_append, mergeUsers, mergeUsers]
      split
      · exact ih rows
      · exact ih _

/-- An operation type as it is stored. -/
def canonical (operationType : OperationType) : Except ConfigFault OperationType :=
  (Behavior.ofText operationType.behavior).map fun behavior =>
    { operationType with behavior := behavior.text }

theorem canonical_eq_ok_iff {operationType stored : OperationType} :
    canonical operationType = .ok stored ↔
      ∃ behavior, Behavior.ofText operationType.behavior = .ok behavior ∧
        stored = { operationType with behavior := behavior.text } := by
  rw [canonical]
  cases Behavior.ofText operationType.behavior with
  | error fault => simp [Except.map]
  | ok behavior => simp [Except.map, eq_comm]

theorem canonical_eq_error_iff {operationType : OperationType} {fault : ConfigFault} :
    canonical operationType = .error fault ↔
      Behavior.ofText operationType.behavior = .error fault := by
  rw [canonical]
  cases Behavior.ofText operationType.behavior with
  | error fault => simp [Except.map]
  | ok behavior => simp [Except.map]

theorem id_of_canonical {operationType stored : OperationType}
    (h : canonical operationType = .ok stored) : stored.id = operationType.id := by
  obtain ⟨behavior, -, rfl⟩ := canonical_eq_ok_iff.mp h
  rfl

theorem mergeOperationTypes_cons_of_mem {rows : List OperationType}
    {operationType : OperationType} (h : operationType.id ∈ rows.map OperationType.id)
    (given : List OperationType) :
    mergeOperationTypes rows (operationType :: given) = mergeOperationTypes rows given := by
  rw [mergeOperationTypes, any_id_eq, if_pos (by simpa using h)]

theorem mergeOperationTypes_cons_of_not_mem {rows : List OperationType}
    {operationType : OperationType} (h : operationType.id ∉ rows.map OperationType.id)
    (given : List OperationType) :
    mergeOperationTypes rows (operationType :: given) =
      (canonical operationType).bind fun stored =>
        mergeOperationTypes (rows ++ [stored]) given := by
  rw [mergeOperationTypes, any_id_eq, if_neg (by simpa using h), canonical]
  cases Behavior.ofText operationType.behavior <;> rfl

theorem mergeOperationTypes_eq (rows given : List OperationType) :
    mergeOperationTypes rows given =
      ((entering OperationType.id (rows.map OperationType.id) given).mapM canonical).map
        (rows ++ ·) := by
  induction given generalizing rows with
  | nil => simp [mergeOperationTypes, entering, pure, Except.pure, Except.map]
  | cons operationType given ih =>
      by_cases h : operationType.id ∈ rows.map OperationType.id
      · rw [mergeOperationTypes_cons_of_mem h, ih, entering_cons_of_mem h]
      · rw [mergeOperationTypes_cons_of_not_mem h, entering_cons_of_not_mem h, List.mapM_cons]
        cases hstored : canonical operationType with
        | error fault => rfl
        | ok stored =>
            have hids : (rows ++ [stored]).map OperationType.id =
                rows.map OperationType.id ++ [operationType.id] := by
              rw [List.map_append, ← id_of_canonical hstored]
              rfl
            rw [Except.bind, ih, hids]
            cases (entering OperationType.id (rows.map OperationType.id ++ [operationType.id])
              given).mapM canonical with
            | error fault => rfl
            | ok entered =>
                show Except.ok ((rows ++ [stored]) ++ entered) = .ok (rows ++ stored :: entered)
                rw [List.append_assoc]
                rfl

theorem mergeOperationTypes_append (rows given more : List OperationType) :
    mergeOperationTypes rows (given ++ more) =
      (mergeOperationTypes rows given).bind fun rows => mergeOperationTypes rows more := by
  induction given generalizing rows with
  | nil => rfl
  | cons operationType given ih =>
      rw [List.cons_append]
      by_cases h : operationType.id ∈ rows.map OperationType.id
      · rw [mergeOperationTypes_cons_of_mem h, mergeOperationTypes_cons_of_mem h, ih]
      · rw [mergeOperationTypes_cons_of_not_mem h, mergeOperationTypes_cons_of_not_mem h]
        cases canonical operationType with
        | error fault => rfl
        | ok stored => exact ih _

theorem prefix_mergeUsers (rows given : List User) : rows <+: mergeUsers rows given := by
  rw [mergeUsers_eq]
  exact List.prefix_append _ _

theorem prefix_mergeOperationTypes {rows given rows' : List OperationType}
    (h : mergeOperationTypes rows given = .ok rows') : rows <+: rows' := by
  obtain ⟨added, rfl, -⟩ := mergeOperationTypes_eq_ok h
  exact List.prefix_append _ _

/-! ### When a merge of operation types succeeds -/

theorem mapM_eq_ok_iff {α β ε : Type} {f : α → Except ε β} {xs : List α} {ys : List β} :
    xs.mapM f = .ok ys ↔ List.Forall₂ (fun x y => f x = .ok y) xs ys := by
  induction xs generalizing ys with
  | nil => cases ys <;> simp [pure, Except.pure]
  | cons x xs ih =>
      rw [List.mapM_cons]
      cases hx : f x with
      | error fault => cases ys <;> simp [bind, Except.bind, hx]
      | ok y =>
          cases hxs : xs.mapM f with
          | error fault => cases ys <;> simp [bind, Except.bind, hx, hxs, ← ih]
          | ok rest => cases ys <;> simp [bind, Except.bind, pure, Except.pure, hx, hxs, ← ih]

theorem exists_mapM_eq_error_iff {α β ε : Type} {f : α → Except ε β} {xs : List α} :
    (∃ fault, xs.mapM f = .error fault) ↔ ∃ x ∈ xs, ∃ fault, f x = .error fault := by
  induction xs with
  | nil => simp [pure, Except.pure]
  | cons x xs ih =>
      rw [List.mapM_cons]
      cases hx : f x with
      | error fault => simp [bind, Except.bind, hx]
      | ok y =>
          cases hxs : xs.mapM f with
          | error fault => simpa [bind, Except.bind, hx, hxs] using ih
          | ok ys => simpa [bind, Except.bind, pure, Except.pure, hx, hxs] using ih

theorem mergeOperationTypes_eq_ok_iff {rows given rows' : List OperationType} :
    mergeOperationTypes rows given = .ok rows' ↔
      ∃ entered, List.Forall₂ (fun operationType stored => canonical operationType = .ok stored)
          (entering OperationType.id (rows.map OperationType.id) given) entered ∧
        rows' = rows ++ entered := by
  rw [mergeOperationTypes_eq]
  simp only [← mapM_eq_ok_iff]
  cases (entering OperationType.id (rows.map OperationType.id) given).mapM canonical with
  | error fault => simp [Except.map]
  | ok entered => simp [Except.map, eq_comm]

theorem exists_mergeOperationTypes_eq_error_iff {rows given : List OperationType} :
    (∃ fault, mergeOperationTypes rows given = .error fault) ↔
      ∃ operationType ∈ entering OperationType.id (rows.map OperationType.id) given,
        ∃ fault, Behavior.ofText operationType.behavior = .error fault := by
  simp only [← canonical_eq_error_iff, ← exists_mapM_eq_error_iff, mergeOperationTypes_eq]
  cases (entering OperationType.id (rows.map OperationType.id) given).mapM canonical <;>
    simp [Except.map]

/-! ### Merging the same data again -/

theorem mergeUsers_again (rows given : List User) :
    mergeUsers (mergeUsers rows given) given = mergeUsers rows given := by
  rw [mergeUsers_eq (mergeUsers rows given), mergeUsers_eq rows, List.map_append,
    entering_eq_nil fun user huser => mem_taken_of_mem huser, List.append_nil]

theorem map_id_of_canonical {given entered : List OperationType}
    (h : List.Forall₂ (fun operationType stored => canonical operationType = .ok stored)
      given entered) : entered.map OperationType.id = given.map OperationType.id := by
  induction h with
  | nil => rfl
  | cons hstored _ ih => rw [List.map_cons, List.map_cons, id_of_canonical hstored, ih]

theorem mergeOperationTypes_again {rows given rows' : List OperationType}
    (h : mergeOperationTypes rows given = .ok rows') :
    mergeOperationTypes rows' given = .ok rows' := by
  obtain ⟨entered, hentered, rfl⟩ := mergeOperationTypes_eq_ok_iff.mp h
  rw [mergeOperationTypes_eq, List.map_append, map_id_of_canonical hentered,
    entering_eq_nil fun operationType hmem => mem_taken_of_mem hmem]
  exact congrArg Except.ok (List.append_nil _)

/-! ### Reference data that are accepted -/

theorem readable_of_checkBehaviors {given : List OperationType}
    (h : checkBehaviors given = .ok ()) :
    ∀ operationType ∈ given, ∃ behavior, Behavior.ofText operationType.behavior = .ok behavior := by
  induction given with
  | nil => simp
  | cons operationType given ih =>
      rw [checkBehaviors] at h
      cases hread : Behavior.ofText operationType.behavior with
      | error fault =>
          rw [hread] at h
          cases h
      | ok behavior =>
          rw [hread] at h
          exact List.forall_mem_cons.mpr ⟨⟨behavior, hread⟩, ih h⟩

theorem readable_of_ofToml {text : String} {reference : Reference}
    (h : ofToml text = .ok reference) :
    ∀ operationType ∈ reference.operationTypes,
      ∃ behavior, Behavior.ofText operationType.behavior = .ok behavior := by
  rw [ofToml] at h
  cases hparse : parse? text with
  | none =>
      rw [hparse] at h
      cases h
  | some parsed =>
      rw [hparse] at h
      cases hcheck : checkBehaviors parsed.operationTypes with
      | error fault =>
          simp only [hcheck] at h
          cases h
      | ok =>
          simp only [hcheck] at h
          obtain rfl : parsed = reference := Except.ok.inj h
          exact readable_of_checkBehaviors hcheck

/-! ### What a merge does to a store -/

theorem seed_of_error {s : Store} {reference : Reference} {fault : ConfigFault}
    (h : mergeOperationTypes s.operationTypes reference.operationTypes = .error fault) :
    reference.seed (.opened s) = (refuse (.config fault), .opened s) := by
  simp only [seed, Database.commit, Database.perform, merge, h]
  rfl

theorem seed_of_ok {s : Store} {reference : Reference} {operationTypes : List OperationType}
    (h : mergeOperationTypes s.operationTypes reference.operationTypes = .ok operationTypes) :
    reference.seed (.opened s) =
      (.ok ((mergeUsers s.users reference.users).length - s.users.length +
          (operationTypes.length - s.operationTypes.length)),
        .opened { s with
          users := mergeUsers s.users reference.users
          operationTypes := operationTypes }) := by
  simp only [seed, Database.commit, Database.perform, merge, h]
  rfl

theorem exists_of_seed_eq_ok {s : Store} {reference : Reference} {n : Nat} {db : Database}
    (h : reference.seed (.opened s) = (.ok n, db)) :
    ∃ operationTypes,
      mergeOperationTypes s.operationTypes reference.operationTypes = .ok operationTypes := by
  cases hmerge : mergeOperationTypes s.operationTypes reference.operationTypes with
  | error fault =>
      rw [seed_of_error hmerge] at h
      cases h
  | ok operationTypes => exact ⟨operationTypes, rfl⟩

theorem seed_again {s : Store} {reference : Reference} {n : Nat} {db : Database}
    (h : reference.seed (.opened s) = (.ok n, db)) : reference.seed db = (.ok 0, db) := by
  obtain ⟨operationTypes, hmerge⟩ := exists_of_seed_eq_ok h
  rw [seed_of_ok hmerge] at h
  obtain ⟨-, rfl⟩ := Prod.mk.inj h
  have hagain := mergeOperationTypes_again hmerge
  rw [seed_of_ok hagain]
  simp [mergeUsers_again]

theorem seed_append {s : Store} {reference other : Reference} {m n : Nat} {db db' : Database}
    (h : reference.seed (.opened s) = (.ok m, db)) (h' : other.seed db = (.ok n, db')) :
    (reference ++ other).seed (.opened s) = (.ok (m + n), db') := by
  obtain ⟨first, hfirst⟩ := exists_of_seed_eq_ok h
  rw [seed_of_ok hfirst] at h
  obtain ⟨hm, rfl⟩ := Prod.mk.inj h
  obtain ⟨second, hsecond⟩ := exists_of_seed_eq_ok h'
  rw [seed_of_ok hsecond] at h'
  obtain ⟨hn, rfl⟩ := Prod.mk.inj h'
  have hboth : mergeOperationTypes s.operationTypes (reference ++ other).operationTypes =
      .ok second := by
    rw [append_operationTypes, mergeOperationTypes_append, hfirst]
    exact hsecond
  rw [seed_of_ok hboth, append_users, mergeUsers_append, ← Except.ok.inj hm, ← Except.ok.inj hn]
  have husers := (prefix_mergeUsers s.users reference.users).length_le
  have husers' := (prefix_mergeUsers (mergeUsers s.users reference.users) other.users).length_le
  have htypes := (prefix_mergeOperationTypes hfirst).length_le
  have htypes' : first.length ≤ second.length := (prefix_mergeOperationTypes hsecond).length_le
  dsimp only
  congr 2
  omega

/-- The records that a merge enters into a table: for each id that the table does not have the
first record with that id, in the order of the list. -/
structure Entered {α : Type} (id : α → Int) (rows given new : List α) : Prop where
  sublist : new.Sublist given
  nodup : (new.map id).Nodup
  mem_iff : ∀ x, x ∈ new ↔ id x ∉ rows.map id ∧ given.find? (fun y => id y = id x) = some x

theorem entered_entering {α : Type} (id : α → Int) (rows given : List α) :
    Entered id rows given (entering id (rows.map id) given) where
  sublist := entering_sublist id _ given
  nodup := nodup_entering id _ given
  mem_iff _ := mem_entering_iff

/-- **Merging reference data.**  A merge is refused exactly if some operation type that would enter
has a behavior that cannot be read, and then it leaves the store as it was; it is refused for no
other reason.  Otherwise the stored records stay, the first record of each new id stands behind
them, operation types in canonical text, and the answer is how many there are.  Data that are
accepted from a text are never refused; merged again they change nothing; and merging one after
another is merging both at once. -/
theorem seed_merges (s : Store) (reference : Reference) :
    ((∃ fault, (reference.seed (.opened s)).1 = refuse (.config fault)) ↔
        ∃ operationType, operationType.id ∉ s.operationTypes.map OperationType.id ∧
          reference.operationTypes.find? (fun other => other.id = operationType.id) =
            some operationType ∧
          ∃ fault, Behavior.ofText operationType.behavior = .error fault) ∧
      (∀ failure, (reference.seed (.opened s)).1 = .error failure →
        (∃ fault, failure = .refused (.config fault)) ∧
          (reference.seed (.opened s)).2 = .opened s) ∧
      (∀ n, (reference.seed (.opened s)).1 = .ok n →
        ∃ users operationTypes entered,
          Entered User.id s.users reference.users users ∧
          Entered OperationType.id s.operationTypes reference.operationTypes operationTypes ∧
          List.Forall₂ (fun operationType stored =>
            ∃ behavior, Behavior.ofText operationType.behavior = .ok behavior ∧
              stored = { operationType with behavior := behavior.text }) operationTypes entered ∧
          (reference.seed (.opened s)).2 = .opened { s with
            users := s.users ++ users
            operationTypes := s.operationTypes ++ entered } ∧
          n = users.length + entered.length) ∧
      (∀ text, ofToml text = .ok reference → ∃ n, (reference.seed (.opened s)).1 = .ok n) ∧
      (∀ n db, reference.seed (.opened s) = (.ok n, db) → reference.seed db = (.ok 0, db)) ∧
      ∀ (other : Reference) m n db db', reference.seed (.opened s) = (.ok m, db) →
        other.seed db = (.ok n, db') →
        (reference ++ other).seed (.opened s) = (.ok (m + n), db') := by
  have hrefused : (∃ fault,
      mergeOperationTypes s.operationTypes reference.operationTypes = .error fault) ↔
        ∃ operationType, operationType.id ∉ s.operationTypes.map OperationType.id ∧
          reference.operationTypes.find? (fun other => other.id = operationType.id) =
            some operationType ∧
          ∃ fault, Behavior.ofText operationType.behavior = .error fault := by
    rw [exists_mergeOperationTypes_eq_error_iff]
    simp only [mem_entering_iff, and_assoc]
  refine ⟨?_, ?_, ?_, ?_, fun n db h => seed_again h, fun other m n db db' h h' =>
    seed_append h h'⟩
  · rw [← hrefused]
    cases hmerge : mergeOperationTypes s.operationTypes reference.operationTypes with
    | error fault =>
        rw [seed_of_error hmerge]
        exact ⟨fun _ => ⟨fault, rfl⟩, fun _ => ⟨fault, rfl⟩⟩
    | ok operationTypes => simp [seed_of_ok hmerge, refuse]
  · intro failure hfailure
    cases hmerge : mergeOperationTypes s.operationTypes reference.operationTypes with
    | error fault =>
        rw [seed_of_error hmerge] at hfailure ⊢
        exact ⟨⟨fault, (Except.error.inj hfailure).symm⟩, rfl⟩
    | ok operationTypes =>
        rw [seed_of_ok hmerge] at hfailure
        cases hfailure
  · intro n hn
    cases hmerge : mergeOperationTypes s.operationTypes reference.operationTypes with
    | error fault =>
        rw [seed_of_error hmerge] at hn
        cases hn
    | ok operationTypes =>
        obtain ⟨entered, hentered, rfl⟩ := mergeOperationTypes_eq_ok_iff.mp hmerge
        rw [seed_of_ok hmerge, mergeUsers_eq] at hn ⊢
        refine ⟨_, _, entered, entered_entering User.id s.users reference.users,
          entered_entering OperationType.id s.operationTypes reference.operationTypes,
          hentered.imp fun operationType stored h => canonical_eq_ok_iff.mp h, rfl, ?_⟩
        simpa using (Except.ok.inj hn).symm
  · intro text htext
    cases hmerge : mergeOperationTypes s.operationTypes reference.operationTypes with
    | ok operationTypes => exact ⟨_, by rw [seed_of_ok hmerge]⟩
    | error fault =>
        obtain ⟨operationType, -, hfirst, unreadable, herror⟩ := hrefused.mp ⟨fault, hmerge⟩
        obtain ⟨behavior, hread⟩ :=
          readable_of_ofToml htext operationType (List.mem_of_find?_eq_some hfirst)
        rw [hread] at herror
        cases herror

/-- A behavior that cannot be read does no harm behind the first record of its id. -/
example : (Reference.seed ⟨[⟨1, "PURCHASE", "debit"⟩, ⟨1, "REFUND", "both"⟩], [⟨7, "Ana"⟩]⟩
    (.opened .empty)).1 = .ok 2 :=
  rfl

end Reference

end Arrears
