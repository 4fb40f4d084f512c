import Arrears.Proofs.Discharge.Payment
import Mathlib.Data.List.Induction
import Mathlib.Data.List.Nodup

/-!
# Balance updates on a table

**Rule.** Updates are applied one after the other, each to the whole table.  Seen from one booking
this is a fold of the updates over that booking, as long as every update means some booking.  The
last update for it counts.
-/

namespace Arrears
namespace Store

variable {accountId : Int}

@[simp] theorem toOpenDebit_balance (t : Transaction) : t.toOpenDebit.balance = t.balance :=
  rfl

/-- What an update of an account makes of a booking. -/
def rewrite (accountId : Int) (t : Transaction) (update : BalanceUpdate) : Transaction :=
  if concerns accountId update t then { t with balance := update.newBalance } else t

theorem concerns_rewrite (update other : BalanceUpdate) (t : Transaction) :
    concerns accountId update (rewrite accountId t other) = concerns accountId update t := by
  rw [rewrite]
  split <;> rfl

theorem rewrite_of_not_concerns {update : BalanceUpdate} {t : Transaction}
    (h : concerns accountId update t = false) : rewrite accountId t update = t := by
  simp only [rewrite, h, Bool.false_eq_true, if_false]

theorem rewrite_of_concerns {update : BalanceUpdate} {t : Transaction}
    (h : concerns accountId update t = true) :
    rewrite accountId t update = { t with balance := update.newBalance } := by
  simp only [rewrite, h, if_true]

theorem any_concerns_map_rewrite (update other : BalanceUpdate) (rows : List Transaction) :
    (rows.map fun t => rewrite accountId t other).any (concerns accountId update) =
      rows.any (concerns accountId update) := by
  rw [List.any_map]
  congr 1
  funext t
  exact concerns_rewrite update other t

/-- Updates that all mean a booking are one map over the table, and the others follow. -/
theorem updateAll_append {front : List BalanceUpdate} {rows : List Transaction}
    (h : ∀ update ∈ front, rows.any (concerns accountId update) = true)
    (back : List BalanceUpdate) :
    updateAll accountId (front ++ back) rows =
      updateAll accountId back (rows.map fun t => front.foldl (rewrite accountId) t) := by
  induction front generalizing rows with
  | nil => simp
  | cons update front ih =>
      obtain ⟨hfirst, hrest⟩ := List.forall_mem_cons.mp h
      have hrows : setBalance accountId update rows =
          rows.map fun t => rewrite accountId t update :=
        rfl
      rw [List.cons_append, updateAll, if_pos hfirst, ih, hrows, List.map_map]
      · rfl
      · intro other hother
        rw [hrows, any_concerns_map_rewrite]
        exact hrest other hother

theorem updateAll_eq_map {updates : List BalanceUpdate} {rows : List Transaction}
    (h : ∀ update ∈ updates, rows.any (concerns accountId update) = true) :
    updateAll accountId updates rows =
      (rows.map fun t => updates.foldl (rewrite accountId) t, none) := by
  rw [← List.append_nil updates, updateAll_append h, List.append_nil, updateAll]

theorem foldl_rewrite_of_not_concerns {t : Transaction} {updates : List BalanceUpdate}
    (h : ∀ update ∈ updates, concerns accountId update t = false) :
    updates.foldl (rewrite accountId) t = t := by
  induction updates with
  | nil => rfl
  | cons update updates ih =>
      obtain ⟨hfirst, hrest⟩ := List.forall_mem_cons.mp h
      rw [List.foldl_cons, rewrite_of_not_concerns hfirst]
      exact ih hrest

/-! ## Updates all at once -/

/-- A booking with the balance that the first update of an account for it names, if there is one. -/
def updated (accountId : Int) (updates : List BalanceUpdate) (t : Transaction) : Transaction :=
  match updates.find? fun update => concerns accountId update t with
  | some update => { t with balance := update.newBalance }
  | none => t

theorem updated_cons_of_concerns {update : BalanceUpdate} {t : Transaction}
    (h : concerns accountId update t = true) (updates : List BalanceUpdate) :
    updated accountId (update :: updates) t = { t with balance := update.newBalance } := by
  simp only [updated, List.find?_cons, h]

theorem updated_cons_of_not_concerns {update : BalanceUpdate} {t : Transaction}
    (h : concerns accountId update t = false) (updates : List BalanceUpdate) :
    updated accountId (update :: updates) t = updated accountId updates t := by
  simp only [updated, List.find?_cons, h]

theorem concerns_updated (update : BalanceUpdate) (updates : List BalanceUpdate)
    (t : Transaction) :
    concerns accountId update (updated accountId updates t) = concerns accountId update t := by
  rw [updated]
  split <;> rfl

theorem updated_accountId (accountId : Int) (updates : List BalanceUpdate) (t : Transaction) :
    (updated accountId updates t).accountId = t.accountId := by
  rw [updated]
  split <;> rfl

theorem updated_of_accountId_ne {t : Transaction} (h : t.accountId ≠ accountId)
    (updates : List BalanceUpdate) : updated accountId updates t = t := by
  have hnone : updates.find? (fun update => concerns accountId update t) = none :=
    List.find?_eq_none.mpr fun update _ => by simp [concerns, h]
  rw [updated, hnone]

/-- Of updates that are written one after the other, the last one for a booking counts. -/
theorem foldl_rewrite_eq_updated_reverse (updates : List BalanceUpdate) (t : Transaction) :
    updates.foldl (rewrite accountId) t = updated accountId updates.reverse t := by
  induction updates using List.reverseRecOn with
  | nil => rfl
  | append_singleton updates update ih =>
      rw [List.foldl_append, ih, List.foldl_cons, List.foldl_nil, List.reverse_append,
        List.reverse_singleton, List.singleton_append]
      cases h : concerns accountId update t with
      | true =>
          rw [rewrite_of_concerns (by rw [concerns_updated, h]), updated_cons_of_concerns h,
            updated]
          split <;> rfl
      | false =>
          rw [rewrite_of_not_concerns (by rw [concerns_updated, h]), updated_cons_of_not_concerns h]

theorem foldl_rewrite_eq_updated {updates : List BalanceUpdate}
    (hids : (updates.map (·.transactionId)).Nodup) (t : Transaction) :
    updates.foldl (rewrite accountId) t = updated accountId updates t := by
  induction updates with
  | nil => rfl
  | cons update updates ih =>
      obtain ⟨hnew, hrest⟩ := List.nodup_cons.mp hids
      rw [List.foldl_cons]
      by_cases h : concerns accountId update t = true
      · rw [rewrite_of_concerns h, updated_cons_of_concerns h]
        refine foldl_rewrite_of_not_concerns fun other hother => ?_
        have hid : t.id = update.transactionId := by
          simp only [concerns, Bool.and_eq_true, decide_eq_true_eq] at h
          exact h.1
        have hne : t.id ≠ other.transactionId := by
          intro heq
          exact hnew (List.mem_map.mpr ⟨other, hother, heq.symm.trans hid⟩)
        simp only [concerns, hne, decide_false, Bool.false_and]
      · rw [Bool.not_eq_true] at h
        rw [rewrite_of_not_concerns h, updated_cons_of_not_concerns h, ih hrest]

/-! ## The updates of a discharge -/

theorem foldl_payments_of_not_mem {t : Transaction} {debits : List OpenDebit}
    (h : ∀ debit ∈ debits, debit.id ≠ t.id) (credit : Nat) :
    (Settlement.payments credit debits).foldl (rewrite accountId) t = t := by
  apply foldl_rewrite_of_not_concerns
  intro update hupdate
  obtain ⟨debit, hdebit, hid⟩ := Settlement.exists_mem_of_mem_payments hupdate
  have hne : t.id ≠ update.transactionId := by
    rw [← hid]
    exact (h debit hdebit).symm
  simp only [concerns, hne, decide_false, Bool.false_and]

theorem foldl_rewrite_of_accountId_ne {t : Transaction} (h : t.accountId ≠ accountId)
    (updates : List BalanceUpdate) : updates.foldl (rewrite accountId) t = t := by
  apply foldl_rewrite_of_not_concerns
  intro update _
  simp only [concerns, h, decide_false, Bool.and_false]

/-- A booking that a listed debt stands for is raised by what the debts in front of it leave. -/
theorem foldl_payments {t : Transaction} (ht : t.accountId = accountId)
    {back : List OpenDebit} :
    ∀ (front : List OpenDebit) (credit : Nat),
      ((front ++ t.toOpenDebit :: back).map (·.id)).Nodup →
      (Settlement.payments credit (front ++ t.toOpenDebit :: back)).foldl (rewrite accountId) t =
        { t with balance := t.balance.raised (credit - OpenDebit.owed front) }
  | [], credit, hids => by
      have hother : ∀ debit ∈ back, debit.id ≠ t.id := by
        intro debit hdebit heq
        refine (List.nodup_cons.mp hids).1 ?_
        exact List.mem_map.mpr ⟨debit, hdebit, heq⟩
      rw [List.nil_append, OpenDebit.owed_nil, Nat.sub_zero]
      by_cases hdebt : t.toOpenDebit.balance.debt = 0
      · have hbalance : t.balance.raised credit = t.balance :=
          Money.raised_of_debt_eq_zero hdebt credit
        rw [Settlement.payments_cons_of_debt_eq_zero hdebt, foldl_payments_of_not_mem hother,
          hbalance]
      · by_cases hcredit : credit = 0
        · rw [hcredit, Settlement.payments_zero, Money.raised_zero, List.foldl_nil]
        · have hconcerns : concerns accountId
              ⟨t.toOpenDebit.id, t.toOpenDebit.balance.raised credit⟩ t = true := by
            simp [concerns, Transaction.toOpenDebit, ht]
          have hraised : ∀ debit ∈ back,
              debit.id ≠ { t with balance := t.balance.raised credit : Transaction }.id :=
            hother
          rw [Settlement.payments_cons_of_debt_pos (by omega) (by omega), List.foldl_cons,
            rewrite_of_concerns hconcerns]
          exact foldl_payments_of_not_mem hraised _
  | debit :: front, credit, hids => by
      have hrest : ((front ++ t.toOpenDebit :: back).map (·.id)).Nodup :=
        (List.nodup_cons.mp hids).2
      have hne : debit.id ≠ t.id := by
        intro heq
        refine (List.nodup_cons.mp hids).1 ?_
        exact List.mem_map.mpr ⟨t.toOpenDebit, by simp, heq.symm⟩
      rw [List.cons_append, OpenDebit.owed_cons]
      by_cases hdebt : debit.balance.debt = 0
      · rw [Settlement.payments_cons_of_debt_eq_zero hdebt,
          foldl_payments ht front credit hrest, hdebt, Nat.zero_add]
      · by_cases hcredit : credit = 0
        · rw [hcredit, Settlement.payments_zero, List.foldl_nil, Nat.zero_sub, Money.raised_zero]
        · have hconcerns : concerns accountId
              ⟨debit.id, debit.balance.raised credit⟩ t = false := by
            simp only [concerns, hne.symm, decide_false, Bool.false_and]
          rw [Settlement.payments_cons_of_debt_pos (by omega) (by omega), List.foldl_cons,
            rewrite_of_not_concerns hconcerns, foldl_payments ht front _ hrest, Nat.sub_sub]

/-! ## The bookings of an account -/

/-- The bookings of an account, in order of insertion. -/
def bookings (s : Store) (accountId : Int) : List Transaction :=
  s.transactions.filter fun t => t.accountId = accountId

/-- The bookings of an account as a discharge sees them. -/
def debts (s : Store) (accountId : Int) : List OpenDebit :=
  (s.bookings accountId).map Transaction.toOpenDebit

/-- A booking after so much credit when the debts of a list are discharged. -/
def discharged (credit : Nat) (debits : List OpenDebit) (t : Transaction) : Transaction :=
  { t with balance := t.balance.raised (credit - OpenDebit.owedBefore debits t.toOpenDebit) }

@[simp] theorem discharged_amount (credit : Nat) (debits : List OpenDebit) (t : Transaction) :
    (discharged credit debits t).amount = t.amount :=
  rfl

theorem discharged_balance (credit : Nat) (debits : List OpenDebit) (t : Transaction) :
    (discharged credit debits t).balance =
      t.balance.raised (credit - OpenDebit.owedBefore debits t.toOpenDebit) :=
  rfl

/-- The table after so much credit for an account. -/
def relieved (s : Store) (accountId : Int) (credit : Nat) : List Transaction :=
  s.transactions.map fun t =>
    if t.accountId = accountId then discharged credit (s.debts accountId) t else t

theorem mem_bookings {s : Store} {t : Transaction} :
    t ∈ s.bookings accountId ↔ t ∈ s.transactions ∧ t.accountId = accountId := by
  simp only [bookings, List.mem_filter, decide_eq_true_eq]

theorem openDebits_perm (s : Store) (accountId : Int) :
    ((s.openDebits accountId).map Transaction.toOpenDebit).Perm
      ((s.debts accountId).filter fun debit => debit.balance.isNegative) := by
  have hfilter : s.transactions.filter (fun t => t.accountId = accountId && t.isOpen) =
      (s.bookings accountId).filter fun t => t.isOpen := by
    rw [bookings, List.filter_filter]
    exact List.filter_congr fun t _ => Bool.and_comm _ _
  have hsort := List.mergeSort_perm
    (s.transactions.filter fun t => t.accountId = accountId && t.isOpen) Transaction.notAfter
  rw [debts, List.filter_map, openDebits]
  rw [hfilter] at hsort ⊢
  exact hsort.map Transaction.toOpenDebit

theorem owed_open (debits : List OpenDebit) :
    OpenDebit.owed (debits.filter fun debit => debit.balance.isNegative) =
      OpenDebit.owed debits :=
  OpenDebit.owed_filter_of_debt_pos
    (fun debit hdebit => (Money.isNegative_iff debit.balance).mpr hdebit) debits

theorem owedBefore_open (debits : List OpenDebit) (debit : OpenDebit) :
    OpenDebit.owedBefore (debits.filter fun other => other.balance.isNegative) debit =
      OpenDebit.owedBefore debits debit := by
  have hcomm : (debits.filter fun other => other.balance.isNegative).filter
      (fun other => other.precedes debit) =
      (debits.filter fun other => other.precedes debit).filter
        fun other => other.balance.isNegative := by
    rw [List.filter_filter, List.filter_filter]
    exact List.filter_congr fun other _ => Bool.and_comm _ _
  rw [OpenDebit.owedBefore, hcomm, owed_open]
  rfl

theorem debts_ids (s : Store) (accountId : Int) :
    (s.debts accountId).map (·.id) = (s.bookings accountId).map (·.id) := by
  rw [debts, List.map_map]
  rfl

theorem nodup_debts {s : Store} (hids : (s.transactions.map (·.id)).Nodup) (accountId : Int) :
    ((s.debts accountId).map (·.id)).Nodup := by
  rw [debts_ids]
  exact hids.sublist (List.filter_sublist.map _)

/-! ## The queue of an account -/

/-- The open debits of an account in order of age, as a discharge walks along them. -/
def queue (s : Store) (accountId : Int) : List OpenDebit :=
  OpenDebit.byAge ((s.openDebits accountId).map Transaction.toOpenDebit)

theorem queue_perm (s : Store) (accountId : Int) :
    (s.queue accountId).Perm
      ((s.debts accountId).filter fun debit => debit.balance.isNegative) :=
  (OpenDebit.byAge_perm _).trans (s.openDebits_perm accountId)

theorem mem_queue {s : Store} {debit : OpenDebit} :
    debit ∈ s.queue accountId ↔
      ∃ t ∈ s.transactions, t.accountId = accountId ∧ 0 < t.balance.debt ∧
        t.toOpenDebit = debit := by
  rw [(s.queue_perm accountId).mem_iff, List.mem_filter, Money.isNegative_iff, debts,
    List.mem_map]
  constructor
  · rintro ⟨⟨t, ht, rfl⟩, hdebt⟩
    exact ⟨t, (mem_bookings.mp ht).1, (mem_bookings.mp ht).2, hdebt, rfl⟩
  · rintro ⟨t, ht, hown, hdebt, rfl⟩
    exact ⟨⟨t, mem_bookings.mpr ⟨ht, hown⟩, rfl⟩, hdebt⟩

theorem nodup_queue {s : Store} (hids : (s.transactions.map (·.id)).Nodup) (accountId : Int) :
    ((s.queue accountId).map (·.id)).Nodup := by
  refine ((s.queue_perm accountId).map _).nodup_iff.mpr ?_
  exact (nodup_debts hids accountId).sublist (List.filter_sublist.map _)

theorem queue_precedes {s : Store} (hids : (s.transactions.map (·.id)).Nodup)
    (accountId : Int) : (s.queue accountId).Pairwise fun a b => a.precedes b = true := by
  refine OpenDebit.byAge_precedes ?_
  exact ((OpenDebit.byAge_perm _).map _).nodup_iff.mp (nodup_queue hids accountId)

theorem owedBefore_queue (s : Store) (accountId : Int) (debit : OpenDebit) :
    OpenDebit.owedBefore (s.queue accountId) debit =
      OpenDebit.owedBefore (s.debts accountId) debit := by
  rw [OpenDebit.owedBefore_perm (s.queue_perm accountId), owedBefore_open]

theorem foldl_payments_queue {s : Store} (hids : (s.transactions.map (·.id)).Nodup)
    {t : Transaction} (ht : t ∈ s.transactions) (hown : t.accountId = accountId)
    (credit : Nat) :
    (Settlement.payments credit (s.queue accountId)).foldl (rewrite accountId) t =
      discharged credit (s.debts accountId) t := by
  rw [discharged]
  by_cases hdebt : t.balance.debt = 0
  · rw [Money.raised_of_debt_eq_zero hdebt]
    refine foldl_payments_of_not_mem ?_ credit
    intro debit hdebit hid
    obtain ⟨u, hu, -, hopen, rfl⟩ := mem_queue.mp hdebit
    have heq := List.inj_on_of_nodup_map hids hu ht hid
    rw [heq] at hopen
    omega
  · have hin : t.toOpenDebit ∈ s.queue accountId :=
      mem_queue.mpr ⟨t, ht, hown, by omega, rfl⟩
    have hsorted := queue_precedes hids accountId
    have hnodup := nodup_queue hids accountId
    have hbefore := owedBefore_queue s accountId t.toOpenDebit
    obtain ⟨front, back, hsplit⟩ := List.append_of_mem hin
    rw [hsplit] at hsorted hnodup hbefore ⊢
    rw [foldl_payments hown front credit hnodup, ← hbefore,
      OpenDebit.owedBefore_eq_owed hsorted]

/-- Every update of a discharge means a booking of the account. -/
theorem exists_concerns_of_mem_payments {s : Store} {credit : Nat} {update : BalanceUpdate}
    (h : update ∈ Settlement.payments credit (s.queue accountId)) :
    ∃ t ∈ s.transactions, concerns accountId update t = true := by
  obtain ⟨debit, hdebit, hid⟩ := Settlement.exists_mem_of_mem_payments h
  obtain ⟨t, ht, hown, -, rfl⟩ := mem_queue.mp hdebit
  refine ⟨t, ht, ?_⟩
  simp only [concerns, hown, decide_true, Bool.and_true, decide_eq_true_eq]
  exact hid

/-- The updates of a discharge relieve the bookings of the account and leave all others alone. -/
theorem updateAll_payments {s : Store} (hids : (s.transactions.map (·.id)).Nodup)
    (accountId : Int) (credit : Nat) :
    updateAll accountId (Settlement.payments credit (s.queue accountId)) s.transactions =
      (s.relieved accountId credit, none) := by
  rw [updateAll_eq_map, relieved]
  · congr 1
    refine List.map_congr_left fun t ht => ?_
    by_cases hown : t.accountId = accountId
    · rw [if_pos hown]
      exact foldl_payments_queue hids ht hown credit
    · rw [if_neg hown]
      exact foldl_rewrite_of_accountId_ne hown _
  · exact fun update hupdate => List.any_eq_true.mpr (exists_concerns_of_mem_payments hupdate)

end Store
end Arrears
