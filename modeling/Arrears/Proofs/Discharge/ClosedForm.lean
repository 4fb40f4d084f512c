import Arrears.Proofs.Discharge.Payment
import Mathlib.Data.List.Nodup

/-!
# A discharge in closed form

A discharge puts its debts in order of age by a sort that is stable.  Its updates and its remainder
are functions of this order and of sums of what is owed, in whole numbers.
-/

namespace Arrears

/-! ## One order for every discharge

A list in order of age is determined by its entries of each age, in their order: the first entries of
two such lists are both as old as can be, so they are of one age, and they stand first in it.  A
filter keeps all this, so it commutes with the order.
-/

namespace OpenDebit

variable {a b : OpenDebit} {given sorted xs ys : List OpenDebit}

/-! ### Entries of one age -/

/-- The entries have one moment and one id, so that age does not tell them apart. -/
def sameAge (a b : OpenDebit) : Bool :=
  a.createdAt = b.createdAt && a.id = b.id

theorem sameAge_iff : a.sameAge b = true ↔ a.notAfter b = true ∧ b.notAfter a = true := by
  have hmoment : a.createdAt = b.createdAt ↔
      a.createdAt.seconds = b.createdAt.seconds ∧ a.createdAt.nanos = b.createdAt.nanos := by
    rw [Moment.mk.injEq]
  simp only [sameAge, Bool.and_eq_true, decide_eq_true_eq, notAfter_iff, hmoment]
  omega

theorem sameAge_self (a : OpenDebit) : a.sameAge a = true := by
  simp [sameAge]

/-! ### Stable order -/

/-- The entries of a list in stable order of age: each is not after the next, and entries of one
age keep their order. -/
structure InOrderOfAge (given sorted : List OpenDebit) : Prop where
  perm : sorted.Perm given
  ordered : sorted.Pairwise fun a b => a.notAfter b = true
  stable : ∀ debit : OpenDebit, sorted.filter debit.sameAge = given.filter debit.sameAge

theorem inOrderOfAge_byAge (given : List OpenDebit) : InOrderOfAge given (byAge given) where
  perm := byAge_perm given
  ordered := byAge_pairwise given
  stable := by
    intro debit
    have hordered : (given.filter debit.sameAge).Pairwise fun a b => a.notAfter b = true := by
      refine List.pairwise_of_forall_mem_list fun a ha b hb => ?_
      have hage := (sameAge_iff.mp (List.mem_filter.mp ha).2).2
      exact notAfter_trans _ _ _ hage (sameAge_iff.mp (List.mem_filter.mp hb).2).1
    have hsublist : (given.filter debit.sameAge).Sublist (byAge given) :=
      List.sublist_mergeSort notAfter_trans notAfter_total hordered List.filter_sublist
    have hkept : (given.filter debit.sameAge).Sublist ((byAge given).filter debit.sameAge) := by
      have h := hsublist.filter debit.sameAge
      simpa only [List.filter_filter, Bool.and_self] using h
    exact (hkept.eq_of_length ((byAge_perm given).filter _).length_eq.symm).symm

theorem InOrderOfAge.filter (h : InOrderOfAge given sorted) (p : OpenDebit → Bool) :
    InOrderOfAge (given.filter p) (sorted.filter p) where
  perm := h.perm.filter p
  ordered := h.ordered.filter p
  stable := by
    intro debit
    have hcomm (debits : List OpenDebit) :
        (debits.filter p).filter debit.sameAge = (debits.filter debit.sameAge).filter p := by
      rw [List.filter_filter, List.filter_filter]
      exact List.filter_congr fun _ _ => Bool.and_comm _ _
    rw [hcomm, hcomm, h.stable]

theorem notAfter_of_mem (h : (a :: xs).Pairwise fun a b => a.notAfter b = true)
    (hb : b ∈ a :: xs) : a.notAfter b = true := by
  rcases List.mem_cons.mp hb with rfl | hrest
  · exact (sameAge_iff.mp (sameAge_self b)).1
  · exact (List.pairwise_cons.mp h).1 b hrest

/-- Lists in order of age are equal if they have the same entries of each age in the same order. -/
theorem eq_of_filter_sameAge :
    ∀ {xs ys : List OpenDebit}, xs.Perm ys →
      xs.Pairwise (fun a b => a.notAfter b = true) →
      ys.Pairwise (fun a b => a.notAfter b = true) →
      (∀ debit : OpenDebit, xs.filter debit.sameAge = ys.filter debit.sameAge) → xs = ys
  | [], _, hperm, _, _, _ => hperm.nil_eq
  | x :: xs, [], hperm, _, _, _ => absurd hperm.eq_nil (List.cons_ne_nil x xs)
  | x :: xs, y :: ys, hperm, hxs, hys, hsame => by
      have hage : x.sameAge y = true := sameAge_iff.mpr
        ⟨notAfter_of_mem hxs (hperm.mem_iff.mpr List.mem_cons_self),
          notAfter_of_mem hys (hperm.mem_iff.mp List.mem_cons_self)⟩
      obtain rfl : x = y := by
        have hfirst := hsame x
        rw [List.filter_cons_of_pos (sameAge_self x), List.filter_cons_of_pos hage] at hfirst
        exact (List.cons.inj hfirst).1
      have hrest : ∀ debit : OpenDebit, xs.filter debit.sameAge = ys.filter debit.sameAge := by
        intro debit
        have hboth := hsame debit
        by_cases hdebit : debit.sameAge x = true
        · rw [List.filter_cons_of_pos hdebit, List.filter_cons_of_pos hdebit] at hboth
          exact (List.cons.inj hboth).2
        · rwa [List.filter_cons_of_neg hdebit, List.filter_cons_of_neg hdebit] at hboth
      rw [eq_of_filter_sameAge ((List.perm_cons x).mp hperm) (List.pairwise_cons.mp hxs).2
        (List.pairwise_cons.mp hys).2 hrest]

/-- There is one stable order of age, and it is the one in which a discharge goes. -/
theorem inOrderOfAge_iff : InOrderOfAge given sorted ↔ sorted = byAge given := by
  constructor
  · intro h
    have h' := inOrderOfAge_byAge given
    refine eq_of_filter_sameAge (h.perm.trans h'.perm.symm) h.ordered h'.ordered fun debit => ?_
    rw [h.stable, h'.stable]
  · rintro rfl
    exact inOrderOfAge_byAge given

theorem byAge_filter (p : OpenDebit → Bool) (given : List OpenDebit) :
    byAge (given.filter p) = (byAge given).filter p :=
  (inOrderOfAge_iff.mp ((inOrderOfAge_byAge given).filter p)).symm

theorem byAge_eq_self (h : xs.Pairwise fun a b => a.notAfter b = true) : byAge xs = xs :=
  List.mergeSort_of_pairwise h

/-- Debts with different ids are put in one order, in whatever order they are given. -/
theorem byAge_eq_of_perm (hids : (xs.map (·.id)).Nodup) (h : xs.Perm ys) :
    byAge xs = byAge ys := by
  refine List.Perm.eq_of_pairwise (fun a b _ _ hab hba => ?_) (byAge_precedes hids)
    (byAge_precedes ((h.map _).nodup_iff.mp hids))
    ((byAge_perm xs).trans (h.trans (byAge_perm ys).symm))
  have hself := precedes_trans hab hba
  rw [precedes_self] at hself
  exact Bool.noConfusion hself

end OpenDebit

/-! ### What a discharge depends on -/

namespace Settlement

theorem pay_filter_isNegative (credit : Money) (debits : List OpenDebit) :
    pay credit (debits.filter fun debit => debit.balance.isNegative) = pay credit debits := by
  induction debits generalizing credit with
  | nil => rfl
  | cons debit debits ih =>
      by_cases hnegative : debit.balance.isNegative = true
      · simp only [List.filter_cons, hnegative, if_true, pay, ih]
      · have hdebt : debit.balance.debt = 0 := by
          rw [Money.isNegative_iff] at hnegative
          omega
        simp only [List.filter_cons, hnegative, Bool.false_eq_true, if_false,
          pay_cons_of_debt_eq_zero hdebt, ih]

end Settlement

theorem discharge_filter_isNegative (credit : Money) (debits : List OpenDebit) :
    discharge credit (debits.filter fun debit => debit.balance.isNegative) =
      discharge credit debits := by
  rw [discharge, OpenDebit.byAge_filter, Settlement.pay_filter_isNegative, discharge]

theorem discharge_perm {debits others : List OpenDebit} (hids : (debits.map (·.id)).Nodup)
    (h : debits.Perm others) (credit : Money) :
    discharge credit debits = discharge credit others := by
  rw [discharge, OpenDebit.byAge_eq_of_perm hids h, discharge]

/-- Lists that hold the same debts, each of them once, hold them in two orders. -/
theorem filter_isNegative_perm {debits others : List OpenDebit}
    (hdebits : (debits.map (·.id)).Nodup) (hothers : (others.map (·.id)).Nodup)
    (hsame : ∀ debit : OpenDebit, debit.balance.minor < 0 → (debit ∈ debits ↔ debit ∈ others)) :
    (debits.filter fun debit => debit.balance.isNegative).Perm
      (others.filter fun debit => debit.balance.isNegative) := by
  have hdebits' : (debits.filter fun debit => debit.balance.isNegative).Nodup :=
    (List.Nodup.of_map _ hdebits).filter _
  have hothers' : (others.filter fun debit => debit.balance.isNegative).Nodup :=
    (List.Nodup.of_map _ hothers).filter _
  refine (List.perm_ext_iff_of_nodup hdebits' hothers').mpr fun debit => ?_
  rw [List.mem_filter, List.mem_filter]
  exact and_congr_left fun hnegative => hsame debit (of_decide_eq_true hnegative)

/-- **A discharge depends on the set of debts only.**  Two lists with distinct ids that hold the
same entries with a negative balance are discharged alike, or with the same overflow: in whatever
order the entries stand, and whatever other entries stand among them. -/
theorem discharge_eq_of_same_debts {debits others : List OpenDebit}
    (hdebits : (debits.map (·.id)).Nodup) (hothers : (others.map (·.id)).Nodup)
    (hsame : ∀ debit : OpenDebit, debit.balance.minor < 0 → (debit ∈ debits ↔ debit ∈ others))
    (credit : Money) : discharge credit debits = discharge credit others := by
  have hids : ((debits.filter fun debit => debit.balance.isNegative).map (·.id)).Nodup :=
    hdebits.sublist (List.filter_sublist.map _)
  have hperm := filter_isNegative_perm hdebits hothers hsame
  calc
    discharge credit debits
        = discharge credit (debits.filter fun debit => debit.balance.isNegative) :=
      (discharge_filter_isNegative credit debits).symm
    _ = discharge credit (others.filter fun debit => debit.balance.isNegative) :=
      discharge_perm hids hperm credit
    _ = discharge credit others := discharge_filter_isNegative credit others

/-- Three debts, two of one moment, with an entry that has been paid off among them. -/
def settledAmongDebts : List OpenDebit :=
  [⟨3, .ofSeconds 200, ⟨-310, by decide⟩⟩, ⟨9, .ofSeconds 50, .zero⟩,
    ⟨1, .ofSeconds 100, ⟨-5200, by decide⟩⟩, ⟨2, .ofSeconds 200, ⟨-720, by decide⟩⟩]

/-- The same debts in another order, with other entries among them. -/
def leftoversAmongDebts : List OpenDebit :=
  [⟨4, .ofSeconds 10, ⟨26, by decide⟩⟩, ⟨2, .ofSeconds 200, ⟨-720, by decide⟩⟩,
    ⟨3, .ofSeconds 200, ⟨-310, by decide⟩⟩, ⟨9, .ofSeconds 300, ⟨460, by decide⟩⟩,
    ⟨1, .ofSeconds 100, ⟨-5200, by decide⟩⟩]

/-- The two lists are discharged alike, though the entries with the id 9 differ. -/
theorem discharge_eq_of_same_debts_among_others :
    (settledAmongDebts.map (·.id)).Nodup ∧ (leftoversAmongDebts.map (·.id)).Nodup ∧
      (∀ debit : OpenDebit, debit.balance.minor < 0 →
        (debit ∈ settledAmongDebts ↔ debit ∈ leftoversAmongDebts)) ∧
      discharge ⟨6010, by decide⟩ settledAmongDebts =
        discharge ⟨6010, by decide⟩ leftoversAmongDebts := by
  have hsettled : (settledAmongDebts.map (·.id)).Nodup := by decide
  have hleftovers : (leftoversAmongDebts.map (·.id)).Nodup := by decide
  have hthere : ∀ debit ∈ settledAmongDebts, debit.balance.minor < 0 →
      debit ∈ leftoversAmongDebts := by decide
  have hback : ∀ debit ∈ leftoversAmongDebts, debit.balance.minor < 0 →
      debit ∈ settledAmongDebts := by decide
  have hsame : ∀ debit : OpenDebit, debit.balance.minor < 0 →
      (debit ∈ settledAmongDebts ↔ debit ∈ leftoversAmongDebts) :=
    fun debit hnegative => ⟨fun h => hthere debit h hnegative, fun h => hback debit h hnegative⟩
  exact ⟨hsettled, hleftovers, hsame,
    discharge_eq_of_same_debts hsettled hleftovers hsame ⟨6010, by decide⟩⟩

/-! ## The formula

The walk along the debts carries what is left of the credit.  Behind any front of the queue this is
the credit less what the front owes (`map_payments`).
-/

open OpenDebit

namespace Settlement

/-- Behind any front of a queue, the credit reaches the debts in front of which less is owed. -/
theorem map_payments (credit : Nat) :
    ∀ back front : List OpenDebit, (∀ debit ∈ back, 0 < debit.balance.debt) →
      (payments (credit - owed front) back).map
          (fun update => (update.transactionId, update.newBalance.minor)) =
        ((back.zipIdx front.length).filter fun entry =>
            owed ((front ++ back).take entry.2) < credit).map fun entry =>
          (entry.1.id, min 0 (entry.1.balance.minor +
            ((credit : Int) - owed ((front ++ back).take entry.2))))
  | [], _, _ => rfl
  | debit :: back, front, hdebts => by
      obtain ⟨hdebt, hback⟩ := List.forall_mem_cons.mp hdebts
      have ih := map_payments credit back (front ++ [debit]) hback
      have htake : (front ++ debit :: back).take front.length = front := by simp
      rw [List.length_append, List.length_singleton, List.append_assoc,
        List.singleton_append] at ih
      rw [List.zipIdx_cons]
      by_cases hreached : owed front < credit
      · have hbalance : (debit.balance.raised (credit - owed front)).minor =
            min 0 (debit.balance.minor + ((credit : Int) - owed front)) := by
          simp only [Money.debt] at hdebt
          rw [Money.raised_minor]
          omega
        have hrest : credit - owed front - debit.balance.debt =
            credit - owed (front ++ [debit]) := by
          simp only [owed_append, owed_cons, owed_nil]
          omega
        rw [payments_cons_of_debt_pos hdebt (by omega), List.map_cons, hrest, ih,
          List.filter_cons_of_pos (by simpa [htake] using hreached), List.map_cons, htake,
          hbalance]
      · -- Nothing is left of the credit here, so it does not reach any later debt either.
        have hnone : credit - owed (front ++ [debit]) = 0 := by
          rw [owed_append]
          omega
        have hzero : credit - owed front = 0 := by omega
        rw [hnone, payments_zero] at ih
        rw [hzero, payments_zero,
          List.filter_cons_of_neg (by simpa [htake] using hreached), ← ih]

end Settlement

/-- **A discharge in closed form.**  There is one stable order of age of the debts with a negative
balance, and the discharge succeeds.  A positive credit updates, in this order, the debts in front
of which less is owed than the credit; each is raised by what is left there, up to zero, and what
the credit exceeds all that is owed by remains.  Any other credit updates nothing and remains as it
is. -/
theorem discharge_closed_form (credit : Money) {debits : List OpenDebit}
    (hleast : ∀ debit ∈ debits, Word.least < debit.balance.minor) :
    ∃ queue settlement,
      (∀ sorted, InOrderOfAge (debits.filter fun debit => debit.balance.isNegative) sorted ↔
        sorted = queue) ∧
      discharge credit debits = .ok settlement ∧
      (0 < credit.minor →
        settlement.updates.map (fun update => (update.transactionId, update.newBalance.minor)) =
            (queue.zipIdx.filter fun entry => owed (queue.take entry.2) < credit.minor).map
              (fun entry => (entry.1.id, min 0 (entry.1.balance.minor +
                (credit.minor - owed (queue.take entry.2))))) ∧
          settlement.remaining.minor = max 0 (credit.minor - owed queue)) ∧
      (credit.minor ≤ 0 → settlement = ⟨[], credit⟩) := by
  let queue := byAge (debits.filter fun debit => debit.balance.isNegative)
  by_cases hpos : 0 < credit.minor
  · have hopen : ∀ debit ∈ debits.filter (fun debit => debit.balance.isNegative),
        Word.least < debit.balance.minor :=
      fun debit hdebit => hleast debit (List.mem_filter.mp hdebit).1
    have hdebts : ∀ debit ∈ queue, 0 < debit.balance.debt := by
      intro debit hdebit
      have hmem := (byAge_perm _).mem_iff.mp hdebit
      exact (Money.isNegative_iff _).mp (List.mem_filter.mp hmem).2
    obtain ⟨credit', hcredit'⟩ := Int.eq_ofNat_of_zero_le (Int.le_of_lt hpos)
    have hupdates := Settlement.map_payments credit' queue [] hdebts
    refine ⟨queue, _, fun _ => inOrderOfAge_iff,
      (discharge_filter_isNegative credit debits).symm.trans
        (discharge_eq_payments (Int.le_of_lt hpos) hopen), fun _ => ⟨?_, ?_⟩, by omega⟩
    · simpa [hcredit'] using hupdates
    · rw [Money.less_minor, owed_perm (byAge_perm _).symm]
  · exact ⟨queue, ⟨[], credit⟩, fun _ => inOrderOfAge_iff, Settlement.pay_of_not_pos hpos _,
      fun h => absurd h hpos, fun _ => rfl⟩

/-- Debts that are given out of order, two of one age, and an entry that carries no debt. -/
def mixedDebits : List OpenDebit :=
  [⟨2, .ofSeconds 200, ⟨-700, by decide⟩⟩, ⟨9, .ofSeconds 150, ⟨450, by decide⟩⟩,
    ⟨1, .ofSeconds 100, ⟨-5000, by decide⟩⟩, ⟨2, .ofSeconds 200, ⟨-300, by decide⟩⟩,
    ⟨3, .ofSeconds 200, ⟨-1, by decide⟩⟩]

/-- The debts among them, in order of age. -/
def mixedQueue : List OpenDebit :=
  [⟨1, .ofSeconds 100, ⟨-5000, by decide⟩⟩, ⟨2, .ofSeconds 200, ⟨-700, by decide⟩⟩,
    ⟨2, .ofSeconds 200, ⟨-300, by decide⟩⟩, ⟨3, .ofSeconds 200, ⟨-1, by decide⟩⟩]

theorem inOrderOfAge_mixedQueue :
    InOrderOfAge (mixedDebits.filter fun debit => debit.balance.isNegative) mixedQueue where
  perm := by decide
  ordered := by decide
  stable := by
    intro debit
    have hgiven : mixedDebits.filter (fun debit => debit.balance.isNegative) =
        [⟨2, .ofSeconds 200, ⟨-700, by decide⟩⟩, ⟨1, .ofSeconds 100, ⟨-5000, by decide⟩⟩,
          ⟨2, .ofSeconds 200, ⟨-300, by decide⟩⟩, ⟨3, .ofSeconds 200, ⟨-1, by decide⟩⟩] := by
      decide
    by_cases hmoment : debit.createdAt = .ofSeconds 100
    · simp [hgiven, mixedQueue, sameAge, hmoment, List.filter, Moment.ofSeconds]
    · simp [hgiven, mixedQueue, sameAge, hmoment, List.filter]

/-- The credit ends inside the second debt of the same age, and the newest is not reached. -/
theorem discharge_closed_form_mixed :
    (∀ debit ∈ mixedDebits, Word.least < debit.balance.minor) ∧
      ∃ settlement, discharge ⟨5900, by decide⟩ mixedDebits = .ok settlement ∧
        settlement.updates.map (fun update => (update.transactionId, update.newBalance.minor)) =
          [(1, 0), (2, 0), (2, -100)] ∧
        settlement.remaining.minor = 0 := by
  have hleast : ∀ debit ∈ mixedDebits, Word.least < debit.balance.minor := by decide
  obtain ⟨queue, settlement, hqueue, hdischarge, hpos, -⟩ :=
    discharge_closed_form ⟨5900, by decide⟩ hleast
  obtain rfl := (hqueue mixedQueue).mp inOrderOfAge_mixedQueue
  obtain ⟨hupdates, hremaining⟩ := hpos (by decide)
  exact ⟨hleast, settlement, hdischarge, hupdates, hremaining⟩

end Arrears
