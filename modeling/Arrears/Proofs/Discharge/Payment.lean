import Arrears.Proofs.Money
import Mathlib.Algebra.Order.Ring.Int

/-!
# What a discharge pays

A discharge goes through the debts by age.  `payments` walks along them with a whole number in hand;
it has no overflow and no early end but the one where nothing is in hand any more.
-/

namespace Arrears

/-! ## The order of age -/

namespace OpenDebit

/-- The strict order of age: what is discharged earlier, whatever else there is. -/
def precedes (a b : OpenDebit) : Bool :=
  !b.notAfter a

theorem notAfter_iff_lt_or_eq (a b : OpenDebit) : a.notAfter b = true ↔
    a.createdAt < b.createdAt ∨ a.createdAt = b.createdAt ∧ a.id ≤ b.id := by
  simp only [notAfter, Bool.or_eq_true, Bool.and_eq_true, decide_eq_true_eq]

theorem notAfter_iff (a b : OpenDebit) :
    a.notAfter b = true ↔
      a.createdAt.seconds < b.createdAt.seconds ∨
        a.createdAt.seconds = b.createdAt.seconds ∧
          (a.createdAt.nanos < b.createdAt.nanos ∨
            a.createdAt.nanos = b.createdAt.nanos ∧ a.id ≤ b.id) := by
  have heq : a.createdAt = b.createdAt ↔
      a.createdAt.seconds = b.createdAt.seconds ∧ a.createdAt.nanos = b.createdAt.nanos :=
    ⟨fun h => by rw [h]; exact ⟨rfl, rfl⟩, fun h => by
      cases ha : a.createdAt
      cases hb : b.createdAt
      simp only [ha, hb] at h
      simp only [h.1, h.2]⟩
  have hlt : a.createdAt < b.createdAt ↔
      a.createdAt.seconds < b.createdAt.seconds ∨
        a.createdAt.seconds = b.createdAt.seconds ∧ a.createdAt.nanos < b.createdAt.nanos :=
    Iff.rfl
  simp only [notAfter, Bool.or_eq_true, Bool.and_eq_true, decide_eq_true_eq, heq, hlt]
  omega

theorem notAfter_trans (a b c : OpenDebit) (hab : a.notAfter b = true)
    (hbc : b.notAfter c = true) : a.notAfter c = true := by
  rw [notAfter_iff] at hab hbc ⊢
  omega

theorem notAfter_total (a b : OpenDebit) : (a.notAfter b || b.notAfter a) = true := by
  rw [Bool.or_eq_true, notAfter_iff, notAfter_iff]
  omega

theorem precedes_eq_true_iff (a b : OpenDebit) :
    a.precedes b = true ↔ ¬ b.notAfter a = true := by
  simp only [precedes, Bool.not_eq_true', Bool.not_eq_true]

theorem precedes_self (a : OpenDebit) : a.precedes a = false := by
  have h := notAfter_total a a
  rw [Bool.or_self] at h
  simp only [precedes, h]
  rfl

theorem precedes_trans {a b c : OpenDebit} (hab : a.precedes b = true)
    (hbc : b.precedes c = true) : a.precedes c = true := by
  rw [precedes_eq_true_iff, notAfter_iff] at hab hbc ⊢
  omega

theorem precedes_of_notAfter {a b : OpenDebit} (hab : a.notAfter b = true) (hne : a.id ≠ b.id) :
    a.precedes b = true := by
  rw [precedes_eq_true_iff, notAfter_iff]
  rw [notAfter_iff] at hab
  omega

theorem notAfter_of_precedes {a b : OpenDebit} (hab : a.precedes b = true) :
    a.notAfter b = true := by
  rw [precedes_eq_true_iff, notAfter_iff] at hab
  rw [notAfter_iff]
  omega

/-- A debt with a smaller id and no later moment is discharged earlier. -/
theorem precedes_of_le_of_lt {a b : OpenDebit} (hmoment : a.createdAt ≤ b.createdAt)
    (hid : a.id < b.id) : a.precedes b = true := by
  have hle : a.createdAt.seconds < b.createdAt.seconds ∨
      a.createdAt.seconds = b.createdAt.seconds ∧ a.createdAt.nanos ≤ b.createdAt.nanos :=
    hmoment
  rw [precedes_eq_true_iff, notAfter_iff]
  omega

theorem byAge_perm (debits : List OpenDebit) : (byAge debits).Perm debits :=
  List.mergeSort_perm debits notAfter

theorem byAge_pairwise (debits : List OpenDebit) :
    (byAge debits).Pairwise fun a b => a.notAfter b = true :=
  List.pairwise_mergeSort notAfter_trans notAfter_total debits

theorem byAge_precedes {debits : List OpenDebit} (hids : (debits.map (·.id)).Nodup) :
    (byAge debits).Pairwise fun a b => a.precedes b = true := by
  have hne : (byAge debits).Pairwise fun a b => a.id ≠ b.id := by
    have h := ((byAge_perm debits).map (·.id)).nodup_iff.mpr hids
    exact List.pairwise_map.mp h
  exact ((byAge_pairwise debits).and hne).imp fun h => precedes_of_notAfter h.1 h.2

/-! ### What is owed -/

/-- What a list of debts owes altogether. -/
def owed (debits : List OpenDebit) : Nat :=
  (debits.map fun debit => debit.balance.debt).sum

/-- What the debts of a list owe that are discharged before a given one. -/
def owedBefore (debits : List OpenDebit) (debit : OpenDebit) : Nat :=
  owed (debits.filter fun other => other.precedes debit)

@[simp] theorem owed_nil : owed [] = 0 :=
  rfl

@[simp] theorem owed_cons (debit : OpenDebit) (debits : List OpenDebit) :
    owed (debit :: debits) = debit.balance.debt + owed debits := by
  simp only [owed, List.map_cons, List.sum_cons]

@[simp] theorem owed_append (debits others : List OpenDebit) :
    owed (debits ++ others) = owed debits + owed others := by
  simp only [owed, List.map_append, List.sum_append]

theorem owed_perm {debits others : List OpenDebit} (h : debits.Perm others) :
    owed debits = owed others :=
  (h.map _).sum_nat

theorem owedBefore_perm {debits others : List OpenDebit} (h : debits.Perm others)
    (debit : OpenDebit) : owedBefore debits debit = owedBefore others debit :=
  owed_perm (h.filter _)

theorem debt_le_owed {debits : List OpenDebit} {debit : OpenDebit} (h : debit ∈ debits) :
    debit.balance.debt ≤ owed debits := by
  obtain ⟨front, back, rfl⟩ := List.append_of_mem h
  rw [owed_append, owed_cons]
  omega

theorem owed_filter_add_owed_filter_not (p : OpenDebit → Bool) (debits : List OpenDebit) :
    owed (debits.filter p) + owed (debits.filter fun debit => !p debit) = owed debits := by
  rw [← owed_append]
  exact owed_perm (List.filter_append_perm p debits)

theorem owed_filter_of_debt_pos {p : OpenDebit → Bool}
    (hp : ∀ debit, 0 < debit.balance.debt → p debit = true) (debits : List OpenDebit) :
    owed (debits.filter p) = owed debits := by
  induction debits with
  | nil => rfl
  | cons debit debits ih =>
      by_cases hdebit : p debit = true
      · rw [List.filter_cons_of_pos hdebit, owed_cons, owed_cons, ih]
      · have hdebt : debit.balance.debt = 0 := by
          have := mt (hp debit) hdebit
          omega
        rw [List.filter_cons_of_neg hdebit, owed_cons, ih, hdebt]
        omega

/-- In a list in the strict order of age, what is owed before a debt stands in front of it. -/
theorem owedBefore_eq_owed {front back : List OpenDebit} {debit : OpenDebit}
    (h : (front ++ debit :: back).Pairwise fun a b => a.precedes b = true) :
    owedBefore (front ++ debit :: back) debit = owed front := by
  obtain ⟨-, hback, hfront⟩ := List.pairwise_append.mp h
  have hkeep : front.filter (fun other => other.precedes debit) = front := by
    refine List.filter_eq_self.mpr fun other hother => ?_
    exact hfront other hother debit (by simp)
  have hdrop : back.filter (fun other => other.precedes debit) = [] := by
    refine List.filter_eq_nil_iff.mpr fun other hother hprecedes => ?_
    have hafter := (List.pairwise_cons.mp hback).1 other hother
    have hself := precedes_trans hafter hprecedes
    rw [precedes_self] at hself
    exact Bool.noConfusion hself
  have hcons : (debit :: back).filter (fun other => other.precedes debit) = [] := by
    rw [List.filter_cons_of_neg (by simp [precedes_self]), hdrop]
  rw [owedBefore, List.filter_append, hkeep, hcons, List.append_nil]

/-- What is owed before a debt is owed within any part of the list that reaches up to a later
one. -/
theorem owedBefore_filter_precedes {a b : OpenDebit} (hab : a.precedes b = true)
    (debits : List OpenDebit) :
    owedBefore (debits.filter fun other => other.precedes b) a = owedBefore debits a := by
  rw [owedBefore, owedBefore, List.filter_filter]
  congr 1
  refine List.filter_congr fun other _ => ?_
  by_cases hother : other.precedes a = true
  · simp [hother, precedes_trans hother hab]
  · simp [hother]

/-- A debt counts among what is owed before any debt that it precedes. -/
theorem owedBefore_add_le {debits : List OpenDebit} {a b : OpenDebit} (ha : a ∈ debits)
    (hab : a.precedes b = true) :
    owedBefore debits a + a.balance.debt ≤ owedBefore debits b := by
  have hsplit := owed_filter_add_owed_filter_not (fun other => other.precedes a)
    (debits.filter fun other => other.precedes b)
  have hbefore : owed ((debits.filter fun other => other.precedes b).filter
      fun other => other.precedes a) = owedBefore debits a :=
    owedBefore_filter_precedes hab debits
  have hmem : a ∈ (debits.filter fun other => other.precedes b).filter
      (fun other => !other.precedes a) := by
    simp [List.mem_filter, ha, hab, precedes_self]
  have hle := debt_le_owed hmem
  have hlater : owed (debits.filter fun other => other.precedes b) = owedBefore debits b :=
    rfl
  rw [hbefore, hlater] at hsplit
  omega

end OpenDebit

/-! ## The walk -/

open OpenDebit

namespace Settlement

/-- The updates that so much credit makes along a list of debts. -/
def payments (credit : Nat) : List OpenDebit → List BalanceUpdate
  | [] => []
  | debit :: debits =>
    if credit = 0 then []
    else if debit.balance.debt = 0 then payments credit debits
    else
      ⟨debit.id, debit.balance.raised credit⟩ :: payments (credit - debit.balance.debt) debits

@[simp] theorem payments_zero (debits : List OpenDebit) : payments 0 debits = [] := by
  cases debits <;> simp [payments]

theorem payments_cons_of_debt_eq_zero {debit : OpenDebit} (hdebt : debit.balance.debt = 0)
    (credit : Nat) (debits : List OpenDebit) :
    payments credit (debit :: debits) = payments credit debits := by
  by_cases hcredit : credit = 0
  · rw [hcredit, payments_zero, payments_zero]
  · rw [payments, if_neg hcredit, if_pos hdebt]

theorem payments_cons_of_debt_pos {debit : OpenDebit} (hdebt : 0 < debit.balance.debt)
    {credit : Nat} (hcredit : 0 < credit) (debits : List OpenDebit) :
    payments credit (debit :: debits) =
      ⟨debit.id, debit.balance.raised credit⟩ ::
        payments (credit - debit.balance.debt) debits := by
  rw [payments, if_neg (by omega), if_neg (by omega)]

theorem exists_mem_of_mem_payments {update : BalanceUpdate} {debits : List OpenDebit}
    {credit : Nat} (h : update ∈ payments credit debits) :
    ∃ debit ∈ debits, debit.id = update.transactionId := by
  induction debits generalizing credit with
  | nil => simp [payments] at h
  | cons debit debits ih =>
      by_cases hdebt : debit.balance.debt = 0
      · rw [payments_cons_of_debt_eq_zero hdebt] at h
        obtain ⟨other, hother, hid⟩ := ih h
        exact ⟨other, List.mem_cons_of_mem _ hother, hid⟩
      · by_cases hcredit : credit = 0
        · rw [hcredit, payments_zero] at h
          exact absurd h List.not_mem_nil
        · rw [payments_cons_of_debt_pos (by omega) (by omega)] at h
          rcases List.mem_cons.mp h with rfl | h
          · exact ⟨debit, by simp, rfl⟩
          · obtain ⟨other, hother, hid⟩ := ih h
            exact ⟨other, List.mem_cons_of_mem _ hother, hid⟩

/-! ### One step of paying -/

theorem pay_of_not_pos {credit : Money} (hcredit : ¬ 0 < credit.minor) (debits : List OpenDebit) :
    pay credit debits = .ok ⟨[], credit⟩ := by
  have hpositive : credit.isPositive = false := by
    simpa only [Money.isPositive, decide_eq_false_iff_not] using hcredit
  cases debits with
  | nil => rfl
  | cons debit debits => simp [pay, hpositive]

theorem pay_cons_of_debt_eq_zero {debit : OpenDebit} (hdebt : debit.balance.debt = 0)
    (credit : Money) (debits : List OpenDebit) :
    pay credit (debit :: debits) = pay credit debits := by
  have hnegative : debit.balance.isNegative = false := by
    rw [Bool.eq_false_iff, ne_eq, Money.isNegative_iff]
    omega
  by_cases hcredit : 0 < credit.minor
  · have hpositive : credit.isPositive = true := (Money.isPositive_iff credit).mpr hcredit
    rw [pay, hpositive, hnegative]
    rfl
  · rw [pay_of_not_pos hcredit, pay_of_not_pos hcredit]

/-- A debt takes what it can of the credit, and the rest goes on. -/
theorem pay_cons_of_debt_pos {debit : OpenDebit} (hdebt : 0 < debit.balance.debt)
    (hleast : Word.least < debit.balance.minor) {credit : Money} (hcredit : 0 < credit.minor)
    (debits : List OpenDebit) :
    pay credit (debit :: debits) =
      (pay (credit.less debit.balance.debt) debits).map fun settlement =>
        ⟨⟨debit.id, debit.balance.raised credit.minor.toNat⟩ :: settlement.updates,
          settlement.remaining⟩ := by
  obtain ⟨owed, hnegate, howed⟩ := Money.negate_of_least_lt hleast
  have hpositive : credit.isPositive = true := (Money.isPositive_iff credit).mpr hcredit
  have hnegative : debit.balance.isNegative = true :=
    (Money.isNegative_iff debit.balance).mpr hdebt
  have hpos : 0 < owed.minor := by
    simp only [Money.debt] at hdebt
    omega
  have hsize : owed.minor.toNat = debit.balance.debt := by
    rw [howed]
    rfl
  have hsubtract : credit.subtract (min owed credit) = .ok (credit.less owed.minor.toNat) :=
    Money.subtract_eq_less hpos
  have hadd := Money.add_eq_raised hdebt hcredit howed
  rw [hsize] at hsubtract
  rw [pay, hpositive, hnegative]
  simp only [Bool.not_true, Bool.false_eq_true, if_false, hnegate, hsubtract, hadd, bind,
    Except.bind, pure, Except.pure]
  cases pay (credit.less debit.balance.debt) debits <;> rfl

/-! ### The whole walk -/

/-- Paying agrees with the walk over whole numbers unless a debt is the least amount. -/
theorem pay_eq_payments :
    ∀ (debits : List OpenDebit) {credit : Money}, 0 ≤ credit.minor →
      (∀ debit ∈ debits, Word.least < debit.balance.minor) →
      pay credit debits = .ok ⟨payments credit.minor.toNat debits, credit.less (owed debits)⟩
  | [], credit, hcredit, _ => by
      rw [owed_nil, Money.less_zero hcredit]
      rfl
  | debit :: debits, credit, hcredit, hleast => by
      have hrest : ∀ other ∈ debits, Word.least < other.balance.minor :=
        fun other hother => hleast other (List.mem_cons_of_mem _ hother)
      by_cases hdebt : debit.balance.debt = 0
      · have ih := pay_eq_payments debits hcredit hrest
        rw [pay_cons_of_debt_eq_zero hdebt, payments_cons_of_debt_eq_zero hdebt, owed_cons, hdebt,
          Nat.zero_add]
        exact ih
      · by_cases hpos : 0 < credit.minor
        · have hless : 0 ≤ (credit.less debit.balance.debt).minor := by
            simp only [Money.less_minor]
            omega
          have ih := pay_eq_payments debits hless hrest
          rw [Money.toNat_less, Money.less_less] at ih
          rw [pay_cons_of_debt_pos (by omega) (hleast debit (by simp)) hpos, ih,
            payments_cons_of_debt_pos (by omega) (by omega), owed_cons]
          rfl
        · have hzero : credit.minor.toNat = 0 := by omega
          have hless : credit.less (owed (debit :: debits)) = credit := by
            ext
            simp only [Money.less_minor]
            omega
          rw [pay_of_not_pos hpos, hzero, payments_zero, hless]

end Settlement

theorem discharge_eq_payments {credit : Money} {debits : List OpenDebit}
    (hcredit : 0 ≤ credit.minor) (hleast : ∀ debit ∈ debits, Word.least < debit.balance.minor) :
    discharge credit debits =
      .ok ⟨Settlement.payments credit.minor.toNat (byAge debits), credit.less (owed debits)⟩ := by
  have hsorted : ∀ debit ∈ byAge debits, Word.least < debit.balance.minor :=
    fun debit hdebit => hleast debit ((byAge_perm debits).mem_iff.mp hdebit)
  rw [discharge, Settlement.pay_eq_payments _ hcredit hsorted, owed_perm (byAge_perm debits)]

namespace OpenDebit

/-! ### What the single debts take -/

/-- What a debt takes of so much credit when the debts of a list are discharged. -/
def taken (credit : Nat) (debits : List OpenDebit) (debit : OpenDebit) : Nat :=
  min debit.balance.debt (credit - owedBefore debits debit)

/-- Behind any front of the queue, the debts take what the front has left of the credit. -/
theorem sum_taken_of_sorted (credit : Nat) :
    ∀ (back front : List OpenDebit),
      (front ++ back).Pairwise (fun a b => a.precedes b = true) →
      (back.map (taken credit (front ++ back))).sum = min (credit - owed front) (owed back)
  | [], _, _ => by simp
  | debit :: back, front, h => by
      have ih := sum_taken_of_sorted credit back (front ++ [debit]) (by simpa using h)
      rw [List.append_assoc, List.singleton_append, owed_append, owed_cons, owed_nil] at ih
      rw [List.map_cons, List.sum_cons, ih, owed_cons, taken, owedBefore_eq_owed h]
      omega

/-- The debts take the whole credit, or all that is owed if that is less. -/
theorem sum_taken {debits : List OpenDebit} (hids : (debits.map (·.id)).Nodup) (credit : Nat) :
    (debits.map (taken credit debits)).sum = min credit (owed debits) := by
  have hperm := byAge_perm debits
  have hsorted := sum_taken_of_sorted credit (byAge debits) [] (byAge_precedes hids)
  have htaken : taken credit (byAge debits) = taken credit debits := by
    funext debit
    rw [taken, taken, owedBefore_perm hperm]
  rw [List.nil_append, owed_nil, Nat.sub_zero, owed_perm hperm, htaken] at hsorted
  rw [← hsorted]
  exact (hperm.map _).sum_nat.symm

/-- A debt after so much credit when the debts of a list are discharged. -/
def after (credit : Nat) (debits : List OpenDebit) (debit : OpenDebit) : OpenDebit :=
  { debit with balance := debit.balance.raised (credit - owedBefore debits debit) }

theorem balance_after (credit : Nat) (debits : List OpenDebit) (debit : OpenDebit) :
    (debit.after credit debits).balance.minor =
      debit.balance.minor + taken credit debits debit :=
  Money.raised_minor_eq _ _

theorem debt_after_add_taken (credit : Nat) (debits : List OpenDebit) (debit : OpenDebit) :
    (debit.after credit debits).balance.debt + taken credit debits debit =
      debit.balance.debt := by
  simp only [after, taken, Money.debt_raised]
  omega

theorem owed_map_after_add_sum_taken (credit : Nat) (debits others : List OpenDebit) :
    owed (others.map (after credit debits)) + (others.map (taken credit debits)).sum =
      owed others := by
  induction others with
  | nil => rfl
  | cons debit others ih =>
      have hdebit := debt_after_add_taken credit debits debit
      simp only [List.map_cons, owed_cons, List.sum_cons]
      omega

/-- A discharge lowers what is owed by the credit, as far as the credit goes. -/
theorem owed_map_after {debits : List OpenDebit} (hids : (debits.map (·.id)).Nodup)
    (credit : Nat) : owed (debits.map (after credit debits)) = owed debits - credit := by
  have h := owed_map_after_add_sum_taken credit debits debits
  rw [sum_taken hids] at h
  omega

/-! ### Two discharges -/

/-- After a discharge, what is owed before a debt is less by the credit, as far as it goes. -/
theorem owedBefore_map_after {debits : List OpenDebit} (hids : (debits.map (·.id)).Nodup)
    (credit : Nat) (debit : OpenDebit) :
    owedBefore (debits.map (after credit debits)) debit = owedBefore debits debit - credit := by
  have hearlier : ((debits.filter fun other => other.precedes debit).map (·.id)).Nodup :=
    hids.sublist (List.filter_sublist.map _)
  have hafter : ((debits.map (after credit debits)).filter fun other => other.precedes debit) =
      (debits.filter fun other => other.precedes debit).map
        (after credit (debits.filter fun other => other.precedes debit)) := by
    rw [List.filter_map]
    refine List.map_congr_left fun other hother => ?_
    have hprecedes : other.precedes debit = true := (List.mem_filter.mp hother).2
    rw [after, after, owedBefore_filter_precedes hprecedes]
  rw [owedBefore, hafter, owed_map_after hearlier, owedBefore]

end OpenDebit

end Arrears
