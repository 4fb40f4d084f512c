import Arrears.Proofs.Discharge.ClosedForm

/-!
# Where a discharge overflows

**Steps.** A payment negates the balance of a debt, subtracts from the credit what the debt takes of
it, and adds this to the balance.  Each step is checked.

**Argument.** A debt takes no more than there is of the credit, and no more than it owes, so the
subtraction and the addition stay within their word whatever comes before.  Only the least amount
has no negation.  The credit comes to a debt of the least amount exactly if less is owed in front of
it, in whole numbers: an earlier debt of that size would use up any credit.
-/

namespace Arrears

open OpenDebit

namespace Money

theorem negate_of_least {a : Money} (ha : a.minor = Word.least) : a.negate = .error .negate := by
  have hfits : ¬ Word.Fits (-a.minor) := by
    rw [ha]
    decide
  simp only [negate, within, dif_neg hfits]

theorem debt_pos_of_least {a : Money} (ha : a.minor = Word.least) : 0 < a.debt := by
  simp only [debt, ha, Word.least]
  decide

theorem least_lt_of_ne {a : Money} (ha : a.minor ≠ Word.least) : Word.least < a.minor := by
  have h := a.fits.1
  omega

end Money

namespace Settlement

/-! ## Debts within reach of a credit -/

/-- In front of some debt of the least amount less is owed than so much credit. -/
def ReachesLeast (credit : Nat) (queue : List OpenDebit) : Prop :=
  ∃ front debit back, queue = front ++ debit :: back ∧ debit.balance.minor = Word.least ∧
    owed front < credit

theorem not_reachesLeast_nil (credit : Nat) : ¬ ReachesLeast credit [] := by
  rintro ⟨front, debit, back, hqueue, -, -⟩
  exact absurd hqueue.symm (List.append_ne_nil_of_right_ne_nil front (List.cons_ne_nil debit back))

theorem not_reachesLeast_zero (queue : List OpenDebit) : ¬ ReachesLeast 0 queue := by
  rintro ⟨front, debit, back, -, -, hfront⟩
  exact absurd hfront (Nat.not_lt_zero _)

/-- The first debt is within reach of any credit, and the others of what the first one leaves. -/
theorem reachesLeast_cons {credit : Nat} {debit : OpenDebit} {debits : List OpenDebit} :
    ReachesLeast credit (debit :: debits) ↔
      debit.balance.minor = Word.least ∧ 0 < credit ∨
        ReachesLeast (credit - debit.balance.debt) debits := by
  constructor
  · rintro ⟨front, least, back, hqueue, hleast, hfront⟩
    cases front with
    | nil =>
        obtain ⟨rfl, -⟩ := List.cons.inj hqueue
        exact Or.inl ⟨hleast, hfront⟩
    | cons first front =>
        obtain ⟨rfl, hrest⟩ := List.cons.inj hqueue
        rw [owed_cons] at hfront
        exact Or.inr ⟨front, least, back, hrest, hleast, by omega⟩
  · rintro (⟨hleast, hcredit⟩ | ⟨front, least, back, hrest, hleast, hfront⟩)
    · exact ⟨[], debit, debits, rfl, hleast, hcredit⟩
    · refine ⟨debit :: front, least, back, by rw [hrest, List.cons_append], hleast, ?_⟩
      rw [owed_cons]
      omega

/-! ## The walk -/

theorem pay_cons_of_least {debit : OpenDebit} (hleast : debit.balance.minor = Word.least)
    {credit : Money} (hcredit : 0 < credit.minor) (debits : List OpenDebit) :
    pay credit (debit :: debits) = .error .negate := by
  have hpositive : credit.isPositive = true := (Money.isPositive_iff credit).mpr hcredit
  have hnegative : debit.balance.isNegative = true :=
    (Money.isNegative_iff debit.balance).mpr (Money.debt_pos_of_least hleast)
  rw [pay, hpositive, hnegative, Money.negate_of_least hleast]
  rfl

/-- Unless the walk stops at the first debt, it goes on with what this debt leaves of the credit. -/
theorem map_remaining_pay_cons {credit : Money} {debit : OpenDebit} (hcredit : 0 ≤ credit.minor)
    (hfirst : ¬ (debit.balance.minor = Word.least ∧ 0 < credit.minor)) (debits : List OpenDebit) :
    (pay credit (debit :: debits)).map (·.remaining) =
      (pay (credit.less debit.balance.debt) debits).map (·.remaining) := by
  by_cases hpos : 0 < credit.minor
  · by_cases hdebt : debit.balance.debt = 0
    · rw [pay_cons_of_debt_eq_zero hdebt, hdebt, Money.less_zero hcredit]
    · have hleast : Word.least < debit.balance.minor :=
        Money.least_lt_of_ne fun h => hfirst ⟨h, hpos⟩
      rw [pay_cons_of_debt_pos (Nat.pos_of_ne_zero hdebt) hleast hpos]
      cases pay (credit.less debit.balance.debt) debits <;> rfl
  · -- Nothing is left of the credit, in front of the debt and behind it.
    have hless : credit.less debit.balance.debt = credit := by
      ext
      rw [Money.less_minor]
      omega
    rw [hless, pay_of_not_pos hpos, pay_of_not_pos hpos]

/-- A walk ends in one of two ways: at a debt of the least amount within reach of the credit, or
with what the credit exceeds all debts by. -/
theorem map_remaining_pay :
    ∀ (queue : List OpenDebit) {credit : Money}, 0 ≤ credit.minor →
      ReachesLeast credit.minor.toNat queue ∧
          (pay credit queue).map (·.remaining) = .error .negate ∨
        ¬ ReachesLeast credit.minor.toNat queue ∧
          (pay credit queue).map (·.remaining) = .ok (credit.less (owed queue))
  | [], credit, hcredit => by
      refine Or.inr ⟨not_reachesLeast_nil _, ?_⟩
      rw [owed_nil, Money.less_zero hcredit]
      rfl
  | debit :: debits, credit, hcredit => by
      rw [reachesLeast_cons]
      by_cases hfirst : debit.balance.minor = Word.least ∧ 0 < credit.minor
      · have hpos : 0 < credit.minor.toNat := by omega
        refine Or.inl ⟨Or.inl ⟨hfirst.1, hpos⟩, ?_⟩
        rw [pay_cons_of_least hfirst.1 hfirst.2]
        rfl
      · have hless : 0 ≤ (credit.less debit.balance.debt).minor := by
          rw [Money.less_minor]
          omega
        have hnot : ¬ (debit.balance.minor = Word.least ∧ 0 < credit.minor.toNat) := by omega
        have ih := map_remaining_pay debits hless
        rw [Money.toNat_less, Money.less_less] at ih
        rw [map_remaining_pay_cons hcredit hfirst, owed_cons, or_iff_right hnot]
        exact ih

/-- A walk overflows at a debt of the least amount within reach of the credit, and nowhere else. -/
theorem pay_eq_error_iff {queue : List OpenDebit} {credit : Money} {step : Overflow} :
    pay credit queue = .error step ↔
      step = .negate ∧ ReachesLeast credit.minor.toNat queue := by
  by_cases hcredit : 0 ≤ credit.minor
  · have houtcome := map_remaining_pay queue hcredit
    cases hpay : pay credit queue with
    | error found =>
        rw [hpay] at houtcome
        rcases houtcome with ⟨hreaches, hend⟩ | ⟨-, hend⟩
        · obtain rfl := Except.error.inj hend
          simp [hreaches, eq_comm]
        · cases hend
    | ok settlement =>
        rw [hpay] at houtcome
        rcases houtcome with ⟨-, hend⟩ | ⟨hreaches, -⟩
        · cases hend
        · simp [hreaches]
  · have hzero : credit.minor.toNat = 0 := by omega
    rw [pay_of_not_pos (by omega), hzero]
    simp [not_reachesLeast_zero]

/-- What a walk has paid is the credit, or all that is owed if that is less. -/
theorem exists_discharged_of_pay {queue : List OpenDebit} {credit : Money}
    {settlement : Settlement} (h : pay credit queue = .ok settlement) :
    ∃ paid, settlement.discharged credit = .ok paid ∧
      paid.minor = min (max 0 credit.minor) (owed queue) := by
  by_cases hcredit : 0 ≤ credit.minor
  · have hremaining : settlement.remaining = credit.less (owed queue) := by
      rcases map_remaining_pay queue hcredit with ⟨-, hend⟩ | ⟨-, hend⟩
      · rw [h] at hend
        cases hend
      · rw [h] at hend
        exact Except.ok.inj hend
    obtain ⟨paid, hpaid, hminor⟩ := Money.subtract_less hcredit (owed queue)
    rw [← hremaining] at hpaid
    refine ⟨paid, hpaid, ?_⟩
    rw [hminor, max_eq_right hcredit]
  · -- A credit that is not positive remains as it is.
    rw [pay_of_not_pos (by omega)] at h
    obtain rfl := Except.ok.inj h
    refine ⟨Money.zero, ?_, ?_⟩
    · rw [discharged, Money.subtract, Int.sub_self]
      exact Money.within_of_fits .subtract Money.zero.fits
    · show (0 : Int) = _
      omega

end Settlement

/-- **Where a discharge overflows.**  It does so exactly if the credit is positive and comes to a
debt of the least amount: less than the credit is owed in front of this debt in stable order of age.
The step that overflows is the negation of its balance, never a subtraction or an addition.  If
nothing overflows, then neither does the sum that was paid, and it lies between zero and the
credit. -/
theorem discharge_overflow_iff (credit : Money) (debits : List OpenDebit) :
    (∀ step, discharge credit debits = .error step ↔
      step = .negate ∧ 0 < credit.minor ∧
        ∃ front debit back, InOrderOfAge debits (front ++ debit :: back) ∧
          debit.balance.minor = Word.least ∧ owed front < credit.minor) ∧
      ∀ settlement, discharge credit debits = .ok settlement →
        ∃ paid, settlement.discharged credit = .ok paid ∧ 0 ≤ paid.minor ∧
          paid.minor ≤ max 0 credit.minor := by
  refine ⟨fun step => ?_, fun settlement h => ?_⟩
  · rw [discharge, Settlement.pay_eq_error_iff]
    refine and_congr_right fun _ => ?_
    constructor
    · rintro ⟨front, debit, back, hqueue, hleast, hfront⟩
      exact ⟨by omega, front, debit, back, inOrderOfAge_iff.mpr hqueue.symm, hleast, by omega⟩
    · rintro ⟨hcredit, front, debit, back, hqueue, hleast, hfront⟩
      exact ⟨front, debit, back, (inOrderOfAge_iff.mp hqueue).symm, hleast, by omega⟩
  · obtain ⟨paid, hpaid, hminor⟩ := Settlement.exists_discharged_of_pay h
    exact ⟨paid, hpaid, by omega, by omega⟩

/-- A debt of the least amount, given in front of an older one of 100, and an entry between them
that carries no debt. -/
def leastInFront : List OpenDebit :=
  [⟨7, .ofSeconds 200, ⟨Word.least, by decide⟩⟩, ⟨5, .ofSeconds 150, ⟨30, by decide⟩⟩,
    ⟨8, .ofSeconds 100, ⟨-100, by decide⟩⟩]

theorem byAge_leastInFront : byAge leastInFront =
    [⟨8, .ofSeconds 100, ⟨-100, by decide⟩⟩, ⟨5, .ofSeconds 150, ⟨30, by decide⟩⟩] ++
      ⟨7, .ofSeconds 200, ⟨Word.least, by decide⟩⟩ :: [] :=
  (byAge_eq_of_perm (by decide) (by decide)).trans (byAge_eq_self (by decide))

/-- A credit of 101 comes to the debt of the least amount, and a credit of 100 does not. -/
theorem discharge_overflow_iff_edge :
    discharge ⟨101, by decide⟩ leastInFront = .error .negate ∧
      discharge ⟨100, by decide⟩ leastInFront = .ok ⟨[⟨8, .zero⟩], .zero⟩ ∧
      ∃ paid, Settlement.discharged ⟨[⟨8, .zero⟩], .zero⟩ ⟨100, by decide⟩ = .ok paid ∧
        0 ≤ paid.minor ∧ paid.minor ≤ 100 := by
  have hreached := (discharge_overflow_iff ⟨101, by decide⟩ leastInFront).1 .negate
  have hpaid := (discharge_overflow_iff ⟨100, by decide⟩ leastInFront).2 ⟨[⟨8, .zero⟩], .zero⟩
  have hqueue := inOrderOfAge_iff.mpr byAge_leastInFront.symm
  have hok : discharge ⟨100, by decide⟩ leastInFront = .ok ⟨[⟨8, .zero⟩], .zero⟩ := by
    rw [discharge, byAge_leastInFront]
    rfl
  exact ⟨hreached.mpr ⟨rfl, by decide, _, _, [], hqueue, rfl, by decide⟩, hok, hpaid hok⟩

end Arrears
