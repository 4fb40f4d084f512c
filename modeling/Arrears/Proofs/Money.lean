import Arrears.Store.Basic

/-!
# Debts and credits as amounts

A negative amount is a debt.  This module names what an amount owes and what a credit makes of it,
as total functions, and shows that the checked arithmetic of the ledger agrees with them wherever
it is used.
-/

namespace Arrears

attribute [ext] Money

namespace Money

/-- What an amount owes: its size if it is a debt, and nothing else. -/
def debt (a : Money) : Nat :=
  (-a.minor).toNat

/-- The amount after so much credit: a debt moves up to zero at most, any other amount stays. -/
def raised (a : Money) (credit : Nat) : Money :=
  ⟨min (max 0 a.minor) (a.minor + credit), by
    have h := a.fits
    simp only [Word.Fits, Word.least, Word.greatest] at h ⊢
    omega⟩

/-- What remains of an amount after so much has been paid from it. -/
def less (a : Money) (paid : Nat) : Money :=
  ⟨max 0 (a.minor - paid), by
    have h := a.fits
    simp only [Word.Fits, Word.least, Word.greatest] at h ⊢
    omega⟩

/-- The debt that a positive amount makes. -/
def owing (a : Money) : Money :=
  ⟨min 0 (-a.minor), by
    have h := a.fits
    simp only [Word.Fits, Word.least, Word.greatest] at h ⊢
    omega⟩

theorem raised_minor (a : Money) (credit : Nat) :
    (a.raised credit).minor = min (max 0 a.minor) (a.minor + credit) :=
  rfl

theorem less_minor (a : Money) (paid : Nat) : (a.less paid).minor = max 0 (a.minor - paid) :=
  rfl

theorem owing_minor_of_pos {a : Money} (ha : 0 < a.minor) : a.owing.minor = -a.minor := by
  simp only [owing]
  omega

theorem isNegative_iff (a : Money) : a.isNegative = true ↔ 0 < a.debt := by
  simp only [isNegative, debt, decide_eq_true_eq]
  omega

theorem isPositive_iff (a : Money) : a.isPositive = true ↔ 0 < a.minor := by
  simp only [isPositive, decide_eq_true_eq]

theorem raised_minor_eq (a : Money) (credit : Nat) :
    (a.raised credit).minor = a.minor + (min a.debt credit : Nat) := by
  simp only [raised_minor, debt]
  omega

@[simp] theorem raised_zero (a : Money) : a.raised 0 = a := by
  ext
  rw [raised_minor_eq]
  simp

theorem raised_of_debt_eq_zero {a : Money} (ha : a.debt = 0) (credit : Nat) :
    a.raised credit = a := by
  ext
  rw [raised_minor_eq, ha]
  simp

theorem debt_raised (a : Money) (credit : Nat) : (a.raised credit).debt = a.debt - credit := by
  simp only [debt, raised_minor]
  omega

theorem raised_raised (a : Money) (credit more : Nat) :
    (a.raised credit).raised more = a.raised (credit + more) := by
  ext
  simp only [raised_minor]
  omega

@[simp] theorem debt_less (a : Money) (paid : Nat) : (a.less paid).debt = 0 := by
  simp only [debt, less_minor]
  omega

theorem less_zero {a : Money} (ha : 0 ≤ a.minor) : a.less 0 = a := by
  ext
  simp only [less_minor]
  omega

theorem less_less (a : Money) (paid more : Nat) :
    (a.less paid).less more = a.less (paid + more) := by
  ext
  simp only [less_minor]
  omega

theorem toNat_less (a : Money) (paid : Nat) :
    (a.less paid).minor.toNat = a.minor.toNat - paid := by
  simp only [less_minor]
  omega

/-! ## The checked arithmetic -/

theorem within_of_fits {n : Int} (step : Overflow) (h : Word.Fits n) :
    within step n = .ok ⟨n, h⟩ := by
  simp only [within, dif_pos h]

theorem negate_of_least_lt {a : Money} (ha : Word.least < a.minor) :
    ∃ b, a.negate = .ok b ∧ b.minor = -a.minor := by
  have hfits : Word.Fits (-a.minor) := by
    have h := a.fits
    simp only [Word.Fits, Word.least, Word.greatest] at h ha ⊢
    omega
  exact ⟨⟨-a.minor, hfits⟩, within_of_fits .negate hfits, rfl⟩

theorem min_minor (a b : Money) : (min a b).minor = min a.minor b.minor := by
  show (if a.minor ≤ b.minor then a else b).minor = _
  split <;> omega

/-- Paying a debt of size `owed` leaves what the debt does not take of the credit. -/
theorem subtract_eq_less {credit owed : Money} (ho : 0 < owed.minor) :
    credit.subtract (min owed credit) = .ok (credit.less owed.minor.toNat) := by
  have hminor : credit.minor - (min owed credit).minor = (credit.less owed.minor.toNat).minor := by
    simp only [min_minor, less_minor]
    omega
  rw [subtract, hminor]
  exact within_of_fits .subtract (credit.less owed.minor.toNat).fits

/-- What has been paid from an amount is the difference to what remains. -/
theorem subtract_less {a : Money} (ha : 0 ≤ a.minor) (paid : Nat) :
    ∃ b, a.subtract (a.less paid) = .ok b ∧ b.minor = min a.minor paid := by
  have hfits : Word.Fits (a.minor - (a.less paid).minor) := by
    have h := a.fits
    simp only [Word.Fits, Word.least, Word.greatest] at h ⊢
    simp only [less_minor]
    omega
  refine ⟨⟨_, hfits⟩, within_of_fits .subtract hfits, ?_⟩
  simp only [less_minor]
  omega

/-- Paying a debt of size `owed` raises it by what it takes of the credit. -/
theorem add_eq_raised {a credit owed : Money} (ha : 0 < a.debt) (hc : 0 < credit.minor)
    (ho : owed.minor = -a.minor) :
    a.add (min owed credit) = .ok (a.raised credit.minor.toNat) := by
  have hminor : a.minor + (min owed credit).minor = (a.raised credit.minor.toNat).minor := by
    simp only [debt] at ha
    simp only [min_minor, raised_minor]
    omega
  rw [add, hminor]
  exact within_of_fits .add (a.raised credit.minor.toNat).fits

/-- The amount that a positive amount is booked with. -/
def signed (behavior : Behavior) (a : Money) : Money :=
  match behavior with
  | .credit => a
  | .debit => a.owing

theorem sign_of_pos {a : Money} (behavior : Behavior) (ha : 0 < a.minor) :
    behavior.sign a = .ok (a.signed behavior) := by
  have hneg : a.isNegative = false := by
    simp only [isNegative, decide_eq_false_iff_not]
    omega
  have hmagnitude : a.magnitude = .ok a := by
    simp only [magnitude, hneg]
    rfl
  cases behavior with
  | credit =>
      simp only [Behavior.sign, hmagnitude]
      rfl
  | debit =>
      have hleast : Word.least < a.minor := by
        simp only [Word.least]
        omega
      obtain ⟨b, hb, hminor⟩ := negate_of_least_lt hleast
      have hb' : b = a.owing := by
        ext
        rw [hminor, owing_minor_of_pos ha]
      rw [hb'] at hb
      simp only [Behavior.sign, hmagnitude]
      exact hb

end Money

namespace Behavior

theorem ofText_text (behavior : Behavior) : ofText behavior.text = .ok behavior := by
  cases behavior <;> rfl

end Behavior
end Arrears
