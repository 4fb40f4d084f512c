import Arrears.Error
import Arrears.Proofs.Decimal.Acceptance

/-!
# Amounts and the numbers they are read from

A decimal is an amount exactly when it is a whole number of cents that fit their word; stripping
zeros finds out.  An amount is the value of its text, except where the text says more than a decimal
can hold: there the decimal was rounded before its cents were counted, so a number that is no whole
number of cents can be accepted.
-/

namespace Arrears
namespace Decimal

theorem stripZeros_same (mantissa scale : Nat) :
    Magnitude.Same ⟨(stripZeros mantissa scale).1, (stripZeros mantissa scale).2⟩
      ⟨mantissa, scale⟩ := by
  induction scale generalizing mantissa with
  | zero => rfl
  | succ scale ih =>
      rw [stripZeros]
      split
      case isTrue hzero =>
        have hmantissa : mantissa / 10 * 10 = mantissa :=
          Nat.div_mul_cancel (Nat.dvd_of_mod_eq_zero hzero)
        have hrest := ih (mantissa / 10)
        simp only [Magnitude.Same] at hrest ⊢
        rw [pow_succ, ← Nat.mul_assoc, hrest, Nat.mul_right_comm, hmantissa]
      case isFalse => rfl

/-- Without its zeros at the end, a magnitude has at most so many decimals if and only if that many
make it a whole number. -/
theorem stripZeros_scale_le_iff (mantissa scale places : Nat) :
    (stripZeros mantissa scale).2 ≤ places ↔ 10 ^ scale ∣ mantissa * 10 ^ places := by
  induction scale generalizing mantissa with
  | zero => simp [stripZeros]
  | succ scale ih =>
      rw [stripZeros]
      split
      case isTrue hzero =>
        obtain ⟨rest, rfl⟩ := Nat.dvd_of_mod_eq_zero hzero
        rw [Nat.mul_div_cancel_left rest (by decide), ih, pow_succ', Nat.mul_assoc]
        exact (Nat.mul_dvd_mul_iff_left (by decide)).symm
      case isFalse hlast =>
        constructor
        · exact fun hle => (Nat.pow_dvd_pow 10 hle).mul_left mantissa
        · intro hdvd
          by_contra hlt
          have hpow : 10 ^ (scale + 1) = 10 * 10 ^ (scale - places) * 10 ^ places := by
            rw [Nat.mul_assoc, ← pow_add, ← pow_succ']
            congr 1
            omega
          rw [hpow] at hdvd
          have hten : 10 * 10 ^ (scale - places) ∣ mantissa :=
            Nat.dvd_of_mul_dvd_mul_right (by positivity) hdvd
          exact hlast (Nat.mod_eq_zero_of_dvd ((Nat.dvd_mul_right 10 _).trans hten))

theorem value_stripZeros (d : Decimal) :
    (⟨(stripZeros d.mantissa d.scale).1, (stripZeros d.mantissa d.scale).2⟩ : Magnitude).value
      d.negative = d.value :=
  (stripZeros_same d.mantissa d.scale).value_eq d.negative

/-- Zeros are added until all have found room, or until the mantissa has none for a further one. -/
theorem exists_addZeros (mantissa scale zeros : Nat) :
    ∃ added ≤ zeros, addZeros mantissa scale zeros = (mantissa * 10 ^ added, scale + added) ∧
      (added = zeros ∨ maxMantissa < 10 * (mantissa * 10 ^ added)) := by
  induction zeros generalizing mantissa scale with
  | zero => exact ⟨0, Nat.le_refl 0, by rw [addZeros, pow_zero, Nat.mul_one]; rfl, Or.inl rfl⟩
  | succ zeros ih =>
      rw [addZeros]
      split
      case isTrue hroom =>
        obtain ⟨added, hle, heq, hstop⟩ := ih (10 * mantissa) (scale + 1)
        have hmantissa : 10 * mantissa * 10 ^ added = mantissa * 10 ^ (added + 1) := by ring
        rw [hmantissa] at heq hstop
        exact ⟨added + 1, Nat.succ_le_succ hle, by rw [heq, Nat.add_assoc, Nat.add_comm 1],
          hstop.imp_left (congrArg (· + 1))⟩
      case isFalse hfull =>
        exact ⟨0, Nat.zero_le _, by rw [pow_zero, Nat.mul_one]; rfl, Or.inr (by omega)⟩

theorem natAbs_signedMantissa (d : Decimal) : d.signedMantissa.natAbs = d.mantissa :=
  natAbs_withSign d.negative d.mantissa

theorem value_eq_signedMantissa (d : Decimal) : d.value = d.signedMantissa / 10 ^ d.scale :=
  rfl

/-- Without its zeros at the end, a decimal has at most two decimals if and only if it is a whole
number of cents. -/
theorem dvd_cents_iff (d : Decimal) :
    (10 : Int) ^ d.scale ∣ 100 * d.signedMantissa ↔ (stripZeros d.mantissa d.scale).2 ≤ 2 := by
  rw [stripZeros_scale_le_iff, ← Int.natAbs_dvd_natAbs, Int.natAbs_mul, natAbs_signedMantissa,
    Int.natAbs_pow, mul_comm]
  exact Iff.rfl

end Decimal

namespace Money

open Decimal

theorem ofMinor?_eq_some_iff {minor : Int} {m : Money} :
    ofMinor? minor = some m ↔ minor = m.minor := by
  rw [ofMinor?]
  constructor
  · intro h
    split at h
    case isTrue =>
      obtain rfl := Option.some.inj h
      rfl
    case isFalse => cases h
  · rintro rfl
    rw [dif_pos m.fits]

theorem ofMinor?_withSign_eq_none {n : Nat} (negative : Bool) (h : 9223372036854775808 < n) :
    ofMinor? (withSign negative n) = none := by
  have hfits : ¬ Word.Fits (withSign negative n) := by
    simp only [Word.Fits, Word.least, Word.greatest, withSign]
    split <;> omega
  rw [ofMinor?, dif_neg hfits]

/-- Where zeros find no room the mantissa is too large for an amount, with those zeros or without. -/
theorem ofMinor?_addZeros (negative : Bool) (mantissa scale zeros : Nat) :
    ofMinor? (withSign negative (addZeros mantissa scale zeros).1) =
      ofMinor? (withSign negative (mantissa * Text.tenTo zeros)) := by
  obtain ⟨added, hle, heq, hstop⟩ := exists_addZeros mantissa scale zeros
  rw [heq]
  rcases hstop with rfl | hfull
  · rfl
  · have hmore : mantissa * 10 ^ added ≤ mantissa * Text.tenTo zeros :=
      Nat.mul_le_mul_left _ (Nat.pow_le_pow_right (by decide) hle)
    rw [maxMantissa] at hfull
    rw [ofMinor?_withSign_eq_none negative (by omega),
      ofMinor?_withSign_eq_none negative (by omega)]

theorem withSign_isNegative (m : Money) : withSign m.isNegative m.minor.natAbs = m.minor := by
  cases hnegative : m.isNegative with
  | false =>
      have hle : 0 ≤ m.minor := by simpa [isNegative] using hnegative
      simp [withSign, abs_of_nonneg hle]
  | true =>
      have hlt : m.minor < 0 := by simpa [isNegative] using hnegative
      simp [withSign, abs_of_neg hlt]

theorem value_toDecimal (m : Money) : m.toDecimal.value = m.minor / 100 := by
  have hvalue : m.toDecimal.value = (withSign m.isNegative m.minor.natAbs : ℚ) / 10 ^ 2 := rfl
  rw [hvalue, withSign_isNegative]
  norm_num

/-- With at most two decimals a magnitude is a number of cents. -/
theorem value_eq_cents_iff {x : Magnitude} {negative : Bool} {cents : Int} (hscale : x.scale ≤ 2) :
    x.value negative = cents / 100 ↔
      withSign negative (x.mantissa * Text.tenTo (2 - x.scale)) = cents := by
  have hpow : (100 : ℚ) = 10 ^ (2 - x.scale) * 10 ^ x.scale := by
    rw [← pow_add, Nat.sub_add_cancel hscale]
    norm_num
  have hten : (Text.tenTo (2 - x.scale) : ℤ) = 10 ^ (2 - x.scale) := Nat.cast_pow 10 _
  rw [Magnitude.value, div_eq_div_iff (by positivity) (by norm_num), hpow, ← mul_assoc,
    mul_left_inj' (by positivity), withSign_mul, hten]
  exact_mod_cast Iff.rfl

theorem value_eq_minor_iff {d : Decimal} {m : Money} :
    d.value = m.minor / 100 ↔ m.minor * 10 ^ d.scale = 100 * d.signedMantissa := by
  rw [value_eq_signedMantissa, div_eq_div_iff (by positivity) (by norm_num), eq_comm,
    mul_comm (d.signedMantissa : ℚ)]
  exact_mod_cast Iff.rfl

/-- **Decimals are read exactly.** A decimal is an amount if and only if it is its value. -/
theorem ofDecimal_eq_ok_iff {d : Decimal} {m : Money} :
    ofDecimal d = .ok m ↔ d.value = m.minor / 100 := by
  have hvalue := value_stripZeros d
  have hwhole := dvd_cents_iff d
  rw [ofDecimal]
  cases hstrip : stripZeros d.mantissa d.scale with
  | mk mantissa scale =>
      rw [hstrip] at hvalue hwhole
      dsimp only at hwhole ⊢
      split
      case isTrue hscale =>
        have hne : d.value ≠ m.minor / 100 := by
          rw [ne_eq, value_eq_minor_iff]
          intro hmul
          exact absurd (hwhole.mp (Dvd.intro_left _ hmul)) (Nat.not_le.mpr hscale)
        simp [hne]
      case isFalse hscale =>
        rw [← hvalue, value_eq_cents_iff (Nat.le_of_not_lt hscale), ← ofMinor?_eq_some_iff,
          ← ofMinor?_addZeros d.negative mantissa scale]
        rw [withSign]
        split
        case h_1 amount hamount => rw [hamount, Except.ok.injEq, Option.some.injEq]
        case h_2 hnone => rw [hnone]; simp

/-- **Texts are read exactly where decimals can hold them.** An accepted text denotes a number,
and the amount is this number if and only if decimals hold both it and the number in front of its
exponent. -/
theorem ofText_exact_iff {s : String} {m : Money} (h : ofText s = .ok m) :
    ∃ w, Written.ofChars? (Text.trimmed s.toList) = some w ∧
      (w.value = m.minor / 100 ↔ Holds w.base ∧ Holds w.value) := by
  rw [ofText] at h
  split at h
  case h_1 d hread =>
    obtain ⟨w, hw, hexact⟩ := ofChars_eq_ok hread
    refine ⟨w, hw, ?_⟩
    rw [← ofDecimal_eq_ok_iff.mp h, eq_comm]
    exact hexact
  case h_2 => cases h

/-- The amount `-12.5e1` is read exactly. -/
theorem ofText_exact_iff_scientific :
    ofText " -12.5e1\n" = .ok ⟨-12500, by decide⟩ ∧
      ∃ w, Written.ofChars? (Text.trimmed " -12.5e1\n".toList) = some w ∧
        (w.value = (-12500 : Int) / 100 ↔ Holds w.base ∧ Holds w.value) :=
  have hread : ofText " -12.5e1\n" = .ok ⟨-12500, by decide⟩ := by rfl
  ⟨hread, ofText_exact_iff hread⟩

/-- A text with 29 decimals is accepted as nothing at all, though it denotes more than that. -/
theorem ofText_inexact :
    ¬∀ s m, ofText s = .ok m →
      ∃ w, Written.ofChars? (Text.trimmed s.toList) = some w ∧ w.value = m.minor / 100 := by
  intro hall
  have hdecimal : Decimal.ofChars (Text.trimmed "0.00000000000000000000000000001".toList) =
      .ok ⟨false, 0, 28, by decide, by decide⟩ := by
    rfl
  have hread : ofText "0.00000000000000000000000000001" = .ok zero := by
    rw [ofText, hdecimal]
    rfl
  obtain ⟨w, hw, hvalue⟩ := hall _ _ hread
  have hwritten : Written.ofChars? (Text.trimmed "0.00000000000000000000000000001".toList) =
      some ⟨false, ⟨1, 29⟩, 0⟩ := by
    decide
  obtain rfl := Option.some.inj (hwritten.symm.trans hw)
  norm_num [Written.value, Written.base, Magnitude.value, withSign, zero] at hvalue

end Money

/-! ## What a decimal is as an amount

A magnitude gets down to two decimals exactly if it is a whole number of cents (`dvd_cents_iff`).
From there zeros are put back up to two decimals; where a full mantissa stops this halfway, it is too
large for an amount anyhow.
-/

namespace Money

open Decimal

variable {d : Decimal}

theorem ofDecimal_cases (d : Decimal) :
    (∃ m, ofDecimal d = .ok m) ∨ ofDecimal d = .error (.subCent d) ∨
      ofDecimal d = .error (.outOfRange d) := by
  rw [ofDecimal]
  dsimp only
  split
  case isTrue => exact Or.inr (Or.inl rfl)
  case isFalse =>
    split
    case h_1 amount _ => exact Or.inl ⟨amount, rfl⟩
    case h_2 => exact Or.inr (Or.inr rfl)

theorem ofDecimal_eq_ok_iff_mul {m : Money} :
    ofDecimal d = .ok m ↔ m.minor * 10 ^ d.scale = 100 * d.signedMantissa := by
  rw [ofDecimal_eq_ok_iff, value_eq_minor_iff]

/-- More than two decimals are left of what is no whole number of cents, and of nothing else. -/
theorem ofDecimal_eq_subCent_iff :
    ofDecimal d = .error (.subCent d) ↔ ¬ (10 : Int) ^ d.scale ∣ 100 * d.signedMantissa := by
  rw [dvd_cents_iff, ofDecimal]
  dsimp only
  split
  case isTrue hscale => simpa using hscale
  case isFalse hscale => split <;> simpa using hscale

theorem ofDecimal_eq_outOfRange_iff :
    ofDecimal d = .error (.outOfRange d) ↔
      ∃ cents : Int, cents * 10 ^ d.scale = 100 * d.signedMantissa ∧ ¬ Word.Fits cents := by
  constructor
  · intro h
    have hwhole : (10 : Int) ^ d.scale ∣ 100 * d.signedMantissa := by
      by_contra hpart
      rw [ofDecimal_eq_subCent_iff.mpr hpart] at h
      cases h
    obtain ⟨cents, hcents⟩ := hwhole
    have hmul : cents * 10 ^ d.scale = 100 * d.signedMantissa := by rw [hcents, mul_comm]
    refine ⟨cents, hmul, fun hfits => ?_⟩
    have hok : ofDecimal d = .ok ⟨cents, hfits⟩ := ofDecimal_eq_ok_iff_mul.mpr hmul
    rw [hok] at h
    cases h
  · rintro ⟨cents, hcents, hfits⟩
    rcases ofDecimal_cases d with ⟨m, hok⟩ | hpart | hrange
    · have hminor : m.minor = cents := by
        have hmul := (ofDecimal_eq_ok_iff_mul.mp hok).trans hcents.symm
        exact mul_right_cancel₀ (by positivity) hmul
      exact absurd (hminor ▸ m.fits) hfits
    · exact absurd (Dvd.intro_left cents hcents) (ofDecimal_eq_subCent_iff.mp hpart)
    · exact hrange

theorem message_subCent_ne_outOfRange (d : Decimal) :
    (AmountFault.subCent d).message ≠ (AmountFault.outOfRange d).message := by
  intro h
  have hend := (String.append_right_inj _).mp h
  exact absurd hend (by decide)

theorem exists_refusal_iff {refusal : AmountFault}
    (hrefusal : refusal = .subCent d ∨ refusal = .outOfRange d) :
    (∃ fault, ofDecimal d = .error fault ∧
        (Error.validation (.badAmount fault)).text = "Validation failed: " ++ refusal.message) ↔
      ofDecimal d = .error refusal := by
  constructor
  · rintro ⟨fault, hfault, htext⟩
    have hmessage : fault.message = refusal.message := (String.append_right_inj _).mp htext
    rcases ofDecimal_cases d with ⟨m, hok⟩ | hpart | hrange
    · rw [hok] at hfault
      cases hfault
    · obtain rfl := Except.error.inj (hpart.symm.trans hfault)
      rcases hrefusal with rfl | rfl
      · exact hpart
      · exact absurd hmessage (message_subCent_ne_outOfRange d)
    · obtain rfl := Except.error.inj (hrange.symm.trans hfault)
      rcases hrefusal with rfl | rfl
      · exact absurd hmessage.symm (message_subCent_ne_outOfRange d)
      · exact hrange
  · exact fun h => ⟨refusal, h, rfl⟩

/-- **What a decimal is as an amount.**  It is the amount of so many cents if and only if these are
its value.  If it is no whole number of cents, the refusal is that it has more than two decimal
places, and if its cents do not fit their word, that it is out of range. -/
theorem ofDecimal_outcome (d : Decimal) :
    (∀ m : Money, ofDecimal d = .ok m ↔ m.minor * 10 ^ d.scale = 100 * d.signedMantissa) ∧
      ((∃ fault, ofDecimal d = .error fault ∧ (Error.validation (.badAmount fault)).text =
          "Validation failed: " ++ ("amount " ++ d.text ++ " has more than 2 decimal places")) ↔
        ¬ (10 : Int) ^ d.scale ∣ 100 * d.signedMantissa) ∧
      ((∃ fault, ofDecimal d = .error fault ∧ (Error.validation (.badAmount fault)).text =
          "Validation failed: " ++ ("amount " ++ d.text ++ " is out of range")) ↔
        ∃ cents : Int, cents * 10 ^ d.scale = 100 * d.signedMantissa ∧ ¬ Word.Fits cents) := by
  refine ⟨fun m => ofDecimal_eq_ok_iff_mul, ?_, ?_⟩
  · rw [← ofDecimal_eq_subCent_iff]
    exact exists_refusal_iff (Or.inl rfl)
  · rw [← ofDecimal_eq_outOfRange_iff]
    exact exists_refusal_iff (Or.inr rfl)

/-- A full mantissa has no room for the zero that would make it a number of cents. -/
example : ofDecimal ⟨true, maxMantissa, 1, by decide, by decide⟩ =
    .error (.outOfRange ⟨true, maxMantissa, 1, by decide, by decide⟩) := by
  rfl

end Money

end Arrears
