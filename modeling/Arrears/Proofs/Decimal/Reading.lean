import Arrears.Decimal
import Arrears.Proofs.Text.Numeral
import Mathlib.Algebra.Order.Field.Basic
import Mathlib.Algebra.Order.Field.Rat
import Mathlib.Data.List.TakeWhile
import Mathlib.Tactic.FieldSimp
import Mathlib.Tactic.NormNum

/-!
# Plain numbers are read exactly where they can be

What is written and what a `Decimal` stands for are compared as rational numbers.  `Decimal.Holds`
tells which rationals have a decimal at all.

**Argument.** `Reads` lists the steps of the plain reading: it takes digits, passes the point and
separators, and ends at the end of the text or where the number has no more room.
`Progress.written`, the number that was taken in so far together with the digits that are left, is
kept by every step.  Where the room ends, rounding changes nothing if all digits that are left are
zeros, and another digit is left only if no decimal holds the number.
-/

namespace Arrears

/-! ## The number that a text denotes

A plain number is made of digits, separators and at most one point, with a sign in front or without;
apart from the point a digit comes first.  A scientific number is a plain one with the letter `e` or
`E` behind it, and behind the letter a whole number.
-/

namespace Decimal

/-- A natural number with a sign. -/
def withSign (negative : Bool) (n : Nat) : Int :=
  if negative then -(n : Int) else n

@[simp] theorem natAbs_withSign (negative : Bool) (n : Nat) : (withSign negative n).natAbs = n := by
  cases negative <;> simp [withSign]

theorem withSign_mul (negative : Bool) (m n : Nat) :
    withSign negative (m * n) = withSign negative m * n := by
  cases negative <;> simp [withSign]

/-- The rational number that a magnitude stands for under a sign. -/
def Magnitude.value (x : Magnitude) (negative : Bool) : ℚ :=
  withSign negative x.mantissa / 10 ^ x.scale

def magnitude (d : Decimal) : Magnitude :=
  ⟨d.mantissa, d.scale⟩

/-- The rational number that a decimal stands for. -/
def value (d : Decimal) : ℚ :=
  d.magnitude.value d.negative

/-- Some decimal stands for this number. -/
def Holds (v : ℚ) : Prop :=
  ∃ d : Decimal, d.value = v

/-! ### Comparing values -/

theorem Magnitude.value_eq_iff {x y : Magnitude} {negative negative' : Bool} :
    x.value negative = y.value negative' ↔
      withSign negative x.mantissa * 10 ^ y.scale = withSign negative' y.mantissa * 10 ^ x.scale := by
  rw [Magnitude.value, Magnitude.value, div_eq_div_iff (by positivity) (by positivity)]
  exact_mod_cast Iff.rfl

/-- Two magnitudes that differ in trailing zeros only. -/
def Magnitude.Same (x y : Magnitude) : Prop :=
  x.mantissa * 10 ^ y.scale = y.mantissa * 10 ^ x.scale

theorem Magnitude.Same.value_eq {x y : Magnitude} (h : x.Same y) (negative : Bool) :
    x.value negative = y.value negative := by
  rw [Magnitude.value_eq_iff]
  have hcast := congrArg (withSign negative) h
  rw [withSign_mul, withSign_mul] at hcast
  exact_mod_cast hcast

theorem Magnitude.same_of_value_eq {x y : Magnitude} {negative negative' : Bool}
    (h : x.value negative = y.value negative') : x.Same y := by
  have hnat := congrArg Int.natAbs (Magnitude.value_eq_iff.mp h)
  rw [Same]
  simpa [Int.natAbs_mul, Int.natAbs_pow] using hnat

/-- The last digits are zeros where another magnitude of the same value has no decimals. -/
theorem Magnitude.Same.pow_dvd {x : Magnitude} {mantissa scale places : Nat}
    (h : x.Same ⟨mantissa, scale + places⟩) (hscale : x.scale ≤ scale) :
    10 ^ places ∣ mantissa := by
  have hpow : 10 ^ (scale + places) = 10 ^ (scale - x.scale) * 10 ^ places * 10 ^ x.scale := by
    rw [← pow_add, ← pow_add]
    congr 1
    omega
  rw [Same, hpow, ← Nat.mul_assoc, ← Nat.mul_assoc] at h
  have hmantissa : x.mantissa * 10 ^ (scale - x.scale) * 10 ^ places = mantissa :=
    Nat.eq_of_mul_eq_mul_right (by positivity) h
  rw [← hmantissa]
  exact Nat.dvd_mul_left _ _

/-- Some magnitude within the bounds of a decimal has the same value. -/
def Magnitude.Fits (x : Magnitude) : Prop :=
  ∃ y : Magnitude, y.mantissa ≤ maxMantissa ∧ y.scale ≤ maxScale ∧ y.Same x

theorem holds_iff_fits (x : Magnitude) (negative : Bool) :
    Holds (x.value negative) ↔ x.Fits := by
  constructor
  · rintro ⟨d, hd⟩
    exact ⟨d.magnitude, d.mantissa_le, d.scale_le, Magnitude.same_of_value_eq hd⟩
  · rintro ⟨y, hmantissa, hscale, hsame⟩
    exact ⟨⟨negative, y.mantissa, y.scale, hmantissa, hscale⟩, hsame.value_eq negative⟩

theorem abs_withSign (negative : Bool) (n : Nat) : |(withSign negative n : ℚ)| = n := by
  cases negative <;> simp [withSign]

theorem Magnitude.abs_value (x : Magnitude) (negative : Bool) :
    |x.value negative| = x.mantissa / 10 ^ x.scale := by
  rw [Magnitude.value, abs_div, abs_withSign, abs_of_pos (by positivity : (0 : ℚ) < 10 ^ x.scale)]

/-- Multiplying by a power of ten takes decimals away, and then adds zeros. -/
theorem Magnitude.value_mul (x : Magnitude) (negative : Bool) (n : Nat) :
    x.value negative * 10 ^ n =
      (⟨x.mantissa * 10 ^ (n - x.scale), x.scale - n⟩ : Magnitude).value negative := by
  have hpow : (10 : ℚ) ^ n * 10 ^ (x.scale - n) = 10 ^ (n - x.scale) * 10 ^ x.scale := by
    rw [← pow_add, ← pow_add]
    congr 1
    omega
  rw [Magnitude.value, Magnitude.value, withSign_mul, div_mul_eq_mul_div,
    div_eq_div_iff (by positivity) (by positivity)]
  push_cast
  rw [mul_assoc, hpow, ← mul_assoc]

theorem Magnitude.value_div (x : Magnitude) (negative : Bool) (n : Nat) :
    x.value negative / 10 ^ n = (⟨x.mantissa, x.scale + n⟩ : Magnitude).value negative := by
  rw [Magnitude.value, Magnitude.value, div_div, pow_add]

/-- A number is held if its quotient by a power of ten is, unless its whole part is too large. -/
theorem holds_of_div {v : ℚ} {n : Nat} (hlt : |v| < maxMantissa + 1)
    (h : Holds (v / 10 ^ n)) : Holds v := by
  obtain ⟨d, hd⟩ := h
  have hv : v = (⟨d.mantissa * 10 ^ (n - d.scale), d.scale - n⟩ : Magnitude).value d.negative :=
    calc
      v = d.value * 10 ^ n := by rw [hd, div_mul_cancel₀ v (by positivity)]
      _ = _ := d.magnitude.value_mul d.negative n
  have hle : d.mantissa * 10 ^ (n - d.scale) ≤ maxMantissa := by
    by_cases hn : n ≤ d.scale
    · rw [Nat.sub_eq_zero_of_le hn, pow_zero, Nat.mul_one]
      exact d.mantissa_le
    · -- The number is whole, so its size alone bounds the mantissa.
      have hzero : d.scale - n = 0 := Nat.sub_eq_zero_of_le (Nat.le_of_not_le hn)
      rw [hv, Magnitude.abs_value] at hlt
      simp only [hzero, pow_zero, div_one] at hlt
      exact Nat.le_of_lt_succ (by exact_mod_cast hlt)
  exact ⟨⟨d.negative, _, d.scale - n, hle, (Nat.sub_le _ _).trans d.scale_le⟩, hv.symm⟩

end Decimal

/-! ### Notation -/

/-- A number as it is written. -/
structure Written where
  negative : Bool
  /-- All digits in front of the exponent, and how many of them stand behind the point. -/
  magnitude : Decimal.Magnitude
  exponent : Int
deriving DecidableEq, Repr

namespace Written

/-- The number in front of the exponent. -/
def base (w : Written) : ℚ :=
  w.magnitude.value w.negative

def value (w : Written) : ℚ :=
  w.base * 10 ^ w.exponent

def digitsIn (cs : List Char) : List Char :=
  cs.filter Char.isDigit

/-- The text from its first point on. -/
def fromPoint (cs : List Char) : List Char :=
  cs.dropWhile fun c => c ≠ '.'

/-- Digits, separators and at most one point; apart from the point a digit comes first. -/
def isPlain (cs : List Char) : Bool :=
  cs.all (fun c => c.isDigit || c = '_' || c = '.') && cs.count '.' ≤ 1 &&
    (cs.filter fun c => c ≠ '.').head?.any Char.isDigit

def splitSign : List Char → Bool × List Char
  | '-' :: cs => (true, cs)
  | '+' :: cs => (false, cs)
  | cs => (false, cs)

/-- All digits of a plain number without a sign. -/
def plainMagnitude (cs : List Char) : Decimal.Magnitude :=
  ⟨Text.valueOfDigits (digitsIn cs), (digitsIn (fromPoint cs)).length⟩

def ofPlain? (cs : List Char) : Option Written :=
  let (negative, cs) := splitSign cs
  if isPlain cs then some ⟨negative, plainMagnitude cs, 0⟩ else none

/-- Digits with an optional plus sign. -/
def unsigned? (cs : List Char) : Option Nat :=
  Text.numeral? <| match cs with
    | '+' :: rest => rest
    | _ => cs

def exponent? : List Char → Option Int
  | '-' :: cs => (unsigned? cs).map fun n => -(n : Int)
  | cs => (unsigned? cs).map fun n => (n : Int)

/-- The number that a text denotes, plain or scientific. -/
def ofChars? (cs : List Char) : Option Written :=
  match cs.dropWhile (fun c => !Decimal.isExponentMark c) with
  | [] => ofPlain? cs
  | _ :: exponent =>
    match ofPlain? (cs.takeWhile fun c => !Decimal.isExponentMark c), exponent? exponent with
    | some base, some exponent => some { base with exponent }
    | _, _ => none

example : ofChars? "-1_2.50E+3".toList = some ⟨true, ⟨1250, 2⟩, 3⟩ := by decide

end Written

/-! ## The plain reading -/

namespace Written

theorem digitsIn_cons_of_isDigit {c : Char} (h : c.isDigit = true) (cs : List Char) :
    digitsIn (c :: cs) = c :: digitsIn cs :=
  List.filter_cons_of_pos h

theorem digitsIn_point (cs : List Char) : digitsIn ('.' :: cs) = digitsIn cs :=
  List.filter_cons_of_neg (by decide)

theorem digitsIn_separator (cs : List Char) : digitsIn ('_' :: cs) = digitsIn cs :=
  List.filter_cons_of_neg (by decide)

theorem digitsIn_dropWhile_separator (cs : List Char) :
    digitsIn (cs.dropWhile (· = '_')) = digitsIn cs := by
  induction cs with
  | nil => rfl
  | cons c cs ih =>
      by_cases hc : c = '_'
      · subst hc
        rw [List.dropWhile_cons_of_pos (by simp), ih, digitsIn_separator]
      · rw [List.dropWhile_cons_of_neg (by simpa using hc)]

theorem valueOfDigits_digitsIn_lt (cs : List Char) :
    Text.valueOfDigits (digitsIn cs) < 10 ^ (digitsIn cs).length :=
  Text.valueOfDigits_lt fun _ hc => (List.mem_filter.mp hc).2

theorem fromPoint_cons_of_ne {c : Char} (h : c ≠ '.') (cs : List Char) :
    fromPoint (c :: cs) = fromPoint cs :=
  List.dropWhile_cons_of_pos (decide_eq_true h)

theorem fromPoint_point (cs : List Char) : fromPoint ('.' :: cs) = '.' :: cs :=
  List.dropWhile_cons_of_neg (by simp)

theorem ne_point_of_isDigit {c : Char} (h : c.isDigit = true) : c ≠ '.' := by
  rintro rfl
  exact absurd h (by decide)

end Written

namespace Decimal

open Written

/-! ### The end of the room -/

theorem checkTail_eq_ok {cs : List Char} (h : checkTail cs = .ok ()) :
    ∀ c ∈ cs, c.isDigit = true ∨ c = '_' := by
  induction cs with
  | nil => exact fun c hc => nomatch hc
  | cons first cs ih =>
      rw [checkTail] at h
      split at h
      case isTrue hfirst =>
        intro c hc
        rcases List.mem_cons.mp hc with rfl | hc
        · simpa using hfirst
        · exact ih h c hc
      case isFalse => split at h <;> cases h

/-- Where all digits that are left are zeros, so is the one that decides the rounding. -/
theorem roundingDigit_eq_zero {c : Char} {cs : List Char} (hc : c.isDigit = true ∨ c = '_')
    (hzero : Text.valueOfDigits (digitsIn (c :: cs)) = 0) :
    (if c = '_' then 0 else Text.digitValue c) = 0 := by
  split
  case isTrue => rfl
  case isFalse hne =>
    rw [digitsIn_cons_of_isDigit (hc.resolve_right hne), Text.valueOfDigits_cons] at hzero
    have hpos : 0 < 10 ^ (digitsIn cs).length := by positivity
    exact (Nat.mul_eq_zero.mp (Nat.add_eq_zero_iff.mp hzero).1).resolve_right hpos.ne'

/-- Rounding changes nothing if all digits that are left are zeros. -/
theorem roundAt_eq_ok {mantissa scale : Nat} {cs : List Char} {m : Magnitude}
    (h : roundAt mantissa scale cs = .ok m) :
    (∀ c ∈ cs, c.isDigit = true ∨ c = '_') ∧
      (Text.valueOfDigits (digitsIn cs) = 0 → m = ⟨mantissa, scale⟩) := by
  cases cs with
  | nil =>
      rw [roundAt] at h
      exact ⟨fun c hc => (nomatch hc), fun _ => (Except.ok.inj h).symm⟩
  | cons c cs =>
      rw [roundAt] at h
      obtain ⟨done, hcheck, h⟩ := bind_eq_ok h
      have htail := checkTail_eq_ok hcheck
      refine ⟨htail, fun hzero => ?_⟩
      have hdigit := roundingDigit_eq_zero (htail c List.mem_cons_self) hzero
      have hround : roundUp mantissa scale 0 = .ok m := hdigit ▸ h
      exact (Except.ok.inj hround).symm

theorem roundAt_dropWhile_eq_ok {mantissa scale : Nat} {cs : List Char} {m : Magnitude}
    (h : roundAt mantissa scale (cs.dropWhile (· = '_')) = .ok m) :
    (∀ c ∈ cs, c.isDigit = true ∨ c = '_') ∧
      (Text.valueOfDigits (digitsIn cs) = 0 → m = ⟨mantissa, scale⟩) := by
  obtain ⟨htail, hzero⟩ := roundAt_eq_ok h
  rw [digitsIn_dropWhile_separator] at hzero
  refine ⟨fun c hc => ?_, hzero⟩
  rw [← List.takeWhile_append_dropWhile (p := (· = '_')) (l := cs)] at hc
  rcases List.mem_append.mp hc with hc | hc
  · exact Or.inr (by simpa using List.mem_takeWhile_imp hc)
  · exact htail c hc

/-- Digits left where the decimals are used up, or where the next one would make the mantissa too
large, are zeros if the number fits a decimal all the same. -/
theorem eq_zero_of_fits {mantissa scale places rest : Nat} (hrest : rest < 10 ^ places)
    (hfull : scale = maxScale ∨
      maxMantissa * 10 ^ places < 10 * (mantissa * 10 ^ places + rest))
    (hfits : (⟨mantissa * 10 ^ places + rest, scale + places⟩ : Magnitude).Fits) : rest = 0 := by
  obtain ⟨⟨mantissa', scale'⟩, hmantissa', hscale', hsame⟩ := hfits
  by_cases hle : scale' ≤ scale
  · have hdvd : 10 ^ places ∣ mantissa * 10 ^ places + rest := hsame.pow_dvd hle
    exact Nat.eq_zero_of_dvd_of_lt ((Nat.dvd_add_right (Nat.dvd_mul_left _ _)).mp hdvd) hrest
  · -- More decimals than were kept: the mantissa would be too large.
    simp only [Magnitude.Same] at hmantissa' hscale' hsame
    have hlarge := hfull.resolve_left (by omega)
    have hpow : 10 ^ scale' = 10 ^ (scale' - scale - 1) * 10 * 10 ^ scale := by
      rw [← pow_succ, ← pow_add]
      congr 1
      omega
    have hmul : mantissa' * 10 ^ places =
        (mantissa * 10 ^ places + rest) * (10 ^ (scale' - scale - 1) * 10) := by
      rw [hpow, pow_add, ← Nat.mul_assoc, ← Nat.mul_assoc, Nat.mul_right_comm] at hsame
      exact Nat.eq_of_mul_eq_mul_right (by positivity) hsame
    have hone : 1 ≤ 10 ^ (scale' - scale - 1) := Nat.one_le_pow _ _ (by decide)
    have hcontra : maxMantissa * 10 ^ places < maxMantissa * 10 ^ places :=
      calc
        maxMantissa * 10 ^ places < (mantissa * 10 ^ places + rest) * (1 * 10) := by omega
        _ ≤ (mantissa * 10 ^ places + rest) * (10 ^ (scale' - scale - 1) * 10) :=
          Nat.mul_le_mul_left _ (Nat.mul_le_mul_right _ hone)
        _ = mantissa' * 10 ^ places := hmul.symm
        _ ≤ maxMantissa * 10 ^ places := Nat.mul_le_mul_right _ hmantissa'
    exact absurd hcontra (lt_irrefl _)

/-! ### The steps of the plain reading -/

/-- The digit is taken in. -/
def Progress.take (p : Progress) (c : Char) : Progress :=
  ⟨p.pointSeen, true, 10 * p.mantissa + Text.digitValue c, if p.pointSeen then p.scale + 1 else 0⟩

def Progress.passPoint (p : Progress) : Progress :=
  { p with pointSeen := true }

/-- There is no room for a further digit. -/
def Progress.Full (p : Progress) (cs : List Char) : Prop :=
  (p.digitSeen = true ∧ p.scale = maxScale) ∨
    ∃ c rest, cs = c :: rest ∧ c.isDigit = true ∧ maxMantissa < 10 * p.mantissa + Text.digitValue c

/-- What the plain reading does with the text that is left. -/
inductive Reads : Progress → List Char → Magnitude → Prop
  | finish {p : Progress} (hdigit : p.digitSeen = true) : Reads p [] ⟨p.mantissa, p.scale⟩
  | digit {p : Progress} {c : Char} {cs : List Char} {m : Magnitude} (hc : c.isDigit = true)
      (hmantissa : (p.take c).mantissa ≤ maxMantissa) (hscale : (p.take c).scale ≤ maxScale)
      (hrest : Reads (p.take c) cs m) : Reads p (c :: cs) m
  | point {p : Progress} {cs : List Char} {m : Magnitude} (hpoint : p.pointSeen = false)
      (hrest : Reads p.passPoint cs m) : Reads p ('.' :: cs) m
  | separator {p : Progress} {cs : List Char} {m : Magnitude} (hdigit : p.digitSeen = true)
      (hrest : Reads p cs m) : Reads p ('_' :: cs) m
  | round {p : Progress} {cs : List Char} {m : Magnitude} (hpoint : p.pointSeen = true)
      (hfull : p.Full cs) (htail : ∀ c ∈ cs, c.isDigit = true ∨ c = '_')
      (hzero : Text.valueOfDigits (digitsIn cs) = 0 → m = ⟨p.mantissa, p.scale⟩) : Reads p cs m

variable {p : Progress} {cs : List Char} {m : Magnitude}

theorem readPlain_digit (p : Progress) {c : Char} (hc : c.isDigit = true) (cs : List Char) :
    readPlain p (c :: cs) =
      if maxMantissa < (p.take c).mantissa then
        if p.pointSeen then roundAt p.mantissa p.scale (c :: cs) else .error .tooManyDigits
      else if (p.take c).scale = maxScale then
        if p.mantissa < separatorLimit then roundAt (p.take c).mantissa (p.take c).scale cs
        else roundAt (p.take c).mantissa (p.take c).scale (cs.dropWhile (· = '_'))
      else readPlain (p.take c) cs := by
  rw [readPlain, Text.digit?, if_pos hc]
  rfl

theorem reads_of_readPlain (hscale : p.scale < maxScale) (h : readPlain p cs = .ok m) :
    Reads p cs m := by
  induction cs generalizing p with
  | nil =>
      rw [readPlain] at h
      split at h
      case isTrue hdigit =>
        obtain rfl := Except.ok.inj h
        exact .finish hdigit
      case isFalse => cases h
  | cons c cs ih =>
      by_cases hc : c.isDigit = true
      · rw [readPlain_digit p hc] at h
        split at h
        case isTrue hlarge =>
          split at h
          case isTrue hpoint =>
            obtain ⟨htail, hzero⟩ := roundAt_eq_ok h
            exact .round hpoint (Or.inr ⟨c, cs, rfl, hc, hlarge⟩) htail hzero
          case isFalse => cases h
        case isFalse hlarge =>
          have hmantissa : (p.take c).mantissa ≤ maxMantissa := Nat.le_of_not_lt hlarge
          split at h
          case isTrue hlast =>
            have hpoint : p.pointSeen = true := by
              by_contra hno
              simp [Progress.take, hno, maxScale] at hlast
            have hround : (∀ c ∈ cs, c.isDigit = true ∨ c = '_') ∧
                (Text.valueOfDigits (digitsIn cs) = 0 →
                  m = ⟨(p.take c).mantissa, (p.take c).scale⟩) := by
              split at h
              case isTrue => exact roundAt_eq_ok h
              case isFalse => exact roundAt_dropWhile_eq_ok h
            exact .digit hc hmantissa hlast.le
              (.round hpoint (Or.inl ⟨rfl, hlast⟩) hround.1 hround.2)
          case isFalse hlast =>
            have hnext : (p.take c).scale < maxScale := by
              have hle : (p.take c).scale ≤ p.scale + 1 := by
                simp only [Progress.take]
                split <;> omega
              omega
            exact .digit hc hmantissa hnext.le (ih hnext h)
      · rw [readPlain, Text.digit?, if_neg hc] at h
        dsimp only at h
        split at h
        case isTrue hdot =>
          subst hdot
          split at h
          case isTrue => cases h
          case isFalse hpoint =>
            exact .point (by simpa using hpoint) (ih (p := p.passPoint) hscale h)
        case isFalse =>
          split at h
          case isTrue hseparator =>
            subst hseparator
            split at h
            case isTrue hdigit => exact .separator hdigit (ih hscale h)
            case isFalse => cases h
          case isFalse => cases h

/-! ### Notation of what is read -/

theorem Reads.characters (h : Reads p cs m) :
    ∀ c ∈ cs, c.isDigit = true ∨ c = '_' ∨ c = '.' := by
  induction h with
  | finish => exact fun c hc => nomatch hc
  | digit hc _ _ _ ih => exact List.forall_mem_cons.mpr ⟨Or.inl hc, ih⟩
  | point _ _ ih => exact List.forall_mem_cons.mpr ⟨Or.inr (Or.inr rfl), ih⟩
  | separator _ _ ih => exact List.forall_mem_cons.mpr ⟨Or.inr (Or.inl rfl), ih⟩
  | round _ _ htail _ => exact fun c hc => (htail c hc).imp_right Or.inl

theorem Reads.points (h : Reads p cs m) : cs.count '.' ≤ if p.pointSeen then 0 else 1 := by
  induction h with
  | finish => simp
  | digit hc _ _ _ ih =>
      rw [List.count_cons_of_ne (ne_point_of_isDigit hc)]
      exact ih
  | point hpoint _ ih =>
      rw [List.count_cons_self, hpoint]
      exact Nat.succ_le_succ ih
  | separator _ _ ih =>
      rw [List.count_cons_of_ne (by decide)]
      exact ih
  | round _ _ htail _ =>
      have hnone : '.' ∉ _ := fun hmem => absurd (htail '.' hmem) (by decide)
      rw [List.count_eq_zero.mpr hnone]
      exact Nat.zero_le _

theorem any_head?_of_isDigit {c : Char} (hc : c.isDigit = true) (cs : List Char) :
    ((c :: cs).filter fun c => c ≠ '.').head?.any Char.isDigit = true := by
  rw [List.filter_cons_of_pos (by simpa using ne_point_of_isDigit hc)]
  exact hc

theorem Reads.first (h : Reads p cs m) (hdigit : p.digitSeen = false) :
    (cs.filter fun c => c ≠ '.').head?.any Char.isDigit = true := by
  induction h with
  | finish hseen => exact absurd hseen (by simp [hdigit])
  | digit hc => exact any_head?_of_isDigit hc _
  | point _ _ ih =>
      rw [List.filter_cons_of_neg (by simp)]
      exact ih hdigit
  | separator hseen => exact absurd hseen (by simp [hdigit])
  | round _ hfull =>
      rcases hfull with ⟨hseen, -⟩ | ⟨c, rest, rfl, hc, -⟩
      · exact absurd hseen (by simp [hdigit])
      · exact any_head?_of_isDigit hc rest

theorem Reads.isPlain (h : Reads p cs m) (hpoint : p.pointSeen = false)
    (hdigit : p.digitSeen = false) : isPlain cs = true := by
  have hpoints := h.points
  rw [hpoint] at hpoints
  simp only [Written.isPlain, Bool.and_eq_true, List.all_eq_true, Bool.or_eq_true,
    decide_eq_true_eq, or_assoc]
  exact ⟨⟨h.characters, hpoints⟩, h.first hdigit⟩

/-! ### Exactness -/

/-- What has been taken in, and all digits that are left. -/
def Progress.written (p : Progress) (cs : List Char) : Magnitude :=
  ⟨p.mantissa * 10 ^ (digitsIn cs).length + Text.valueOfDigits (digitsIn cs),
    if p.pointSeen then p.scale + (digitsIn cs).length else (digitsIn (fromPoint cs)).length⟩

/-- What has been taken in is within the bounds of a decimal. -/
structure Progress.Sound (p : Progress) : Prop where
  mantissa_le : p.mantissa ≤ maxMantissa
  scale_le : p.scale ≤ maxScale
  /-- Decimals come behind the point. -/
  scale_eq_zero : p.pointSeen = false → p.scale = 0

theorem Progress.Sound.take {c : Char}
    (hmantissa : (p.take c).mantissa ≤ maxMantissa) (hscale : (p.take c).scale ≤ maxScale) :
    (p.take c).Sound where
  mantissa_le := hmantissa
  scale_le := hscale
  scale_eq_zero hpoint := by
    have hpoint' : p.pointSeen = false := hpoint
    simp [Progress.take, hpoint']

theorem Progress.Sound.passPoint (h : p.Sound) : p.passPoint.Sound :=
  ⟨h.mantissa_le, h.scale_le, fun hpoint => by simp [Progress.passPoint] at hpoint⟩

theorem Progress.written_nil (h : p.Sound) : p.written [] = ⟨p.mantissa, p.scale⟩ := by
  cases hpoint : p.pointSeen with
  | false => simp [Progress.written, digitsIn, fromPoint, Text.valueOfDigits, hpoint,
      h.scale_eq_zero hpoint]
  | true => simp [Progress.written, digitsIn, Text.valueOfDigits, hpoint]

theorem Progress.written_take (p : Progress) {c : Char} (hc : c.isDigit = true) (cs : List Char) :
    (p.take c).written cs = p.written (c :: cs) := by
  have hmantissa : (10 * p.mantissa + Text.digitValue c) * 10 ^ (digitsIn cs).length +
      Text.valueOfDigits (digitsIn cs) =
        p.mantissa * 10 ^ ((digitsIn cs).length + 1) +
          (Text.digitValue c * 10 ^ (digitsIn cs).length + Text.valueOfDigits (digitsIn cs)) := by
    ring
  rw [Progress.written, Progress.written, digitsIn_cons_of_isDigit hc, Text.valueOfDigits_cons,
    List.length_cons, fromPoint_cons_of_ne (ne_point_of_isDigit hc), ← hmantissa]
  cases hpoint : p.pointSeen with
  | false => simp [Progress.take, hpoint]
  | true => simp [Progress.take, hpoint, Nat.add_assoc, Nat.add_comm 1]

theorem Progress.written_passPoint (h : p.Sound) (hpoint : p.pointSeen = false)
    (cs : List Char) : p.passPoint.written cs = p.written ('.' :: cs) := by
  simp [Progress.written, Progress.passPoint, digitsIn_point, fromPoint_point, hpoint,
    h.scale_eq_zero hpoint]

theorem Progress.written_separator (p : Progress) (cs : List Char) :
    p.written ('_' :: cs) = p.written cs := by
  rw [Progress.written, Progress.written, digitsIn_separator, fromPoint_cons_of_ne (by decide)]

/-- Where there is no more room, the digits that are left are zeros or the number does not fit. -/
theorem Progress.Full.eq_zero (h : p.Full cs) (hpoint : p.pointSeen = true)
    (hfits : (p.written cs).Fits) : Text.valueOfDigits (digitsIn cs) = 0 := by
  rw [Progress.written, if_pos hpoint] at hfits
  refine eq_zero_of_fits (valueOfDigits_digitsIn_lt cs) (h.imp And.right ?_) hfits
  rintro ⟨c, rest, rfl, hc, hlarge⟩
  rw [digitsIn_cons_of_isDigit hc, Text.valueOfDigits_cons, List.length_cons]
  calc
    maxMantissa * 10 ^ ((digitsIn rest).length + 1)
        < (10 * p.mantissa + Text.digitValue c) * 10 ^ ((digitsIn rest).length + 1) :=
      Nat.mul_lt_mul_of_pos_right hlarge (by positivity)
    _ ≤ 10 * (p.mantissa * 10 ^ ((digitsIn rest).length + 1) +
          (Text.digitValue c * 10 ^ (digitsIn rest).length +
            Text.valueOfDigits (digitsIn rest))) := by
      rw [pow_succ]
      linarith [Nat.zero_le (Text.valueOfDigits (digitsIn rest))]

theorem Reads.same (h : Reads p cs m) (hp : p.Sound) (hfits : (p.written cs).Fits) :
    m.Same (p.written cs) := by
  induction h with
  | finish =>
      rw [Progress.written_nil hp]
      rfl
  | digit hc hmantissa hscale _ ih =>
      rw [← Progress.written_take _ hc] at hfits ⊢
      exact ih (.take hmantissa hscale) hfits
  | point hpoint _ ih =>
      rw [← Progress.written_passPoint hp hpoint] at hfits ⊢
      exact ih hp.passPoint hfits
  | separator _ _ ih =>
      rw [Progress.written_separator] at hfits ⊢
      exact ih hp hfits
  | @round p cs m hpoint hfull _ hzero =>
      have hrest := hfull.eq_zero hpoint hfits
      rw [hzero hrest, Progress.written, if_pos hpoint, hrest, Nat.add_zero, Magnitude.Same,
        pow_add]
      ring

theorem Reads.written_lt (h : Reads p cs m) (hp : p.Sound) :
    (p.written cs).mantissa < (maxMantissa + 1) * 10 ^ (p.written cs).scale := by
  induction h with
  | @finish p =>
      rw [Progress.written_nil hp]
      calc
        p.mantissa < (maxMantissa + 1) * 1 := by have := hp.mantissa_le; omega
        _ ≤ (maxMantissa + 1) * 10 ^ p.scale :=
          Nat.mul_le_mul_left _ (Nat.one_le_pow _ _ (by decide))
  | digit hc hmantissa hscale _ ih =>
      rw [← Progress.written_take _ hc]
      exact ih (.take hmantissa hscale)
  | point hpoint _ ih =>
      rw [← Progress.written_passPoint hp hpoint]
      exact ih hp.passPoint
  | separator _ _ ih =>
      rw [Progress.written_separator]
      exact ih hp
  | @round p cs m hpoint _ _ _ =>
      rw [Progress.written, if_pos hpoint]
      calc
        p.mantissa * 10 ^ (digitsIn cs).length + Text.valueOfDigits (digitsIn cs)
            < p.mantissa * 10 ^ (digitsIn cs).length + 10 ^ (digitsIn cs).length :=
          Nat.add_lt_add_left (valueOfDigits_digitsIn_lt cs) _
        _ = (p.mantissa + 1) * 10 ^ (digitsIn cs).length := by ring
        _ ≤ (maxMantissa + 1) * 10 ^ (p.scale + (digitsIn cs).length) :=
          Nat.mul_le_mul (Nat.succ_le_succ hp.mantissa_le)
            (Nat.pow_le_pow_right (by decide) (Nat.le_add_left _ _))

/-! ### Plain numbers -/

theorem signed_eq_ok {negative : Bool} {m : Magnitude} {d : Decimal}
    (h : m.signed negative = .ok d) : d.negative = negative ∧ d.magnitude = m := by
  rw [Magnitude.signed, ofParts?] at h
  split at h
  case h_1 found hfound =>
    split at hfound
    case isTrue hparts =>
      obtain rfl := Except.ok.inj h
      obtain rfl := Option.some.inj hfound
      exact ⟨rfl, rfl⟩
    case isFalse => cases hfound
  case h_2 => cases h

/-- The sign in front is taken off, and the rest is read from the start. -/
theorem ofPlain_eq (cs : List Char) (hne : cs ≠ []) :
    ofPlain cs =
      readPlain ⟨false, false, 0, 0⟩ (splitSign cs).2 >>= Magnitude.signed (splitSign cs).1 := by
  rw [ofPlain.eq_def, splitSign.eq_def]
  split
  case h_1 => exact absurd rfl hne
  case h_2 => rfl
  case h_3 => rfl
  case h_4 => split <;> simp_all

/-- **Plain reading.** A text that is read plainly denotes a plain number; the whole part of this
number is not too large for a decimal, and the reading is exact if and only if some decimal is. -/
theorem ofPlain_eq_ok {cs : List Char} {d : Decimal} (h : ofPlain cs = .ok d) :
    ∃ w, Written.ofPlain? cs = some w ∧ w.exponent = 0 ∧ |w.base| < maxMantissa + 1 ∧
      (d.value = w.base ↔ Holds w.base) := by
  have hne : cs ≠ [] := by
    rintro rfl
    cases h
  rw [ofPlain_eq cs hne] at h
  obtain ⟨m, hread, h⟩ := bind_eq_ok h
  obtain ⟨hnegative, hmagnitude⟩ := signed_eq_ok h
  have hreads := reads_of_readPlain (by decide) hread
  have hsound : Progress.Sound ⟨false, false, 0, 0⟩ :=
    ⟨Nat.zero_le _, Nat.zero_le _, fun _ => rfl⟩
  have hwritten : Progress.written ⟨false, false, 0, 0⟩ (splitSign cs).2 =
      plainMagnitude (splitSign cs).2 := by
    simp [Progress.written, plainMagnitude]
  have hlt := hreads.written_lt hsound
  have hsame := hreads.same hsound
  rw [hwritten] at hlt hsame
  refine ⟨⟨(splitSign cs).1, plainMagnitude (splitSign cs).2, 0⟩, ?plain, rfl, ?bound,
    ?exact⟩
  case plain => exact if_pos (hreads.isPlain rfl rfl)
  case bound =>
    rw [Written.base, Magnitude.abs_value, div_lt_iff₀ (by positivity)]
    exact_mod_cast hlt
  case exact =>
    constructor
    · exact fun hexact => ⟨d, hexact⟩
    · intro hholds
      rw [value, hnegative, hmagnitude]
      exact (hsame ((holds_iff_fits _ _).mp hholds)).value_eq _

end Decimal

end Arrears
