import Arrears.Json.Record
import Arrears.Proofs.Json.Reading
import Arrears.Proofs.Money.Text
import Arrears.Proofs.Text.Words

/-!
# Amounts in writing

An amount may be written with blanks around it, with any number of zeros in front and of decimals,
and without digits on one side of the point.  One of its writings is canonical: a minus sign exactly
when it is less than zero, a whole part without superfluous zeros, a point and two digits.
-/

namespace Arrears

/-! ## Every plain writing is accepted -/

/-- What may stand in front of the digits of a number. -/
inductive Sign
  | absent
  | plus
  | minus
deriving DecidableEq, Repr

namespace Sign

def chars : Sign → List Char
  | absent => []
  | plus => ['+']
  | minus => ['-']

def isMinus (sign : Sign) : Bool :=
  sign = minus

end Sign

/-- A plain writing of a number: a sign or none, digits, and at most one point, between blanks. -/
structure Writing where
  front : List Char
  sign : Sign
  /-- The digits in front of the point. -/
  whole : List Char
  /-- The digits behind the point, if there is a point. -/
  fraction : Option (List Char)
  back : List Char
  front_blank : ∀ c ∈ front, Text.isBlank c = true
  whole_digits : ∀ c ∈ whole, c.isDigit = true
  fraction_digits : ∀ c ∈ fraction.getD [], c.isDigit = true
  /-- There is a digit on one side of the point at least. -/
  digits_ne_nil : whole ++ fraction.getD [] ≠ []
  back_blank : ∀ c ∈ back, Text.isBlank c = true

namespace Writing

open Decimal Written

/-- The digits behind the point. -/
def decimals (w : Writing) : List Char :=
  w.fraction.getD []

/-- The digits with their point. -/
def number (w : Writing) : List Char :=
  match w.fraction with
  | none => w.whole
  | some decimals => w.whole ++ '.' :: decimals

def text (w : Writing) : String :=
  String.ofList (w.front ++ (w.sign.chars ++ w.number) ++ w.back)

/-- The number that is written: all digits, divided by ten for each that stands behind the point. -/
def value (w : Writing) : ℚ :=
  withSign w.sign.isMinus (Text.valueOfDigits (w.whole ++ w.decimals)) / 10 ^ w.decimals.length

variable (w : Writing)

/-! ### The number without its blanks -/

theorem mem_number {c : Char} (hc : c ∈ w.number) : c.isDigit = true ∨ c = '.' := by
  rw [number] at hc
  split at hc
  case h_1 => exact Or.inl (w.whole_digits c hc)
  case h_2 decimals hfraction =>
    rcases List.mem_append.mp hc with hwhole | hrest
    · exact Or.inl (w.whole_digits c hwhole)
    · rcases List.mem_cons.mp hrest with rfl | hdecimal
      · exact Or.inr rfl
      · exact Or.inl (w.fraction_digits c (by rwa [hfraction]))

theorem mem_sign {c : Char} {sign : Sign} (hc : c ∈ sign.chars) : c = '+' ∨ c = '-' := by
  cases sign <;> simp [Sign.chars] at hc <;> simp [hc]

theorem not_isBlank {c : Char} (hc : c ∈ w.sign.chars ++ w.number) : Text.isBlank c = false := by
  rcases List.mem_append.mp hc with hsign | hnumber
  · rcases mem_sign hsign with rfl | rfl <;> rfl
  · rcases w.mem_number hnumber with hdigit | rfl
    · exact Text.isBlank_of_isDigit hdigit
    · rfl

theorem trimmed_text : Text.trimmed w.text.toList = w.sign.chars ++ w.number := by
  rw [text, String.toList_ofList]
  exact Text.trimmed_blanks w.front_blank (Text.isTrimmed_of_forall fun _ => w.not_isBlank)
    w.back_blank

/-! ### The number as the reader sees it -/

theorem splitSign_chars : splitSign (w.sign.chars ++ w.number) = (w.sign.isMinus, w.number) := by
  cases hsign : w.sign with
  | plus => rfl
  | minus => rfl
  | absent =>
      rw [Sign.chars, List.nil_append, splitSign.eq_def]
      split
      case h_1 cs hnumber =>
        have hmem : '-' ∈ w.number := by rw [hnumber]; exact List.mem_cons_self
        exact absurd (w.mem_number hmem) (by decide)
      case h_2 cs hnumber =>
        have hmem : '+' ∈ w.number := by rw [hnumber]; exact List.mem_cons_self
        exact absurd (w.mem_number hmem) (by decide)
      case h_3 => rfl

theorem digitsIn_of_forall {cs : List Char} (h : ∀ c ∈ cs, c.isDigit = true) :
    digitsIn cs = cs :=
  List.filter_eq_self.mpr h

theorem digitsIn_number : digitsIn w.number = w.whole ++ w.decimals := by
  have hwhole := digitsIn_of_forall w.whole_digits
  have hdecimals := digitsIn_of_forall w.fraction_digits
  rw [number, decimals]
  cases hfraction : w.fraction with
  | none => simpa using hwhole
  | some decimals =>
      rw [hfraction] at hdecimals
      have hpoint : digitsIn (w.whole ++ '.' :: decimals) =
          digitsIn w.whole ++ digitsIn ('.' :: decimals) := List.filter_append _ _
      rw [hpoint, digitsIn_point, hwhole, Option.getD_some]
      exact congrArg _ hdecimals

theorem digitsIn_fromPoint_number : digitsIn (fromPoint w.number) = w.decimals := by
  have hdecimals := digitsIn_of_forall w.fraction_digits
  have hwhole : ∀ c ∈ w.whole, (c ≠ '.' : Bool) = true := fun c hc =>
    decide_eq_true (ne_point_of_isDigit (w.whole_digits c hc))
  rw [number, decimals, fromPoint]
  cases hfraction : w.fraction with
  | none =>
      have hnone : w.whole.dropWhile (fun c => c ≠ '.') = [] :=
        List.dropWhile_eq_nil_iff.mpr hwhole
      rw [hnone]
      rfl
  | some decimals =>
      rw [hfraction] at hdecimals
      have hpoint : (w.whole ++ '.' :: decimals).dropWhile (fun c => c ≠ '.') =
          '.' :: decimals := by
        rw [List.dropWhile_append_of_pos hwhole]
        exact fromPoint_point decimals
      rw [hpoint, digitsIn_point]
      exact hdecimals

theorem count_point_number : w.number.count '.' ≤ 1 := by
  have hnone {cs : List Char} (hcs : ∀ c ∈ cs, c.isDigit = true) : cs.count '.' = 0 :=
    List.count_eq_zero.mpr fun hmem => absurd (hcs '.' hmem) (by decide)
  have hdecimals := hnone w.fraction_digits
  rw [number]
  split
  case h_1 => rw [hnone w.whole_digits]; exact Nat.zero_le 1
  case h_2 decimals hfraction =>
    rw [hfraction, Option.getD_some] at hdecimals
    rw [List.count_append, List.count_cons_self, hnone w.whole_digits, hdecimals]

theorem isPlain_number : isPlain w.number = true := by
  have hfilter : (w.number.filter fun c => c ≠ '.') = digitsIn w.number := by
    refine List.filter_congr fun c hc => ?_
    rcases w.mem_number hc with hdigit | rfl
    · simp [hdigit, ne_point_of_isDigit hdigit]
    · decide
  have hfirst : (digitsIn w.number).head?.any Char.isDigit = true := by
    obtain ⟨c, cs, hdigits⟩ := List.exists_cons_of_ne_nil w.digits_ne_nil
    have hnumber : digitsIn w.number = c :: cs := w.digitsIn_number.trans hdigits
    have hmem : c ∈ digitsIn w.number := by rw [hnumber]; exact List.mem_cons_self
    rw [hnumber]
    exact (List.mem_filter.mp hmem).2
  simp only [Written.isPlain, hfilter, hfirst, Bool.and_true, Bool.and_eq_true, List.all_eq_true,
    Bool.or_eq_true, decide_eq_true_eq]
  refine ⟨fun c hc => ?_, w.count_point_number⟩
  rcases w.mem_number hc with hdigit | hpoint
  · exact Or.inl (Or.inl hdigit)
  · exact Or.inr hpoint

theorem ofPlain?_chars : Written.ofPlain? (w.sign.chars ++ w.number) =
    some ⟨w.sign.isMinus, ⟨Text.valueOfDigits (w.whole ++ w.decimals), w.decimals.length⟩, 0⟩ := by
  rw [Written.ofPlain?, splitSign_chars]
  simp only [isPlain_number, if_true, plainMagnitude, digitsIn_number, digitsIn_fromPoint_number]

end Writing

namespace Money

/-- **Every plain writing of an amount is accepted.**  However many zeros stand in front and however
many decimals behind, a text that writes a whole number of cents which fits its word is read as
this amount. -/
theorem ofText_writing (w : Writing) {m : Money} (h : w.value = m.minor / 100) :
    ofText w.text = .ok m := by
  have hholds : Decimal.Holds w.value := ⟨m.toDecimal, (value_toDecimal m).trans h.symm⟩
  obtain ⟨d, hread, hvalue⟩ := Decimal.ofChars_of_holds w.ofPlain?_chars hholds
  rw [ofText, w.trimmed_text, hread]
  exact ofDecimal_eq_ok_iff.mpr (hvalue.trans h)

/-- The least amount with forty zeros in front and thirty-two decimals, more than a decimal has. -/
def leastWriting : Writing where
  front := [' ', '\u00a0']
  sign := .minus
  whole := List.replicate 40 '0' ++ "92233720368547758".toList
  fraction := some ("08".toList ++ List.replicate 30 '0')
  back := ['\u2003', '\n']
  front_blank := List.all_eq_true.mp rfl
  whole_digits := List.all_eq_true.mp rfl
  fraction_digits := List.all_eq_true.mp rfl
  digits_ne_nil := List.append_ne_nil_of_right_ne_nil _ (List.cons_ne_nil '0' _)
  back_blank := List.all_eq_true.mp rfl

theorem ofText_writing_least :
    leastWriting.value = Word.least / 100 ∧
      ofText leastWriting.text = .ok ⟨Word.least, by decide⟩ := by
  have hdigits : Text.valueOfDigits (leastWriting.whole ++ leastWriting.decimals) =
      9223372036854775808 * 10 ^ 30 := by
    decide +kernel
  have hplaces : leastWriting.decimals.length = 32 := by decide
  have hvalue : leastWriting.value = Word.least / 100 := by
    rw [Writing.value, hdigits, hplaces]
    norm_num [leastWriting, Sign.isMinus, Decimal.withSign, Word.least]
  exact ⟨hvalue, ofText_writing leastWriting hvalue⟩

end Money

/-! ## The canonical text

The digits of a canonical writing denote the size of its number in cents, so the number determines
them, and it determines the sign.
-/

namespace Writing

open Decimal

/-- The writing has no blanks, no plus sign, a minus sign only for a number less than zero, no
superfluous zero in front, and two digits behind its point. -/
structure Canonical (w : Writing) : Prop where
  front_eq_nil : w.front = []
  back_eq_nil : w.back = []
  sign_ne_plus : w.sign ≠ .plus
  value_neg : w.sign = .minus → w.value < 0
  whole : Text.Shortest w.whole
  fraction : ∃ tens units, w.fraction = some [tens, units]

variable {v w : Writing}

/-- The size of a number with two decimals, in cents. -/
def cents (w : Writing) : Nat :=
  Text.valueOfDigits (w.whole ++ w.decimals)

theorem value_nonneg_of_ne_minus (h : w.sign ≠ .minus) : 0 ≤ w.value := by
  have hsign : w.sign.isMinus = false := by simpa [Sign.isMinus] using h
  rw [value, hsign, withSign, if_neg (by decide)]
  positivity

namespace Canonical

theorem value_eq (hw : w.Canonical) : w.value = withSign w.sign.isMinus w.cents / 100 := by
  obtain ⟨tens, units, hfraction⟩ := hw.fraction
  rw [value, cents, decimals, hfraction]
  norm_num

theorem sign_eq_minus_iff (hw : w.Canonical) : w.sign = .minus ↔ w.value < 0 := by
  refine ⟨hw.value_neg, fun hneg => ?_⟩
  by_contra hsign
  exact absurd (value_nonneg_of_ne_minus hsign) (not_le.mpr hneg)

theorem cents_eq (hv : v.Canonical) (hw : w.Canonical) (h : v.value = w.value) :
    v.cents = w.cents := by
  have habs := congrArg (fun x => |x|) h
  simp only [hv.value_eq, hw.value_eq, abs_div, abs_withSign] at habs
  have hcast : (v.cents : ℚ) = w.cents := by
    rwa [div_left_inj' (by norm_num)] at habs
  exact_mod_cast hcast

theorem cents_eq_add (hw : w.Canonical) :
    w.cents = Text.valueOfDigits w.whole * 100 + Text.valueOfDigits w.decimals ∧
      Text.valueOfDigits w.decimals < 100 := by
  obtain ⟨tens, units, hfraction⟩ := hw.fraction
  have hlength : w.decimals.length = 2 := by rw [decimals, hfraction]; rfl
  have hlt := Text.valueOfDigits_lt w.fraction_digits
  rw [cents, Text.valueOfDigits_append, hlength]
  rw [← decimals, hlength] at hlt
  exact ⟨rfl, hlt⟩

/-- **Canonical writings are unique.**  Two canonical writings of one number are the same text. -/
theorem text_eq (hv : v.Canonical) (hw : w.Canonical) (h : v.value = w.value) :
    v.text = w.text := by
  obtain ⟨hvcents, hvlt⟩ := hv.cents_eq_add
  obtain ⟨hwcents, hwlt⟩ := hw.cents_eq_add
  have hcents := hv.cents_eq hw h
  have hwhole : v.whole = w.whole := by
    rw [← Text.digits_valueOfDigits hv.whole, ← Text.digits_valueOfDigits hw.whole]
    congr 1
    omega
  have hfraction : v.fraction = w.fraction := by
    have hdecimals : Text.valueOfDigits v.decimals = Text.valueOfDigits w.decimals := by omega
    obtain ⟨tens, units, hv'⟩ := hv.fraction
    obtain ⟨tens', units', hw'⟩ := hw.fraction
    have hvdigits := v.fraction_digits
    have hwdigits := w.fraction_digits
    rw [decimals, decimals, hv', hw'] at hdecimals
    rw [hv'] at hvdigits
    rw [hw'] at hwdigits
    rw [hv', hw']
    exact congrArg some (Text.eq_of_valueOfDigits_eq rfl hvdigits hwdigits hdecimals)
  have hsign : v.sign = w.sign := by
    have hiff : v.sign = .minus ↔ w.sign = .minus := by
      rw [hv.sign_eq_minus_iff, hw.sign_eq_minus_iff, h]
    have hvplus := hv.sign_ne_plus
    have hwplus := hw.sign_ne_plus
    cases hvsign : v.sign <;> cases hwsign : w.sign <;> simp_all
  rw [text, text, number, number, hv.front_eq_nil, hw.front_eq_nil, hv.back_eq_nil, hw.back_eq_nil,
    hsign, hwhole, hfraction]

end Canonical
end Writing

namespace Money

open Decimal

/-- The canonical writing of an amount. -/
def writing (m : Money) : Writing where
  front := []
  sign := if m.isNegative then .minus else .absent
  whole := Text.digits (m.minor.natAbs / 100)
  fraction := some (Text.padded 2 (m.minor.natAbs % 100))
  back := []
  front_blank := by simp
  whole_digits := fun _ hc => Text.isDigit_of_mem_digits hc
  fraction_digits := fun _ hc => Text.isDigit_of_mem_padded hc
  digits_ne_nil := List.append_ne_nil_of_left_ne_nil (Text.digits_ne_nil _) _
  back_blank := by simp

theorem writing_text (m : Money) : m.writing.text = m.text := by
  have hmantissa : m.isNegative = true → m.minor.natAbs ≠ 0 := by
    simp only [isNegative, decide_eq_true_eq]
    omega
  rw [text, Decimal.text, Writing.text]
  congr 1
  cases hnegative : m.isNegative with
  | true =>
      simp [writing, toDecimal, hnegative, hmantissa hnegative, plainText, Writing.number,
        Sign.chars, Text.tenTo]
  | false =>
      simp [writing, toDecimal, hnegative, plainText, Writing.number, Sign.chars, Text.tenTo]

theorem writing_value (m : Money) : m.writing.value = m.minor / 100 := by
  have hlength : (Text.padded 2 (m.minor.natAbs % 100)).length = 2 :=
    Text.length_padded (by decide) (Nat.mod_lt _ (by decide))
  have hdigits : Text.valueOfDigits (m.writing.whole ++ m.writing.decimals) = m.minor.natAbs := by
    show Text.valueOfDigits (Text.digits _ ++ Text.padded 2 _) = _
    rw [Text.valueOfDigits_append, Text.valueOfDigits_digits, Text.valueOfDigits_padded, hlength]
    exact Nat.div_add_mod' m.minor.natAbs 100
  have hsign : m.writing.sign.isMinus = m.isNegative := by
    cases hnegative : m.isNegative <;> simp [writing, hnegative, Sign.isMinus]
  have hplaces : m.writing.decimals.length = 2 := hlength
  rw [Writing.value, hdigits, hsign, hplaces, withSign_isNegative]
  norm_num

theorem writing_sign_eq_minus_iff (m : Money) : m.writing.sign = .minus ↔ m.minor < 0 := by
  simp [writing, isNegative]

theorem writing_canonical (m : Money) : m.writing.Canonical where
  front_eq_nil := rfl
  back_eq_nil := rfl
  sign_ne_plus := by
    show (if m.isNegative then Sign.minus else Sign.absent) ≠ .plus
    split <;> decide
  value_neg := by
    rw [writing_sign_eq_minus_iff, writing_value]
    exact fun hminor => div_neg_of_neg_of_pos (by exact_mod_cast hminor) (by norm_num)
  whole := Text.shortest_digits _
  fraction := by
    have hlength : (Text.padded 2 (m.minor.natAbs % 100)).length = 2 :=
      Text.length_padded (by decide) (Nat.mod_lt _ (by decide))
    obtain ⟨tens, units, hpair⟩ := List.length_eq_two.mp hlength
    exact ⟨tens, units, congrArg some hpair⟩

theorem ofText_text (m : Money) : ofText m.text = .ok m := by
  rw [← writing_text]
  exact ofText_writing m.writing (writing_value m)

theorem text_inj {m m' : Money} : m.text = m'.text ↔ m = m' := by
  refine ⟨fun h => ?_, fun h => by rw [h]⟩
  have hread := ofText_text m
  rw [h, ofText_text] at hread
  exact (Except.ok.inj hread).symm

/-- **Amounts in writing.**  An amount is written canonically, with a minus sign exactly if it is
less than nothing, and no other canonical writing denotes it.  It is read back from this text, and
from the JSON text that it is written as.  Whatever text an amount has been read from, its own text
is read as the same amount, and amounts that differ are written differently. -/
theorem text_roundTrip (m : Money) :
    (∃ w : Writing, w.Canonical ∧ w.text = m.text ∧ w.value = m.minor / 100 ∧
        (w.sign = .minus ↔ m.minor < 0)) ∧
      (∀ w : Writing, w.Canonical → w.value = m.minor / 100 → w.text = m.text) ∧
      ofText m.text = .ok m ∧
      (∃ json, Json.ofText? (Json.ofMoney m).render = some json ∧ Json.toMoney json = .ok m) ∧
      ∀ s m', ofText s = .ok m' → ofText m'.text = ofText s ∧ (m'.text = m.text ↔ m' = m) := by
  refine ⟨⟨m.writing, m.writing_canonical, m.writing_text, m.writing_value,
    m.writing_sign_eq_minus_iff⟩, ?_, m.ofText_text, ?_, ?_⟩
  · intro w hw hvalue
    rw [← m.writing_text]
    exact hw.text_eq m.writing_canonical (hvalue.trans m.writing_value.symm)
  · have hread : Json.toMoney (.text m.text) = .ok m := by
      simp only [Json.toMoney, Json.toText, bind, Except.bind, m.ofText_text]
    exact ⟨.text m.text, Json.ofText?_render trivial, hread⟩
  · intro s m' hs
    exact ⟨by rw [hs, m'.ofText_text], text_inj⟩

/-- Seven cents of debt, read from a text that is not canonical. -/
theorem text_roundTrip_sevenCents :
    (⟨-7, by decide⟩ : Money).text = "-0.07" ∧
      ofText "\u00a0-000.0700" = .ok ⟨-7, by decide⟩ ∧ ofText "-0.07" = ofText "\u00a0-000.0700" ∧
      ("-0.07" = (⟨7, by decide⟩ : Money).text ↔ (⟨-7, by decide⟩ : Money) = ⟨7, by decide⟩) := by
  have htext : (⟨-7, by decide⟩ : Money).text = "-0.07" := by decide +kernel
  have hread : ofText "\u00a0-000.0700" = .ok ⟨-7, by decide⟩ := by decide +kernel
  have hround := (text_roundTrip ⟨7, by decide⟩).2.2.2.2 _ _ hread
  rw [htext] at hround
  exact ⟨htext, hread, hround⟩

end Money

end Arrears
