import Arrears.Proofs.Decimal.Reading

/-!
# What the readings of decimals accept

A plain number is refused for two reasons only: its whole part has too many digits, or its digits
are rounded up to more than a mantissa holds.  A scientific number is rounded once in front of its
exponent and perhaps once more behind it.
-/

namespace Arrears

/-! ## Plain numbers that fit a decimal

Where the decimals of such a number find no more room, all that are left are zeros.  The induction is
on the text that is left; `Progress.Admits` says that it can be the rest of a plain number.
-/

namespace Decimal

open Written

/-! ### The end of the room -/

theorem checkTail_of_forall {cs : List Char} (h : ∀ c ∈ cs, c.isDigit = true ∨ c = '_') :
    checkTail cs = .ok () := by
  induction cs with
  | nil => rfl
  | cons c cs ih =>
      obtain ⟨hc, hrest⟩ := List.forall_mem_cons.mp h
      rw [checkTail, if_pos (by simpa using hc), ih hrest]

theorem roundAt_of_eq_zero {cs : List Char} (htail : ∀ c ∈ cs, c.isDigit = true ∨ c = '_')
    (hzero : Text.valueOfDigits (digitsIn cs) = 0) (mantissa scale : Nat) :
    roundAt mantissa scale cs = .ok ⟨mantissa, scale⟩ := by
  cases cs with
  | nil => rfl
  | cons c cs =>
      rw [roundAt, checkTail_of_forall htail,
        roundingDigit_eq_zero (htail c List.mem_cons_self) hzero]
      rfl

theorem roundAt_dropWhile_of_eq_zero {cs : List Char}
    (htail : ∀ c ∈ cs, c.isDigit = true ∨ c = '_')
    (hzero : Text.valueOfDigits (digitsIn cs) = 0) (mantissa scale : Nat) :
    roundAt mantissa scale (cs.dropWhile (· = '_')) = .ok ⟨mantissa, scale⟩ := by
  refine roundAt_of_eq_zero (fun c hc => htail c ?_) ?_ mantissa scale
  · exact (List.dropWhile_suffix _).subset hc
  · rw [digitsIn_dropWhile_separator, hzero]

/-- The whole part of a number that fits a decimal is a mantissa. -/
theorem Magnitude.Fits.mantissa_le {x : Magnitude} (h : x.Fits) :
    x.mantissa ≤ maxMantissa * 10 ^ x.scale := by
  obtain ⟨y, hmantissa, -, hsame⟩ := h
  calc
    x.mantissa ≤ x.mantissa * 10 ^ y.scale := Nat.le_mul_of_pos_right _ (by positivity)
    _ = y.mantissa * 10 ^ x.scale := hsame.symm
    _ ≤ maxMantissa * 10 ^ x.scale := Nat.mul_le_mul_right _ hmantissa

/-! ### The rest of a plain number -/

/-- The text that is left can be the rest of a plain number. -/
structure Progress.Admits (p : Progress) (cs : List Char) : Prop where
  characters : ∀ c ∈ cs, c.isDigit = true ∨ c = '_' ∨ c = '.'
  points : cs.count '.' ≤ if p.pointSeen then 0 else 1
  /-- Apart from the point a digit comes first. -/
  first : p.digitSeen = true ∨ (cs.filter fun c => c ≠ '.').head?.any Char.isDigit = true

section Steps

variable {p : Progress} {c : Char} {cs : List Char}

theorem Progress.Admits.nil (h : p.Admits []) : p.digitSeen = true :=
  h.first.resolve_right (by simp)

theorem Progress.Admits.take (h : p.Admits (c :: cs)) (hc : c.isDigit = true) :
    (p.take c).Admits cs where
  characters := (List.forall_mem_cons.mp h.characters).2
  points := by
    have hpoints := h.points
    rwa [List.count_cons_of_ne (ne_point_of_isDigit hc)] at hpoints
  first := Or.inl rfl

theorem Progress.Admits.point (h : p.Admits ('.' :: cs)) :
    p.pointSeen = false ∧ p.passPoint.Admits cs := by
  have hpoints := h.points
  rw [List.count_cons_self] at hpoints
  cases hpoint : p.pointSeen with
  | true => simp [hpoint] at hpoints
  | false =>
      rw [hpoint] at hpoints
      refine ⟨rfl, (List.forall_mem_cons.mp h.characters).2, Nat.le_of_succ_le_succ hpoints, ?_⟩
      have hfirst := h.first
      rwa [List.filter_cons_of_neg (by simp)] at hfirst

theorem Progress.Admits.separator (h : p.Admits ('_' :: cs)) :
    p.digitSeen = true ∧ p.Admits cs := by
  have hdigit : p.digitSeen = true := h.first.resolve_right (by simp)
  refine ⟨hdigit, (List.forall_mem_cons.mp h.characters).2, ?_, Or.inl hdigit⟩
  have hpoints := h.points
  rwa [List.count_cons_of_ne (by decide)] at hpoints

theorem Progress.Admits.tail (h : p.Admits cs) (hpoint : p.pointSeen = true) :
    ∀ c ∈ cs, c.isDigit = true ∨ c = '_' := by
  have hnone : '.' ∉ cs := by
    have hpoints := h.points
    rw [hpoint] at hpoints
    exact List.count_eq_zero.mp (Nat.le_zero.mp hpoints)
  intro c hc
  rcases h.characters c hc with hdigit | hseparator | rfl
  · exact Or.inl hdigit
  · exact Or.inr hseparator
  · exact absurd hc hnone

/-! ### The steps of the plain reading -/

theorem readPlain_point (hpoint : p.pointSeen = false) (cs : List Char) :
    readPlain p ('.' :: cs) = readPlain p.passPoint cs := by
  rw [readPlain, Text.digit?, if_neg (by decide)]
  simp [hpoint, Progress.passPoint]

theorem readPlain_separator (hdigit : p.digitSeen = true) (cs : List Char) :
    readPlain p ('_' :: cs) = readPlain p cs := by
  rw [readPlain, Text.digit?, if_neg (by decide)]
  simp [hdigit]

/-- In front of the point no digit is one too many if the number fits a decimal. -/
theorem Progress.take_le_of_fits (hpoint : p.pointSeen = false) (hc : c.isDigit = true)
    (hfits : (p.written (c :: cs)).Fits) : (p.take c).mantissa ≤ maxMantissa := by
  have hplaces : (digitsIn (fromPoint cs)).length ≤ (digitsIn cs).length :=
    ((List.dropWhile_suffix _).sublist.filter _).length_le
  have hle := hfits.mantissa_le
  rw [← written_take p hc, written] at hle
  simp only [take, hpoint, Bool.false_eq_true, if_false] at hle ⊢
  have hscaled : (10 * p.mantissa + Text.digitValue c) * 10 ^ (digitsIn cs).length ≤
      maxMantissa * 10 ^ (digitsIn cs).length :=
    calc
      _ ≤ maxMantissa * 10 ^ (digitsIn (fromPoint cs)).length := le_of_add_le_left hle
      _ ≤ maxMantissa * 10 ^ (digitsIn cs).length :=
        Nat.mul_le_mul_left _ (Nat.pow_le_pow_right (by decide) hplaces)
  exact Nat.le_of_mul_le_mul_right hscaled (by positivity)

/-- **Acceptance.** The plain reading refuses no number that fits a decimal. -/
theorem readPlain_of_fits (h : p.Admits cs) (hp : p.Sound) (hscale : p.scale < maxScale)
    (hfits : (p.written cs).Fits) :
    ∃ m, readPlain p cs = .ok m ∧ m.mantissa ≤ maxMantissa ∧ m.scale ≤ maxScale := by
  induction cs generalizing p with
  | nil =>
      rw [readPlain, if_pos h.nil]
      exact ⟨_, rfl, hp.mantissa_le, hp.scale_le⟩
  | cons c cs ih =>
      rcases h.characters c List.mem_cons_self with hc | rfl | rfl
      · rw [readPlain_digit p hc]
        split
        case isTrue hlarge =>
          have hpoint : p.pointSeen = true := by
            by_contra hno
            exact absurd (p.take_le_of_fits (by simpa using hno) hc hfits) (Nat.not_le.mpr hlarge)
          have hfull : p.Full (c :: cs) := Or.inr ⟨c, cs, rfl, hc, hlarge⟩
          rw [if_pos hpoint, roundAt_of_eq_zero (h.tail hpoint) (hfull.eq_zero hpoint hfits)]
          exact ⟨_, rfl, hp.mantissa_le, hp.scale_le⟩
        case isFalse hlarge =>
          have hmantissa : (p.take c).mantissa ≤ maxMantissa := Nat.le_of_not_lt hlarge
          have hrest := h.take hc
          rw [← Progress.written_take p hc] at hfits
          split
          case isTrue hlast =>
            have hpoint : p.pointSeen = true := by
              by_contra hno
              simp [Progress.take, hno, maxScale] at hlast
            have hfull : (p.take c).Full cs := Or.inl ⟨rfl, hlast⟩
            have htail := hrest.tail hpoint
            have hzero := hfull.eq_zero hpoint hfits
            refine ⟨⟨(p.take c).mantissa, (p.take c).scale⟩, ?_, hmantissa, hlast.le⟩
            split
            case isTrue => exact roundAt_of_eq_zero htail hzero _ _
            case isFalse => exact roundAt_dropWhile_of_eq_zero htail hzero _ _
          case isFalse hlast =>
            have hnext : (p.take c).scale < maxScale := by
              have hle : (p.take c).scale ≤ p.scale + 1 := by
                simp only [Progress.take]
                split <;> omega
              omega
            exact ih hrest (.take hmantissa hnext.le) hnext hfits
      · obtain ⟨hdigit, hrest⟩ := h.separator
        rw [Progress.written_separator] at hfits
        rw [readPlain_separator hdigit]
        exact ih hrest hp hscale hfits
      · obtain ⟨hpoint, hrest⟩ := h.point
        rw [← Progress.written_passPoint hp hpoint] at hfits
        rw [readPlain_point hpoint]
        exact ih hrest hp.passPoint hscale hfits

end Steps

/-! ### Plain numbers -/

theorem admits_of_isPlain {cs : List Char} (h : isPlain cs = true) :
    Progress.Admits ⟨false, false, 0, 0⟩ cs := by
  simp only [Written.isPlain, Bool.and_eq_true, List.all_eq_true, Bool.or_eq_true,
    decide_eq_true_eq, or_assoc] at h
  exact ⟨h.1.1, h.1.2, Or.inr h.2⟩

theorem exists_signed {m : Magnitude} (hmantissa : m.mantissa ≤ maxMantissa)
    (hscale : m.scale ≤ maxScale) (negative : Bool) : ∃ d, m.signed negative = .ok d := by
  rw [Magnitude.signed, ofParts?, dif_pos ⟨hmantissa, hscale⟩]
  exact ⟨_, rfl⟩

/-- A plain number for which there is a decimal is read plainly, as its value. -/
theorem ofPlain_of_holds {cs : List Char} {w : Written} (hw : Written.ofPlain? cs = some w)
    (hholds : Holds w.base) : ∃ d, ofPlain cs = .ok d ∧ d.value = w.base := by
  have hplain : isPlain (splitSign cs).2 = true := by
    by_contra hno
    rw [Written.ofPlain?] at hw
    simp [hno] at hw
  have hne : cs ≠ [] := by
    rintro rfl
    exact absurd hplain (by decide)
  have hwritten : Progress.written ⟨false, false, 0, 0⟩ (splitSign cs).2 = w.magnitude := by
    rw [Written.ofPlain?] at hw
    simp only [hplain, if_true] at hw
    obtain rfl := Option.some.inj hw
    simp [Progress.written, plainMagnitude]
  have hfits : (Progress.written ⟨false, false, 0, 0⟩ (splitSign cs).2).Fits := by
    rw [hwritten]
    exact (holds_iff_fits _ _).mp hholds
  obtain ⟨m, hread, hmantissa, hscale⟩ := readPlain_of_fits (admits_of_isPlain hplain)
    ⟨Nat.zero_le _, Nat.zero_le _, fun _ => rfl⟩ (by decide) hfits
  obtain ⟨d, hd⟩ := exists_signed hmantissa hscale (splitSign cs).1
  have hok : ofPlain cs = .ok d := by
    rw [ofPlain_eq cs hne, hread]
    exact hd
  obtain ⟨w', hw', -, -, hexact⟩ := ofPlain_eq_ok hok
  obtain rfl := Option.some.inj (hw.symm.trans hw')
  exact ⟨d, hok, hexact.mpr hholds⟩

/-- **Plain numbers are read.**  A plain number for which there is a decimal is read as its
value. -/
theorem ofChars_of_holds {cs : List Char} {w : Written} (hw : Written.ofPlain? cs = some w)
    (hholds : Holds w.base) : ∃ d, ofChars cs = .ok d ∧ d.value = w.base := by
  obtain ⟨d, hok, hvalue⟩ := ofPlain_of_holds hw hholds
  exact ⟨d, by rw [ofChars, hok], hvalue⟩

end Decimal

/-! ## Scientific numbers

To the right, the point moves exactly or not at all.  To the left, decimals beyond the 28th are
rounded away; if the quotient has a decimal, these are zeros, and the base has one too.
-/

namespace Decimal

open Written

/-! ### Moving the point -/

theorem value_of_signed {d : Decimal} {negative : Bool} {m : Magnitude}
    (h : m.signed negative = .ok d) : d.value = m.value negative := by
  obtain ⟨hnegative, hmagnitude⟩ := signed_eq_ok h
  rw [value, hnegative, hmagnitude]

theorem value_shiftRight {n : Nat} {d d' : Decimal} (h : shiftRight n d = .ok d') :
    d'.value = d.value * 10 ^ n := by
  have hmul : d.value * 10 ^ n =
      (⟨d.mantissa * 10 ^ (n - d.scale), d.scale - n⟩ : Magnitude).value d.negative :=
    d.magnitude.value_mul d.negative n
  rw [shiftRight] at h
  split at h
  case isTrue hle =>
    rw [value_of_signed h, hmul, Nat.sub_eq_zero_of_le hle, pow_zero, Nat.mul_one]
  case isFalse hle =>
    split at h
    case isTrue => cases h
    case isFalse =>
      rw [value_of_signed h, hmul, Nat.sub_eq_zero_of_le (Nat.le_of_not_le hle)]
      rfl

theorem divideRounding_mul (places n : Nat) : divideRounding (10 ^ places * n) places = n := by
  have hpos : 0 < Text.tenTo places := Nat.pow_pos (by decide)
  have hhalf : Text.tenTo places / 2 < Text.tenTo places := Nat.div_lt_self hpos (by decide)
  rw [divideRounding, Nat.add_comm]
  exact (Nat.add_mul_div_left _ _ hpos).trans (by rw [Nat.div_eq_of_lt hhalf, Nat.zero_add])

/-- Decimals beyond the 28th are zeros if the number fits a decimal. -/
theorem Magnitude.Fits.pow_dvd {mantissa places : Nat}
    (h : (⟨mantissa, maxScale + places⟩ : Magnitude).Fits) : 10 ^ places ∣ mantissa := by
  obtain ⟨y, -, hscale, hsame⟩ := h
  exact hsame.pow_dvd hscale

/-- To the left the point moves exactly if and only if some decimal is the quotient. -/
theorem value_shiftLeft {n : Nat} {d d' : Decimal} (h : shiftLeft n d = .ok d') :
    d'.value = d.value / 10 ^ n ↔ Holds (d.value / 10 ^ n) := by
  have hdiv : d.value / 10 ^ n = (⟨d.mantissa, d.scale + n⟩ : Magnitude).value d.negative :=
    d.magnitude.value_div d.negative n
  refine ⟨fun hexact => ⟨d', hexact⟩, fun hholds => ?_⟩
  rw [hdiv, holds_iff_fits] at hholds
  rw [hdiv]
  rw [shiftLeft] at h
  split at h
  case isTrue => cases h
  case isFalse =>
    split at h
    case isTrue hmany =>
      have hscale : d.scale + n = maxScale + (d.scale + n - maxScale) := by omega
      rw [hscale] at hholds
      obtain ⟨quotient, hquotient⟩ := hholds.pow_dvd
      rw [hquotient, divideRounding_mul] at h
      rw [value_of_signed h]
      refine Magnitude.Same.value_eq ?_ _
      rw [Magnitude.Same, hquotient, hscale, pow_add, Nat.add_sub_cancel_left]
      ring
    case isFalse => exact value_of_signed h

/-! ### Exponents -/

/-- An exponent is read as it is written, unless it is too large. -/
theorem exponent?_eq_filter (cs : List Char) :
    Decimal.exponent? cs = (unsigned? cs).filter fun n => n < 4294967296 := by
  rw [Decimal.exponent?.eq_def]
  dsimp only
  split
  case h_1 n hn =>
    have hunsigned : unsigned? cs = some n := hn
    simp [hunsigned, Option.filter]
  case h_2 hn =>
    have hunsigned : unsigned? cs = none := hn
    simp [hunsigned]

theorem unsigned?_of_exponent? {cs : List Char} {n : Nat}
    (h : Decimal.exponent? cs = some n) : unsigned? cs = some n := by
  rw [exponent?_eq_filter, Option.filter_eq_some_iff] at h
  exact h.1

/-- An exponent moves the point exactly if and only if there are decimals for the number before
and after. -/
theorem applyExponent_eq_ok {d d' : Decimal} {cs : List Char} {v : ℚ}
    (hlt : |v| < maxMantissa + 1) (hd : d.value = v ↔ Holds v)
    (h : applyExponent d cs = .ok d') :
    ∃ e, Written.exponent? cs = some e ∧
      (d'.value = v * 10 ^ e ↔ Holds v ∧ Holds (v * 10 ^ e)) := by
  rw [applyExponent.eq_def] at h
  split at h
  case h_1 cs =>
    cases hn : Decimal.exponent? cs with
    | none => simp [hn] at h
    | some n =>
        rw [hn] at h
        refine ⟨-(n : Int), by rw [Written.exponent?, unsigned?_of_exponent? hn]; rfl, ?_⟩
        rw [zpow_neg, zpow_natCast, ← div_eq_mul_inv]
        constructor
        · intro hexact
          have hholds : Holds (v / 10 ^ n) := ⟨d', hexact⟩
          exact ⟨holds_of_div hlt hholds, hholds⟩
        · rintro ⟨hbase, hholds⟩
          have hvalue := hd.mpr hbase
          rw [← hvalue] at hholds ⊢
          exact (value_shiftLeft h).mpr hholds
  case h_2 hminus =>
    cases hn : Decimal.exponent? cs with
    | none => simp [hn] at h
    | some n =>
        rw [hn] at h
        have hexponent : Written.exponent? cs = some (n : Int) := by
          rw [Written.exponent?.eq_def]
          split
          case h_1 rest => exact absurd rfl (hminus rest)
          case h_2 => rw [unsigned?_of_exponent? hn]; rfl
        refine ⟨n, hexponent, ?_⟩
        rw [zpow_natCast]
        constructor
        · intro hexact
          refine ⟨hd.mp ?_, ⟨d', hexact⟩⟩
          rw [value_shiftRight h] at hexact
          exact mul_right_cancel₀ (by positivity) hexact
        · rintro ⟨hbase, -⟩
          rw [value_shiftRight h, hd.mpr hbase]

/-! ### Reading -/

theorem mem_splitSign {cs : List Char} {c : Char} (h : c ∈ cs) :
    c = '-' ∨ c = '+' ∨ c ∈ (splitSign cs).2 := by
  rw [splitSign.eq_def]
  split
  case h_1 => exact (List.mem_cons.mp h).imp_right Or.inr
  case h_2 => exact Or.inr (List.mem_cons.mp h)
  case h_3 => exact Or.inr (Or.inr h)

theorem dropWhile_of_ofPlain? {cs : List Char} {w : Written}
    (h : Written.ofPlain? cs = some w) : cs.dropWhile (fun c => !isExponentMark c) = [] := by
  have hplain : isPlain (splitSign cs).2 = true := by
    by_contra hno
    rw [Written.ofPlain?] at h
    simp [hno] at h
  simp only [Written.isPlain, Bool.and_eq_true, List.all_eq_true] at hplain
  rw [List.dropWhile_eq_nil_iff]
  intro c hc
  by_contra hmark
  have hletter : c = 'e' ∨ c = 'E' := by
    simpa [isExponentMark, or_iff_not_imp_left] using hmark
  rcases mem_splitSign hc with rfl | rfl | hrest
  · exact absurd hletter (by decide)
  · exact absurd hletter (by decide)
  · have hcharacter := hplain.1.1 c hrest
    rcases hletter with rfl | rfl <;> exact absurd hcharacter (by decide)

/-- **Reading.** A text that is read as a decimal denotes a number, and the reading is exact if and
only if there are decimals both for the number in front of the exponent and for the whole. -/
theorem ofChars_eq_ok {cs : List Char} {d : Decimal} (h : ofChars cs = .ok d) :
    ∃ w, Written.ofChars? cs = some w ∧
      (d.value = w.value ↔ Holds w.base ∧ Holds w.value) := by
  rw [ofChars] at h
  split at h
  case h_1 plain hplain =>
    obtain rfl := Except.ok.inj h
    obtain ⟨w, hw, hexponent, -, hexact⟩ := ofPlain_eq_ok hplain
    have hvalue : w.value = w.base := by rw [Written.value, hexponent, zpow_zero, mul_one]
    refine ⟨w, by rw [Written.ofChars?, dropWhile_of_ofPlain? hw, hw], ?_⟩
    rw [hvalue, and_self]
    exact hexact
  case h_2 =>
    split at h
    case isTrue =>
      rw [ofScientific] at h
      split at h
      case h_1 => cases h
      case h_2 mark exponent hsplit =>
        obtain ⟨base, hbase, h⟩ := bind_eq_ok h
        obtain ⟨w, hw, -, hlt, hexact⟩ := ofPlain_eq_ok hbase
        obtain ⟨e, he, hiff⟩ := applyExponent_eq_ok hlt hexact h
        refine ⟨{ w with exponent := e }, ?_, hiff⟩
        rw [Written.ofChars?, hsplit]
        simp only [hw, he]
    case isFalse => cases h

end Decimal

end Arrears
