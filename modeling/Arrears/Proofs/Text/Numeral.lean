import Arrears.Basic
import Mathlib.Algebra.Order.Ring.Nat
import Mathlib.Data.List.Basic
import Mathlib.Tactic.Linarith
import Mathlib.Tactic.Ring

/-!
# Numerals and the numbers they denote

A row of digits denotes a number, each digit counting ten times as much as the next one.  The digits
of a number denote it.  They are the only row of digits that does so without a superfluous zero in
front; `padded` gives the row of a given length.
-/

namespace Arrears

/-! ## Steps that can fail -/

theorem bind_eq_error {α β ε : Type} {x : Except ε α} {f : α → Except ε β} {fault : ε}
    (h : x >>= f = .error fault) :
    x = .error fault ∨ ∃ value, x = .ok value ∧ f value = .error fault := by
  cases x with
  | error other =>
      obtain rfl : other = fault := Except.error.inj h
      exact Or.inl rfl
  | ok value => exact Or.inr ⟨value, rfl, h⟩

/-- A computation that returns at its end fails where the rest of it fails. -/
theorem bind_pure_eq_error_iff {α β ε : Type} {x : Except ε α} {f : α → β} {fault : ε} :
    (x >>= fun value => pure (f value)) = .error fault ↔ x = .error fault := by
  cases x <;> simp [bind, Except.bind, pure, Except.pure]

theorem bind_eq_ok {α β ε : Type} {x : Except ε α} {f : α → Except ε β} {result : β}
    (h : x >>= f = .ok result) : ∃ value, x = .ok value ∧ f value = .ok result := by
  cases x with
  | error fault => cases h
  | ok value => exact ⟨value, rfl, h⟩

namespace Text

variable {c : Char} {cs ds : List Char}

/-! ## Digits -/

theorem digitValue_lt (h : c.isDigit = true) : digitValue c < 10 := by
  have hle : c.toNat ≤ 57 := (Char.isDigit_iff_toNat.mp h).2
  rw [digitValue]
  omega

theorem digitValue_add (h : c.isDigit = true) : digitValue c + 48 = c.toNat := by
  have hle : 48 ≤ c.toNat := (Char.isDigit_iff_toNat.mp h).1
  rw [digitValue, Nat.sub_add_cancel hle]

theorem digitChar_digitValue (h : c.isDigit = true) : Nat.digitChar (digitValue c) = c := by
  apply Char.toNat_inj.mp
  rw [Nat.toNat_digitChar_of_lt_ten (digitValue_lt h), Nat.add_comm, digitValue_add h]

theorem lt_of_digitValue_lt {d : Char} (hc : c.isDigit = true) (hd : d.isDigit = true)
    (h : digitValue c < digitValue d) : c < d := by
  have hcode : c.toNat < d.toNat := by
    rw [← digitValue_add hc, ← digitValue_add hd]
    omega
  exact UInt32.lt_iff_toNat_lt.mpr hcode

theorem eq_of_digitValue_eq {d : Char} (hc : c.isDigit = true) (hd : d.isDigit = true)
    (h : digitValue c = digitValue d) : c = d := by
  rw [← digitChar_digitValue hc, h, digitChar_digitValue hd]

/-! ## Rows of digits -/

theorem foldl_digits (n : Nat) (cs : List Char) :
    cs.foldl (fun n c => 10 * n + digitValue c) n = n * 10 ^ cs.length + valueOfDigits cs := by
  induction cs generalizing n with
  | nil => simp [valueOfDigits]
  | cons c cs ih =>
      rw [valueOfDigits, List.foldl_cons, List.foldl_cons, ih, ih (10 * 0 + digitValue c),
        List.length_cons, pow_succ]
      ring

/-- The first digit counts for as many places as there are digits behind it. -/
theorem valueOfDigits_cons (c : Char) (cs : List Char) :
    valueOfDigits (c :: cs) = digitValue c * 10 ^ cs.length + valueOfDigits cs := by
  rw [valueOfDigits, List.foldl_cons, foldl_digits, Nat.mul_zero, Nat.zero_add]

theorem valueOfDigits_append (cs ds : List Char) :
    valueOfDigits (cs ++ ds) = valueOfDigits cs * 10 ^ ds.length + valueOfDigits ds := by
  rw [valueOfDigits, List.foldl_append, foldl_digits]
  rfl

theorem valueOfDigits_lt (h : ∀ c ∈ cs, c.isDigit = true) :
    valueOfDigits cs < 10 ^ cs.length := by
  induction cs with
  | nil => exact Nat.one_pos
  | cons c cs ih =>
      have hfirst := digitValue_lt (h c List.mem_cons_self)
      have hrest := ih fun other hother => h other (List.mem_cons_of_mem _ hother)
      rw [valueOfDigits_cons, List.length_cons, pow_succ]
      nlinarith

/-- What is left over behind the first place is too little to make up for it. -/
theorem first_le_of_le {first first' size rest rest' : Nat} (hrest : rest' < size)
    (h : first * size + rest ≤ first' * size + rest') : first ≤ first' := by
  by_contra hgt
  have hmore : (first' + 1) * size ≤ first * size :=
    Nat.mul_le_mul_right _ (Nat.lt_of_not_le hgt)
  rw [Nat.succ_mul] at hmore
  omega

/-- Among rows of one length the first digit grows with the number. -/
theorem digitValue_le_of_le {d : Char} (hlength : cs.length = ds.length)
    (hds : ∀ d ∈ ds, d.isDigit = true) (h : valueOfDigits (c :: cs) ≤ valueOfDigits (d :: ds)) :
    digitValue c ≤ digitValue d := by
  rw [valueOfDigits_cons, valueOfDigits_cons, hlength] at h
  exact first_le_of_le (valueOfDigits_lt hds) h

/-- Rows of one length are ordered like the numbers that they denote. -/
theorem lt_of_valueOfDigits_lt (hlength : cs.length = ds.length)
    (hcs : ∀ c ∈ cs, c.isDigit = true) (hds : ∀ d ∈ ds, d.isDigit = true)
    (h : valueOfDigits cs < valueOfDigits ds) : cs < ds := by
  induction cs generalizing ds with
  | nil =>
      obtain rfl := List.eq_nil_of_length_eq_zero hlength.symm
      exact absurd h (Nat.lt_irrefl _)
  | cons c cs ih =>
      cases ds with
      | nil => cases hlength
      | cons d ds =>
          obtain ⟨hc, hcs⟩ := List.forall_mem_cons.mp hcs
          obtain ⟨hd, hds⟩ := List.forall_mem_cons.mp hds
          have hrest : cs.length = ds.length := Nat.succ.inj hlength
          rw [List.cons_lt_cons_iff]
          rcases Nat.lt_or_eq_of_le (digitValue_le_of_le hrest hds h.le) with hlt | heq
          · exact Or.inl (lt_of_digitValue_lt hc hd hlt)
          · rw [valueOfDigits_cons, valueOfDigits_cons, heq, hrest] at h
            exact Or.inr ⟨eq_of_digitValue_eq hc hd heq,
              ih hrest hcs hds (Nat.lt_of_add_lt_add_left h)⟩

theorem eq_of_valueOfDigits_eq (hlength : cs.length = ds.length)
    (hcs : ∀ c ∈ cs, c.isDigit = true) (hds : ∀ d ∈ ds, d.isDigit = true)
    (h : valueOfDigits cs = valueOfDigits ds) : cs = ds := by
  induction cs generalizing ds with
  | nil => exact (List.eq_nil_of_length_eq_zero hlength.symm).symm
  | cons c cs ih =>
      cases ds with
      | nil => cases hlength
      | cons d ds =>
          obtain ⟨hc, hcs⟩ := List.forall_mem_cons.mp hcs
          obtain ⟨hd, hds⟩ := List.forall_mem_cons.mp hds
          have hrest : cs.length = ds.length := Nat.succ.inj hlength
          have hfirst : digitValue c = digitValue d :=
            Nat.le_antisymm (digitValue_le_of_le hrest hds h.le)
              (digitValue_le_of_le hrest.symm hcs h.ge)
          rw [valueOfDigits_cons, valueOfDigits_cons, hfirst, hrest] at h
          rw [eq_of_digitValue_eq hc hd hfirst, ih hrest hcs hds (Nat.add_left_cancel h)]

/-! ## The digits of a number -/

theorem isDigit_of_mem_digits {n : Nat} (h : c ∈ digits n) : c.isDigit = true :=
  Nat.isDigit_of_mem_toDigits (by decide) (by decide) h

theorem digits_ne_nil (n : Nat) : digits n ≠ [] :=
  Nat.toDigits_ne_nil

theorem valueOfDigits_digits (n : Nat) : valueOfDigits (digits n) = n :=
  Nat.ofDigitChars_ten_toDigits

/-- One or more digits, and no zero in front of another digit. -/
structure Shortest (cs : List Char) : Prop where
  digits : ∀ c ∈ cs, c.isDigit = true
  ne_nil : cs ≠ []
  head : cs.head? = some '0' → cs = ['0']

theorem digits_cons_append {d : Nat} (hd : d < 10) (n : Nat) (hn : 0 < n) :
    digits (10 * n + d) = digits n ++ [Nat.digitChar d] := by
  rw [digits, ← Nat.toDigits_append_toDigits (by decide) hn hd, Nat.toDigits_of_lt_base hd]
  rfl

/-- Digits that follow a number in writing are written behind it. -/
theorem digits_append (n : Nat) (hn : 0 < n) (h : ∀ c ∈ cs, c.isDigit = true) :
    digits (n * 10 ^ cs.length + valueOfDigits cs) = digits n ++ cs := by
  induction cs generalizing n with
  | nil => simp [valueOfDigits]
  | cons c cs ih =>
      obtain ⟨hc, hcs⟩ := List.forall_mem_cons.mp h
      have hnext : digits (10 * n + digitValue c) = digits n ++ [c] := by
        rw [digits_cons_append (digitValue_lt hc) n hn, digitChar_digitValue hc]
      have hvalue : n * 10 ^ (c :: cs).length + valueOfDigits (c :: cs) =
          (10 * n + digitValue c) * 10 ^ cs.length + valueOfDigits cs := by
        rw [valueOfDigits_cons, List.length_cons, pow_succ]
        ring
      rw [hvalue, ih _ (by omega) hcs, hnext, List.append_assoc, List.singleton_append]

/-- A row of digits without a superfluous zero is what the number that it denotes is written as. -/
theorem digits_valueOfDigits (h : Shortest cs) : digits (valueOfDigits cs) = cs := by
  obtain ⟨c, cs, rfl⟩ := List.exists_cons_of_ne_nil h.ne_nil
  by_cases hzero : c = '0'
  · rw [h.head (by rw [hzero]; rfl)]
    rfl
  · obtain ⟨hc, hcs⟩ := List.forall_mem_cons.mp h.digits
    have hpos : 0 < digitValue c := by
      by_contra hnot
      exact hzero (eq_of_digitValue_eq hc (by decide) (Nat.eq_zero_of_not_pos hnot))
    rw [valueOfDigits_cons, digits_append _ hpos hcs, digits,
      Nat.toDigits_of_lt_base (digitValue_lt hc), digitChar_digitValue hc]
    rfl

theorem shortest_digits (n : Nat) : Shortest (digits n) where
  digits _ hc := isDigit_of_mem_digits hc
  ne_nil := digits_ne_nil n
  head := by
    induction n using Nat.strong_induction_on with
    | _ n ih =>
        by_cases hn : n < 10
        · rw [digits, Nat.toDigits_of_lt_base hn]
          intro h
          rw [Option.some.inj h]
        · intro h
          have hsplit : digits n = digits (n / 10) ++ [Nat.digitChar (n % 10)] :=
            Nat.toDigits_of_base_le (by decide) (Nat.le_of_not_lt hn)
          have hhead : (digits (n / 10)).head? = some '0' := by
            rwa [hsplit, List.head?_append_of_ne_nil _ (digits_ne_nil _)] at h
          have hvalue := valueOfDigits_digits (n / 10)
          rw [ih (n / 10) (by omega) hhead] at hvalue
          have hzero : n / 10 = 0 := hvalue.symm
          omega

/-! ## Integers -/

/-- An integer has a minus sign in writing exactly if it is negative. -/
theorem minus_mem_integerText_iff (n : Int) : '-' ∈ integerText n ↔ n < 0 := by
  have hdigits : '-' ∉ digits n.natAbs := fun h => absurd (isDigit_of_mem_digits h) (by decide)
  rw [integerText]
  split
  case isTrue hneg => simp [hneg]
  case isFalse hneg => simp [hneg, hdigits]

theorem filter_isDigit_integerText (n : Int) :
    (integerText n).filter Char.isDigit = digits n.natAbs := by
  have hdigits : (digits n.natAbs).filter Char.isDigit = digits n.natAbs :=
    List.filter_eq_self.mpr fun _ => isDigit_of_mem_digits
  rw [integerText]
  split
  · rw [List.filter_cons_of_neg (by decide), hdigits]
  · exact hdigits

theorem integerText_inj {n m : Int} (h : integerText n = integerText m) : n = m := by
  have hsize : n.natAbs = m.natAbs := by
    rw [← valueOfDigits_digits n.natAbs, ← filter_isDigit_integerText, h,
      filter_isDigit_integerText, valueOfDigits_digits]
  have hsign : n < 0 ↔ m < 0 := by
    rw [← minus_mem_integerText_iff, h, minus_mem_integerText_iff]
  omega

/-! ## Reading numerals -/

theorem numeral?_eq_some_iff {n : Nat} :
    numeral? cs = some n ↔ cs ≠ [] ∧ (∀ c ∈ cs, c.isDigit = true) ∧ valueOfDigits cs = n := by
  cases cs with
  | nil => simp [numeral?]
  | cons c cs =>
      rw [numeral?]
      · simp
      · simp

theorem cast_numeral?_eq_some_iff {n : Int} :
    (do let k ← numeral? cs; pure (k : Int)) = some n ↔
      cs ≠ [] ∧ (∀ c ∈ cs, c.isDigit = true) ∧ n = valueOfDigits cs := by
  constructor
  · intro h
    obtain ⟨k, hk, hn⟩ := Option.bind_eq_some_iff.mp h
    obtain ⟨hne, hcs, rfl⟩ := numeral?_eq_some_iff.mp hk
    exact ⟨hne, hcs, (Option.some.inj hn).symm⟩
  · rintro ⟨hne, hcs, rfl⟩
    exact Option.bind_eq_some_iff.mpr ⟨_, numeral?_eq_some_iff.mpr ⟨hne, hcs, rfl⟩, rfl⟩

theorem integer?_eq_some_iff_of_pos {n : Int} (hn : 0 < n) :
    integer? cs = some n ↔ ∃ ds, (cs = ds ∨ cs = '+' :: ds) ∧ ds ≠ [] ∧
      (∀ d ∈ ds, d.isDigit = true) ∧ n = valueOfDigits ds := by
  unfold integer?
  split
  case h_1 cs =>
    constructor
    · intro h
      obtain ⟨k, hk, rfl⟩ := Option.map_eq_some_iff.mp h
      obtain ⟨-, -, rfl⟩ := cast_numeral?_eq_some_iff.mp hk
      omega
    · rintro ⟨ds, rfl | hplus, -, hds, -⟩
      · exact absurd (hds '-' List.mem_cons_self) (by decide)
      · exact absurd (List.cons.inj hplus).1 (by decide)
  case h_2 cs =>
    rw [Option.map_id', cast_numeral?_eq_some_iff]
    constructor
    · exact fun h => ⟨cs, Or.inr rfl, h⟩
    · rintro ⟨ds, rfl | hplus, hne, hds, hvalue⟩
      · exact absurd (hds '+' List.mem_cons_self) (by decide)
      · obtain rfl := (List.cons.inj hplus).2
        exact ⟨hne, hds, hvalue⟩
  case h_3 hplus =>
    rw [Option.map_id', cast_numeral?_eq_some_iff]
    constructor
    · exact fun h => ⟨cs, Or.inl rfl, h⟩
    · rintro ⟨ds, rfl | rfl, h⟩
      · exact h
      · exact absurd rfl (hplus ds)

/-! ## Rows of a given length -/

theorem isDigit_of_mem_padded {width n : Nat} (h : c ∈ padded width n) : c.isDigit = true := by
  rcases List.mem_append.mp h with hzero | hdigit
  · rw [List.eq_of_mem_replicate hzero]
    rfl
  · exact isDigit_of_mem_digits hdigit

theorem padded_ne_nil (width n : Nat) : padded width n ≠ [] := by
  simp [padded, digits_ne_nil]

theorem valueOfDigits_padded (width n : Nat) : valueOfDigits (padded width n) = n := by
  have hzeros (k : Nat) : valueOfDigits (List.replicate k '0') = 0 :=
    Nat.ofDigitChars_replicate_zero
  rw [padded, valueOfDigits_append, hzeros, Nat.zero_mul, Nat.zero_add, valueOfDigits_digits]

theorem padded_inj {width n m : Nat} (h : padded width n = padded width m) : n = m := by
  rw [← valueOfDigits_padded width n, h, valueOfDigits_padded]

theorem length_padded {width n : Nat} (hwidth : 0 < width) (h : n < 10 ^ width) :
    (padded width n).length = width := by
  have hdigits : (digits n).length ≤ width :=
    (Nat.length_toDigits_le_iff (by decide) hwidth).mpr h
  rw [padded, List.length_append, List.length_replicate, Nat.sub_add_cancel hdigits]

end Text

/-! ## Numbers in columns

Numbers that are padded to one width are ordered like their texts, so a text goes first if its number
does, whatever follows.  Decimal places are compared from the point on; where one row of them ends
in front of the other, the mark behind it decides, so it has to come before every digit.
-/

namespace Text

variable {cs ds u v : List Char} {width n m : Nat}

/-- Of texts that begin with rows of one length, the one with the first row goes first. -/
theorem append_lt_append (hlength : cs.length = ds.length) (h : cs < ds) (u v : List Char) :
    cs ++ u < ds ++ v := by
  induction cs generalizing ds with
  | nil =>
      obtain rfl := List.eq_nil_of_length_eq_zero hlength.symm
      cases h
  | cons c cs ih =>
      cases ds with
      | nil => cases h
      | cons d ds =>
          rw [List.cons_append, List.cons_append, List.cons_lt_cons_iff]
          rcases List.cons_lt_cons_iff.mp h with hlt | ⟨heq, hrest⟩
          · exact Or.inl hlt
          · exact Or.inr ⟨heq, ih (Nat.succ.inj hlength) hrest⟩

/-- The smaller number goes first, and of two texts with one number the one that goes on first. -/
theorem padded_append_lt (hwidth : 0 < width) (hn : n < 10 ^ width) (hm : m < 10 ^ width)
    (h : n < m ∨ n = m ∧ u < v) : padded width n ++ u < padded width m ++ v := by
  rcases h with hlt | ⟨rfl, huv⟩
  · have hlength : (padded width n).length = (padded width m).length := by
      rw [length_padded hwidth hn, length_padded hwidth hm]
    refine append_lt_append hlength ?_ u v
    refine lt_of_valueOfDigits_lt hlength (fun _ => isDigit_of_mem_padded)
      (fun _ => isDigit_of_mem_padded) ?_
    rwa [valueOfDigits_padded, valueOfDigits_padded]
  · exact List.append_left_lt huv

theorem column_append_lt (hwidth : 0 < width) (hn : n < 10 ^ width) (hm : m < 10 ^ width)
    (mark : Char) (h : n < m ∨ n = m ∧ u < v) :
    padded width n ++ mark :: u < padded width m ++ mark :: v := by
  refine padded_append_lt hwidth hn hm (h.imp_right fun heq => ⟨heq.1, ?_⟩)
  exact List.cons_lt_cons_iff.mpr (Or.inr ⟨rfl, heq.2⟩)

/-! ### Decimal places -/

/-- The number of units that decimal places denote if there are `places` of them to a whole. -/
def units (places : Nat) (cs : List Char) : Nat :=
  valueOfDigits cs * 10 ^ (places - cs.length)

theorem units_cons (places : Nat) (c : Char) (cs : List Char) (h : cs.length ≤ places) :
    units (places + 1) (c :: cs) = digitValue c * 10 ^ places + units places cs := by
  have hplaces : 10 ^ places = 10 ^ cs.length * 10 ^ (places - cs.length) := by
    rw [← pow_add, Nat.add_sub_cancel' h]
  rw [units, units, valueOfDigits_cons, List.length_cons, Nat.add_sub_add_right, Nat.add_mul,
    Nat.mul_assoc, ← hplaces]

theorem units_lt {places : Nat} (h : cs.length ≤ places) (hcs : ∀ c ∈ cs, c.isDigit = true) :
    units places cs < 10 ^ places := by
  calc
    units places cs < 10 ^ cs.length * 10 ^ (places - cs.length) :=
      Nat.mul_lt_mul_of_pos_right (valueOfDigits_lt hcs) (by positivity)
    _ = 10 ^ places := by rw [← pow_add, Nat.add_sub_cancel' h]

/-- Of rows of decimal places, the one that denotes less goes first, if the mark behind it comes
before every digit. -/
theorem places_append_lt {mark : Char} (hmark : mark.toNat < 48) {places : Nat}
    (hcs : ∀ c ∈ cs, c.isDigit = true) (hds : ∀ d ∈ ds, d.isDigit = true)
    (hcs_length : cs.length ≤ places) (hds_length : ds.length ≤ places)
    (h : units places cs < units places ds) (u v : List Char) :
    cs ++ mark :: u < ds ++ mark :: v := by
  induction cs generalizing ds places with
  | nil =>
      cases ds with
      | nil => exact absurd h (Nat.lt_irrefl _)
      | cons d ds =>
          have hdigit := digitValue_add (hds d List.mem_cons_self)
          have hfirst : mark < d := UInt32.lt_iff_toNat_lt.mpr (by
            change mark.toNat < d.toNat
            omega)
          exact List.cons_lt_cons_iff.mpr (Or.inl hfirst)
  | cons c cs ih =>
      obtain ⟨hc, hcs⟩ := List.forall_mem_cons.mp hcs
      cases ds with
      | nil => simp [units, valueOfDigits] at h
      | cons d ds =>
          obtain ⟨hd, hds⟩ := List.forall_mem_cons.mp hds
          cases places with
          | zero => cases hcs_length
          | succ places =>
              have hcs_length := Nat.le_of_succ_le_succ hcs_length
              have hds_length := Nat.le_of_succ_le_succ hds_length
              rw [units_cons _ _ _ hcs_length, units_cons _ _ _ hds_length] at h
              rw [List.cons_append, List.cons_append, List.cons_lt_cons_iff]
              rcases Nat.lt_or_eq_of_le (first_le_of_le (units_lt hds_length hds) h.le) with
                hlt | heq
              · exact Or.inl (lt_of_digitValue_lt hc hd hlt)
              · rw [heq] at h
                exact Or.inr ⟨eq_of_digitValue_eq hc hd heq,
                  ih hcs hds hcs_length hds_length (Nat.lt_of_add_lt_add_left h)⟩

end Text

end Arrears
