import Arrears.Proofs.Moment.Text

/-!
# Moments are read back

A regular moment is read back from what is written for it, and every moment that is read is regular.

**Argument.** The reader takes the parts in the order in which they are written.  Each part is
digits up to a width or to a mark, so it is taken as it is, and the rest is what stands behind it.
The date gives back its day, since the months of a year split it.
-/

namespace Arrears

namespace Calendar

/-- A day is split into the spans in front of it and what is passed in its own. -/
theorem splitDay_spec {lengths : List Nat} {day : Nat} (h : day < lengths.sum) :
    ∃ length, lengths[(splitDay lengths day).1]? = some length ∧
      (splitDay lengths day).2 < length ∧
      (lengths.take (splitDay lengths day).1).sum + (splitDay lengths day).2 = day := by
  induction lengths generalizing day with
  | nil => cases h
  | cons length lengths ih =>
      rw [List.sum_cons] at h
      rw [splitDay]
      split
      · next hday => exact ⟨length, rfl, hday, by simp⟩
      · next hday =>
          obtain ⟨found, hfound, hlt, hsum⟩ := ih (show day - length < lengths.sum by omega)
          refine ⟨found, hfound, hlt, ?_⟩
          rw [List.take_succ_cons, List.sum_cons]
          omega

theorem exists?_dateOfDay (d : Int) : exists? (dateOfDay d) = true := by
  obtain ⟨length, hlength, hlt, -⟩ := splitDay_spec (dayOfYear_lt d)
  simp only [exists?, dateOfDay, hlength, hlt, decide_true]

theorem dayOfDate_dateOfDay (d : Int) : dayOfDate (dateOfDay d) = d := by
  obtain ⟨length, -, -, hsum⟩ := splitDay_spec (dayOfYear_lt d)
  have hfirst := (yearOfDay_spec d).1
  simp only [dayOfDate, dateOfDay, daysBeforeMonth, Nat.add_sub_cancel, ← List.sum_eq_foldl]
  omega

end Calendar

namespace Moment

variable {α β : Type} {cs ds mid rest : List Char} {c : Char}

/-! ## Parts -/

/-- The reader takes a part from the front of a text and leaves the rest. -/
def Takes (reading : Reading α) (cs : List Char) (value : α) (rest : List Char) : Prop :=
  reading.run cs = .ok (value, rest)

theorem takes_pure (a : α) (cs : List Char) : Takes (pure a) cs a cs :=
  rfl

theorem takes_get (cs : List Char) : Takes get cs cs cs :=
  rfl

theorem takes_set (cs ds : List Char) : Takes (set ds) cs ⟨⟩ ds :=
  rfl

theorem Takes.bind {reading : Reading α} {next : α → Reading β} {a : α} {b : β}
    (h : Takes reading cs a mid) (hnext : Takes (next a) mid b rest) :
    Takes (reading >>= next) cs b rest := by
  rw [Takes, StateT.run_bind, h]
  exact hnext

theorem Takes.discard {reading : Reading α} {a : α} (h : Takes reading cs a rest) :
    Takes (Functor.discard reading) cs () rest := by
  change (reading.run cs >>= fun found => pure ((), found.2)) = _
  rw [h]
  rfl

theorem takes_skipBlanks (h : ∀ c ∈ cs.head?, Text.isBlank c = false) :
    Takes skipBlanks cs () cs := by
  have hsame : Text.trimStart cs = cs := Text.dropWhile_of_head h
  change Except.ok ((), Text.trimStart cs) = _
  rw [hsame]

/-- A number is taken as far as its width, or as its digits go. -/
theorem takes_readNumber {width : Nat} (hdigits : ∀ d ∈ ds, d.isDigit = true) (hne : ds ≠ [])
    (hwidth : ds.length ≤ width)
    {rest : List Char} (hend : ds.length = width ∨ ∀ c ∈ rest.head?, c.isDigit = false) :
    Takes (readNumber width) (ds ++ rest) (Text.valueOfDigits ds) rest := by
  have hfound : ((ds ++ rest).take width).takeWhile Char.isDigit = ds := by
    rw [List.take_append, List.take_of_length_le hwidth, List.takeWhile_append_of_pos hdigits]
    rcases hend with hlength | hmark
    · simp [hlength]
    · cases rest with
      | nil => simp
      | cons c rest =>
          have hc := hmark c rfl
          cases width - ds.length <;> simp [hc]
  have hsome : ds.isEmpty = false := List.isEmpty_eq_false_iff.mpr hne
  rw [Takes, readNumber]
  simp only [StateT.run_bind, StateT.run_get, pure_bind, hfound, hsome]
  rw [if_neg Bool.false_ne_true, List.drop_left]
  rfl

theorem takes_readChar {p : Char → Bool} (h : p c = true) (rest : List Char) :
    Takes (readChar p) (c :: rest) c rest := by
  rw [Takes, readChar]
  simp only [StateT.run_bind, StateT.run_get, pure_bind, h]
  rfl

theorem takes_readSeparator (h : Text.isBlank c = false) (rest : List Char) :
    Takes (readSeparator c) (c :: rest) () rest :=
  (takes_skipBlanks (by simpa using h)).bind (takes_readChar (by simp) rest).discard

theorem takes_readBounded {low high n : Nat} (hlow : low ≤ n) (hhigh : n ≤ high) (hn : n < 100)
    (rest : List Char) : Takes (readBounded low high) (Text.padded 2 n ++ rest) n rest := by
  have hne := Text.padded_ne_nil 2 n
  have hlength : (Text.padded 2 n).length = 2 := Text.length_padded (by decide) hn
  have hfirst : ∀ c ∈ (Text.padded 2 n ++ rest).head?, Text.isBlank c = false := by
    intro c hc
    rw [List.head?_append_of_ne_nil _ hne] at hc
    exact Text.isBlank_of_isDigit (Text.isDigit_of_mem_padded (List.mem_of_mem_head? hc))
  have hnumber : Takes (readNumber 2) (Text.padded 2 n ++ rest)
      (Text.valueOfDigits (Text.padded 2 n)) rest :=
    takes_readNumber (fun _ => Text.isDigit_of_mem_padded) hne (Nat.le_of_eq hlength)
      (Or.inl hlength)
  rw [Text.valueOfDigits_padded] at hnumber
  have hrange : ¬ (n < low ∨ high < n) := by omega
  refine (takes_skipBlanks hfirst).bind (hnumber.bind ?_)
  rw [if_neg hrange]
  exact takes_pure n rest

theorem takes_readYear {year : Int} (h : firstYear ≤ year ∧ year ≤ lastYear) (rest : List Char) :
    Takes readYear (yearText year ++ '-' :: rest) year ('-' :: rest) := by
  have hdigits : ∀ d ∈ Text.padded 4 year.natAbs, d.isDigit = true :=
    fun _ => Text.isDigit_of_mem_padded
  have hne := Text.padded_ne_nil 4 year.natAbs
  have hnumber {width : Nat} (hwidth : (Text.padded 4 year.natAbs).length ≤ width) :
      Takes (readNumber width) (Text.padded 4 year.natAbs ++ '-' :: rest) year.natAbs
        ('-' :: rest) := by
    have hread := takes_readNumber hdigits hne hwidth
      (Or.inr (show ∀ c ∈ ('-' :: rest).head?, c.isDigit = false by simp))
    rwa [Text.valueOfDigits_padded] at hread
  have hsigned : Takes (readNumber (Text.padded 4 year.natAbs ++ '-' :: rest).length)
      (Text.padded 4 year.natAbs ++ '-' :: rest) year.natAbs ('-' :: rest) :=
    hnumber (by simp)
  have hchecked {found : Int} (hfound : found = year) : Takes (do
      if found < -2147483648 ∨ 2147483647 < found then
        throw .outOfRange
      return found) ('-' :: rest) year ('-' :: rest) := by
    have hrange : ¬ (year < -2147483648 ∨ 2147483647 < year) := by
      unfold firstYear lastYear at h
      omega
    rw [hfound, if_neg hrange]
    exact takes_pure year _
  rw [yearText]
  split_ifs with hneg hfour
  · refine (takes_skipBlanks (by simp; decide)).bind ((takes_get _).bind ?_)
    exact (takes_set _ _).bind (hsigned.bind ((takes_pure _ _).bind (hchecked (by omega))))
  · have hunsigned := hnumber (Nat.le_of_eq (Text.length_padded (by decide) (by omega)))
    obtain ⟨d, ds, hds⟩ := List.exists_cons_of_ne_nil hne
    have hd : d.isDigit = true := hdigits d (by simp [hds])
    refine (takes_skipBlanks (by simpa [hds] using Text.isBlank_of_isDigit hd)).bind
      ((takes_get _).bind ?_)
    rw [hds, List.cons_append] at hunsigned ⊢
    split
    · next heq =>
        rw [(List.cons.inj heq).1] at hd
        cases hd
    · next heq =>
        rw [(List.cons.inj heq).1] at hd
        cases hd
    · exact hunsigned.bind ((takes_pure _ _).bind (hchecked (by omega)))
  · refine (takes_skipBlanks (by simp; decide)).bind ((takes_get _).bind ?_)
    exact (takes_set _ _).bind (hsigned.bind ((takes_pure _ _).bind (hchecked (by omega))))

theorem takes_readFraction {n : Nat} (hn : n < 1000000000) (hdigit : c.isDigit = false)
    (hpoint : c ≠ '.') (rest : List Char) :
    Takes readFraction (fractionText n ++ c :: rest) n (c :: rest) := by
  by_cases hzero : n = 0
  · rw [hzero, fractionText, if_pos rfl, List.nil_append]
    refine (takes_get _).bind ?_
    split
    · next heq => exact absurd (List.cons.inj heq).1 hpoint
    · exact takes_pure 0 _
  · obtain ⟨ds, hds, hdigits, hlength, hunits⟩ := exists_fractionText (Nat.pos_of_ne_zero hzero) hn
    have hne : ds ≠ [] := by
      rintro rfl
      exact hzero (hunits.symm.trans (by simp [Text.units, Text.valueOfDigits]))
    have hnumber : Takes (readNumber 9) (ds ++ c :: rest) (Text.valueOfDigits ds) (c :: rest) :=
      takes_readNumber hdigits hne hlength (Or.inr (by simpa using hdigit))
    have hmark : (c :: rest).dropWhile Char.isDigit = c :: rest :=
      Text.dropWhile_of_head (by simpa using hdigit)
    have hplaces : (ds ++ c :: rest).length - (c :: rest).length = ds.length := by simp
    have hvalue : Text.valueOfDigits ds *
        Text.tenTo (9 - ((ds ++ c :: rest).length - (c :: rest).length)) = n := by
      rw [hplaces]
      exact hunits
    rw [hds, List.cons_append]
    refine (takes_get _).bind ((takes_set _ _).bind (hnumber.bind ((takes_get _).bind ?_)))
    refine (takes_set _ _).bind ?_
    rw [hmark, hvalue]
    exact takes_pure n _

/-! ## Moments -/

/-- A moment that can be read: it is regular, and its year is neither too early nor too late. -/
structure Readable (t : Moment) : Prop where
  regular : t.Regular
  year_range : firstYear ≤ t.year ∧ t.year ≤ lastYear

instance (t : Moment) : Decidable t.Readable :=
  decidable_of_iff (t.Regular ∧ firstYear ≤ t.year ∧ t.year ≤ lastYear)
    ⟨fun h => ⟨h.1, h.2⟩, fun h => ⟨h.regular, h.year_range⟩⟩

theorem ofLocal_eq_ok {t : Moment} (h : t.Readable) :
    ofLocal (Calendar.dateOfDay t.day) (t.secondOfDay / 3600) (t.secondOfDay / 60 % 60)
      (t.secondOfDay % 60 + t.nanos / 1000000000) (t.nanos % 1000000000) 0 = .ok t := by
  obtain ⟨hregular, hyear⟩ := h
  obtain ⟨hlt, hnanos, hleap⟩ := hregular.ofDay
  have hrange : ¬ (t.year < firstYear ∨ lastYear < t.year) := by omega
  have hdate : ¬ ((Calendar.dateOfDay t.day).year < firstYear ∨
      lastYear < (Calendar.dateOfDay t.day).year ∨
        !Calendar.exists? (Calendar.dateOfDay t.day)) := by
    rw [Calendar.exists?_dateOfDay, Bool.not_true]
    simpa [year] using hyear
  have hseconds : (t.day - Calendar.epochDay) * 86400 +
      (t.secondOfDay / 3600 * 3600 + t.secondOfDay / 60 % 60 * 60 +
        (t.secondOfDay % 60 + t.nanos / 1000000000 -
          (t.secondOfDay % 60 + t.nanos / 1000000000) / 60) : Nat) - 0 = t.seconds := by
    unfold day secondOfDay at *
    omega
  have hparts : t.nanos % 1000000000 +
      (t.secondOfDay % 60 + t.nanos / 1000000000) / 60 * 1000000000 = t.nanos := by
    omega
  have hmoment : ofParts? t.seconds t.nanos = some t := by
    rw [ofParts?, dif_pos ⟨hnanos, hregular⟩]
  rw [ofLocal, if_neg hdate, if_neg (by decide)]
  simp only [Calendar.dayOfDate_dateOfDay, hseconds, hparts, hmoment]
  exact if_neg hrange

/-- A moment in writing is read back with any offset that stands for none. -/
theorem takes_readMoment {t : Moment} (h : t.Readable) {offset : List Char}
    (hoffset : Takes readOffset (c :: offset) 0 []) (hdigit : c.isDigit = false)
    (hpoint : c ≠ '.') (hblank : Text.isBlank c = false) :
    Takes readMoment (t.localText ++ c :: offset) t [] := by
  obtain ⟨hlt, hnanos, hleap⟩ := h.regular.ofDay
  obtain ⟨hmonth, hday⟩ := Calendar.dateOfDay_le t.day
  have hpositive : 1 ≤ (Calendar.dateOfDay t.day).month ∧ 1 ≤ (Calendar.dateOfDay t.day).day :=
    ⟨Nat.succ_pos _, Nat.succ_pos _⟩
  have hend : Takes (do
      skipBlanks
      if !(← get).isEmpty then
        throw .tooLong
      ofLocal (Calendar.dateOfDay t.day) (t.secondOfDay / 3600) (t.secondOfDay / 60 % 60)
        (t.secondOfDay % 60 + t.nanos / 1000000000) (t.nanos % 1000000000) 0) [] t [] := by
    rw [ofLocal_eq_ok h]
    rfl
  simp only [localText, dateText, timeText, List.append_assoc, List.cons_append]
  refine (takes_readYear h.year_range _).bind ?_
  refine (takes_readSeparator (by decide) _).bind ?_
  refine (takes_readBounded hpositive.1 hmonth (by omega) _).bind ?_
  refine (takes_readSeparator (by decide) _).bind ?_
  refine (takes_readBounded hpositive.2 hday (by omega) _).bind ?_
  refine (takes_readChar (by decide) _).discard.bind ?_
  refine (takes_readBounded (Nat.zero_le _) (by omega) (by omega) _).bind ?_
  refine (takes_readSeparator (by decide) _).bind ?_
  refine (takes_readBounded (Nat.zero_le _) (by omega) (by omega) _).bind ?_
  refine (takes_readSeparator (by decide) _).bind ?_
  refine (takes_readBounded (Nat.zero_le _) (by omega) (by omega) _).bind ?_
  refine (takes_readFraction (Nat.mod_lt _ (by decide)) hdigit hpoint _).bind ?_
  refine (takes_skipBlanks (by simpa using hblank)).bind ?_
  exact hoffset.bind hend

theorem ofText_eq_ok {t : Moment} {s : String} {cs : List Char} (hs : s.toList = cs)
    (h : Takes readMoment cs t rest) : ofText s = .ok t := by
  rw [ofText, hs]
  change (readMoment.run cs >>= fun found => pure found.1) = _
  rw [h]
  rfl

/-- **Moments are read back.** -/
theorem ofText_text {t : Moment} (h : t.Readable) : ofText t.text = .ok t :=
  ofText_eq_ok String.toList_ofList
    (takes_readMoment h rfl rfl (by decide) (by decide))

theorem ofText_zuluText {t : Moment} (h : t.Readable) : ofText t.zuluText = .ok t :=
  ofText_eq_ok String.toList_ofList
    (takes_readMoment h rfl rfl (by decide) (by decide))

/-! ## What is read -/

/-- Whatever is taken has a property. -/
def Ensures (reading : Reading α) (P : α → Prop) : Prop :=
  ∀ cs value rest, Takes reading cs value rest → P value

theorem Ensures.bind {reading : Reading α} {next : α → Reading β} {P : β → Prop}
    (h : ∀ a, Ensures (next a) P) : Ensures (reading >>= next) P := by
  intro cs value rest htakes
  rw [Takes, StateT.run_bind] at htakes
  obtain ⟨found, -, htakes⟩ := bind_eq_ok htakes
  exact h found.1 found.2 value rest htakes

theorem regular_of_ofParts? {seconds : Int} {nanos : Nat} {t : Moment}
    (h : ofParts? seconds nanos = some t) : t.Regular := by
  rw [ofParts?] at h
  split at h
  · next hparts =>
      obtain rfl := Option.some.inj h
      exact hparts.2
  · cases h

theorem regular_of_ofLocal {date : Calendar.Date} {hour minute second nanos : Nat} {offset : Int}
    {t : Moment} (h : ofLocal date hour minute second nanos offset = .ok t) : t.Regular := by
  rw [ofLocal] at h
  split at h
  · cases h
  · split at h
    · cases h
    · dsimp only at h
      split at h
      · cases h
      · split at h
        · next hparts =>
            obtain rfl := Except.ok.inj h
            exact regular_of_ofParts? hparts
        · cases h

theorem ensures_ofLocal (date : Calendar.Date) (hour minute second nanos : Nat) (offset : Int) :
    Ensures (liftM (ofLocal date hour minute second nanos offset)) Regular := by
  intro cs value rest htakes
  change (ofLocal date hour minute second nanos offset >>= fun t => pure (t, cs)) = _ at htakes
  obtain ⟨t, hlocal, hvalue⟩ := bind_eq_ok htakes
  obtain rfl := (Prod.mk.inj (Except.ok.inj hvalue)).1
  exact regular_of_ofLocal hlocal

theorem ensures_readMoment : Ensures readMoment Regular := by
  unfold readMoment
  repeat refine Ensures.bind fun _ => ?_
  dsimp only
  split
  · exact Ensures.bind fun _ => ensures_ofLocal _ _ _ _ _ _
  · exact ensures_ofLocal _ _ _ _ _ _

theorem regular_of_ofText {s : String} {t : Moment} (h : ofText s = .ok t) : t.Regular := by
  change (readMoment.run s.toList >>= fun found => pure found.1) = _ at h
  obtain ⟨found, hread, hmoment⟩ := bind_eq_ok h
  obtain rfl := Except.ok.inj hmoment
  exact ensures_readMoment _ _ _ hread

/-- The moment is the one that its text says. -/
def IsStored (t : Moment) : Prop :=
  ofText t.text = .ok t

theorem IsStored.regular {t : Moment} (h : t.IsStored) : t.Regular :=
  regular_of_ofText h

theorem Readable.isStored {t : Moment} (h : t.Readable) : t.IsStored :=
  ofText_text h

end Moment
end Arrears
