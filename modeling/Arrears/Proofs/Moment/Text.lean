import Arrears.Proofs.Text.OneLine
import Arrears.Proofs.Text.Utf8
import Mathlib.Algebra.Order.Ring.Int

/-!
# Moments in writing and their order

Moments are stored as texts and compared as texts.  Different moments have different texts.  From
the year 0 to the year 9999 the first of two texts belongs to the earlier moment.

**Argument.** Year, month, day, hour, minute and second stand in columns, the greatest unit first.
The extra second of a minute is number 60, behind all others.  A fraction is as long as it has to
be; a plus sign stands behind it, which comes before the point and before every digit, so a moment
without a fraction goes before the others of its second.
-/

namespace Arrears

/-! ## The order of dates

The year of a day is the one whose days enclose it, and later years begin later.  Within a year, spans
split the days in their order.
-/

namespace Calendar

/-- The first date is before the second. -/
def Date.Before (a b : Date) : Prop :=
  a.year < b.year ∨ a.year = b.year ∧ (a.month < b.month ∨ a.month = b.month ∧ a.day < b.day)

variable {year year' d d' : Int} {lengths : List Nat} {day day' : Nat}

/-! ### Years -/

theorem daysBeforeYear_mono (h : year ≤ year') : daysBeforeYear year ≤ daysBeforeYear year' := by
  unfold daysBeforeYear
  omega

theorem daysBeforeYear_succ (year : Int) :
    daysBeforeYear (year + 1) = daysBeforeYear year + ((monthLengths (isLeap year)).sum : Nat) := by
  have hlength (leap : Bool) : (monthLengths leap).sum = if leap then 366 else 365 := by
    cases leap <;> rfl
  rw [hlength]
  by_cases hleap : isLeap year = true
  · rw [if_pos hleap]
    simp only [isLeap, Bool.and_eq_true, Bool.or_eq_true, decide_eq_true_eq, bne_iff_ne] at hleap
    unfold daysBeforeYear
    omega
  · rw [if_neg hleap]
    simp only [isLeap, Bool.and_eq_true, Bool.or_eq_true, decide_eq_true_eq, bne_iff_ne] at hleap
    unfold daysBeforeYear
    omega

/-- The average length of a year finds the year of a day up to one. -/
theorem guess_spec (d : Int) :
    daysBeforeYear (d * 400 / 146097 - 1) ≤ d ∧ d < daysBeforeYear (d * 400 / 146097 + 1 + 1) := by
  unfold daysBeforeYear
  omega

/-- The year of a day begins on this day or before it, and the next one begins behind it. -/
theorem yearOfDay_spec (d : Int) :
    daysBeforeYear (yearOfDay d) ≤ d ∧ d < daysBeforeYear (yearOfDay d + 1) := by
  obtain ⟨hbefore, hbehind⟩ := guess_spec d
  rw [yearOfDay]
  by_cases hnext : daysBeforeYear (d * 400 / 146097 + 1) ≤ d
  · rw [if_pos hnext]
    exact ⟨hnext, hbehind⟩
  · rw [if_neg hnext]
    by_cases hlast : d < daysBeforeYear (d * 400 / 146097)
    · rw [if_pos hlast, Int.sub_add_cancel]
      exact ⟨hbefore, hlast⟩
    · rw [if_neg hlast]
      exact ⟨Int.not_lt.mp hlast, Int.not_le.mp hnext⟩

theorem yearOfDay_mono (h : d ≤ d') : yearOfDay d ≤ yearOfDay d' := by
  by_contra hlater
  have hyears : daysBeforeYear (yearOfDay d' + 1) ≤ daysBeforeYear (yearOfDay d) :=
    daysBeforeYear_mono (by omega)
  have hfirst := (yearOfDay_spec d).1
  have hsecond := (yearOfDay_spec d').2
  omega

/-! ### Spans -/

theorem splitDay_lt (hday : day < lengths.sum) {bound : Nat}
    (hlengths : ∀ length ∈ lengths, length ≤ bound) :
    (splitDay lengths day).1 < lengths.length ∧ (splitDay lengths day).2 < bound := by
  induction lengths generalizing day with
  | nil => cases hday
  | cons length lengths ih =>
      obtain ⟨hlength, hrest⟩ := List.forall_mem_cons.mp hlengths
      rw [List.sum_cons] at hday
      rw [splitDay]
      split
      · exact ⟨Nat.succ_pos _, by omega⟩
      · have hleft : day - length < lengths.sum := by omega
        obtain ⟨hspan, hpassed⟩ := ih hleft hrest
        exact ⟨Nat.succ_lt_succ hspan, hpassed⟩

theorem splitDay_before (lengths : List Nat) (h : day < day') :
    (splitDay lengths day).1 < (splitDay lengths day').1 ∨
      (splitDay lengths day).1 = (splitDay lengths day').1 ∧
        (splitDay lengths day).2 < (splitDay lengths day').2 := by
  induction lengths generalizing day day' with
  | nil => exact Or.inr ⟨rfl, h⟩
  | cons length lengths ih =>
      rw [splitDay, splitDay]
      by_cases hday : day < length
      · rw [if_pos hday]
        by_cases hday' : day' < length
        · rw [if_pos hday']
          exact Or.inr ⟨rfl, h⟩
        · rw [if_neg hday']
          exact Or.inl (Nat.succ_pos _)
      · rw [if_neg hday, if_neg (by omega)]
        have hleft : day - length < day' - length := by omega
        rcases ih hleft with hspan | ⟨hspan, hpassed⟩
        · exact Or.inl (Nat.succ_lt_succ hspan)
        · exact Or.inr ⟨congrArg Nat.succ hspan, hpassed⟩

/-! ### Dates -/

/-- The days of its year in front of a day are fewer than the year has. -/
theorem dayOfYear_lt (d : Int) :
    (d - daysBeforeYear (yearOfDay d)).toNat < (monthLengths (isLeap (yearOfDay d))).sum := by
  have hspec := yearOfDay_spec d
  rw [daysBeforeYear_succ] at hspec
  omega

theorem dateOfDay_le (d : Int) : (dateOfDay d).month ≤ 12 ∧ (dateOfDay d).day ≤ 31 := by
  have hlengths (leap : Bool) : ∀ length ∈ monthLengths leap, length ≤ 31 := by
    cases leap <;> decide
  exact splitDay_lt (dayOfYear_lt d) (hlengths _)

theorem dateOfDay_before (h : d < d') : (dateOfDay d).Before (dateOfDay d') := by
  rcases Int.lt_or_eq_of_le (yearOfDay_mono (Int.le_of_lt h)) with hyear | hyear
  · exact Or.inl hyear
  · refine Or.inr ⟨hyear, ?_⟩
    have hfirst := (yearOfDay_spec d).1
    have hdays : (d - daysBeforeYear (yearOfDay d)).toNat <
        (d' - daysBeforeYear (yearOfDay d')).toNat := by
      rw [← hyear]
      omega
    have hsplit := splitDay_before (monthLengths (isLeap (yearOfDay d))) hdays
    simp only [dateOfDay, ← hyear] at hsplit ⊢
    omega

theorem dateOfDay_inj (h : dateOfDay d = dateOfDay d') : d = d' := by
  by_contra hne
  have hbefore : (dateOfDay d).Before (dateOfDay d) := by
    rcases Int.lt_or_gt_of_ne hne with hlt | hgt
    · have hdates := dateOfDay_before hlt
      rwa [← h] at hdates
    · have hdates := dateOfDay_before hgt
      rwa [← h] at hdates
  unfold Date.Before at hbefore
  omega

end Calendar

/-! ## The order of moments -/

namespace Moment

/-- The year of a moment in the calendar. -/
def year (t : Moment) : Int :=
  (Calendar.dateOfDay t.day).year

/-- Four digits are enough for the year. -/
def InFourDigits (t : Moment) : Prop :=
  0 ≤ t.year ∧ t.year ≤ 9999

instance (t : Moment) : Decidable t.InFourDigits :=
  inferInstanceAs (Decidable (_ ∧ _))

variable {a b : Moment} {n m second second' : Nat} {u v : List Char}

/-! ### Dates -/

theorem dateText_append_lt {first second : Calendar.Date}
    (hfirst : 0 ≤ first.year ∧ first.year ≤ 9999) (hsecond : 0 ≤ second.year ∧ second.year ≤ 9999)
    (hmonths : first.month < 100 ∧ second.month < 100) (hdays : first.day < 100 ∧ second.day < 100)
    (h : first.Before second) (u v : List Char) : dateText first ++ u < dateText second ++ v := by
  have hyear {date : Calendar.Date} (hdate : 0 ≤ date.year ∧ date.year ≤ 9999) :
      yearText date.year = Text.padded 4 date.year.natAbs := by
    rw [yearText, if_neg (not_lt.mpr hdate.1), if_pos hdate.2]
  simp only [dateText, hyear hfirst, hyear hsecond, List.append_assoc, List.cons_append]
  refine Text.column_append_lt (by decide) (by omega) (by omega) '-' ?_
  rcases h with hbefore | ⟨hsame, hbefore⟩
  · exact Or.inl (by omega)
  · refine Or.inr ⟨congrArg Int.natAbs hsame, ?_⟩
    refine Text.column_append_lt (by decide) hmonths.1 hmonths.2 '-' ?_
    rcases hbefore with hbefore | ⟨hsame, hbefore⟩
    · exact Or.inl hbefore
    · exact Or.inr ⟨hsame, Text.padded_append_lt (by decide) hdays.1 hdays.2 (Or.inl hbefore)⟩

/-- A year has a minus sign in writing exactly if it is negative. -/
theorem minus_mem_yearText_iff (year : Int) : '-' ∈ yearText year ↔ year < 0 := by
  have hpadded : '-' ∉ Text.padded 4 year.natAbs := Text.not_mem_padded rfl 4 _
  rw [yearText]
  split_ifs with hneg hfour
  · simp [hneg]
  · simp [hneg, hpadded]
  · simp [hneg, hpadded]

theorem filter_isDigit_yearText (year : Int) :
    (yearText year).filter Char.isDigit = Text.padded 4 year.natAbs := by
  have hpadded : (Text.padded 4 year.natAbs).filter Char.isDigit = Text.padded 4 year.natAbs :=
    List.filter_eq_self.mpr fun _ => Text.isDigit_of_mem_padded
  rw [yearText]
  split_ifs
  · rw [List.filter_cons_of_neg (by decide), hpadded]
  · exact hpadded
  · rw [List.filter_cons_of_neg (by decide), hpadded]

theorem yearText_inj {year year' : Int} (h : yearText year = yearText year') : year = year' := by
  have hdigits : Text.padded 4 year.natAbs = Text.padded 4 year'.natAbs := by
    rw [← filter_isDigit_yearText, h, filter_isDigit_yearText]
  have hsize := Text.padded_inj hdigits
  have hsign : year < 0 ↔ year' < 0 := by
    rw [← minus_mem_yearText_iff, h, minus_mem_yearText_iff]
  omega

theorem dateText_inj {first second : Calendar.Date} (h : dateText first = dateText second) :
    first = second := by
  have hminus (n : Nat) : '-' ∉ Text.padded 2 n := Text.not_mem_padded rfl 2 n
  obtain ⟨hmonths, hdays⟩ := Text.append_cons_inj_right (hminus _) (hminus _) h
  obtain ⟨hyears, hmonths⟩ := Text.append_cons_inj_right (hminus _) (hminus _) hmonths
  rw [Calendar.Date.mk.injEq]
  exact ⟨yearText_inj hyears, Text.padded_inj hmonths, Text.padded_inj hdays⟩

/-! ### Fractions -/

theorem units_padded {width : Nat} (hn : n < 10 ^ width) (hwidth : 0 < width) (hle : width ≤ 9) :
    (Text.padded width n).length ≤ 9 ∧
      Text.units 9 (Text.padded width n) = n * 10 ^ (9 - width) := by
  have hlength := Text.length_padded hwidth hn
  rw [Text.units, Text.valueOfDigits_padded, hlength]
  exact ⟨hle, rfl⟩

/-- A fraction in writing is a point and at most nine places that denote it. -/
theorem exists_fractionText (hpos : 0 < n) (hn : n < 1000000000) :
    ∃ ds, fractionText n = '.' :: ds ∧ (∀ d ∈ ds, d.isDigit = true) ∧ ds.length ≤ 9 ∧
      Text.units 9 ds = n := by
  rw [fractionText, if_neg (Nat.ne_of_gt hpos)]
  split
  · have hmillis : n / 1000000 < 10 ^ 3 := by omega
    obtain ⟨hlength, hunits⟩ := units_padded hmillis (by decide) (by decide)
    exact ⟨_, rfl, fun _ => Text.isDigit_of_mem_padded, hlength, by omega⟩
  · split
    · have hmicros : n / 1000 < 10 ^ 6 := by omega
      obtain ⟨hlength, hunits⟩ := units_padded hmicros (by decide) (by decide)
      exact ⟨_, rfl, fun _ => Text.isDigit_of_mem_padded, hlength, by omega⟩
    · have hnanos : n < 10 ^ 9 := by omega
      obtain ⟨hlength, hunits⟩ := units_padded hnanos (by decide) (by decide)
      exact ⟨_, rfl, fun _ => Text.isDigit_of_mem_padded, hlength, by omega⟩

/-- The smaller of two fractions goes first, whatever their numbers of places. -/
theorem fractionText_append_lt (hm : m < 1000000000) (h : n < m) (u v : List Char) :
    fractionText n ++ '+' :: u < fractionText m ++ '+' :: v := by
  obtain ⟨ds, hds, hdigits, hlength, hunits⟩ := exists_fractionText (Nat.zero_lt_of_lt h) hm
  rw [hds, List.cons_append]
  by_cases hzero : n = 0
  · rw [hzero, fractionText, if_pos rfl, List.nil_append, List.cons_lt_cons_iff]
    exact Or.inl (by decide)
  · obtain ⟨cs, hcs, hdigits', hlength', hunits'⟩ :=
      exists_fractionText (Nat.pos_of_ne_zero hzero) (h.trans hm)
    rw [hcs, List.cons_append, List.cons_lt_cons_iff]
    refine Or.inr ⟨rfl, Text.places_append_lt (by decide) hdigits' hdigits hlength' hlength ?_ u v⟩
    rwa [hunits, hunits']

/-! ### Times of day -/

/-- A second of a day and the nanoseconds passed in it, which go on beyond a thousand million only
at the end of a minute. -/
structure OfDay (second n : Nat) : Prop where
  second_lt : second < 86400
  nanos_lt : n < 2000000000
  leap_at_end : 1000000000 ≤ n → second % 60 = 59

theorem timeText_append_lt (hfirst : OfDay second n) (hsecond : OfDay second' m)
    (h : second < second' ∨ second = second' ∧ n < m) (u v : List Char) :
    timeText second n ++ '+' :: u < timeText second' m ++ '+' :: v := by
  obtain ⟨hlt, hn, hleap⟩ := hfirst
  obtain ⟨hlt', hm, hleap'⟩ := hsecond
  have hhours : second / 3600 < second' / 3600 ∨ second / 3600 = second' / 3600 ∧
      (second / 60 < second' / 60 ∨ second / 60 = second' / 60 ∧
        (second % 60 + n / 1000000000 < second' % 60 + m / 1000000000 ∨
          second % 60 + n / 1000000000 = second' % 60 + m / 1000000000 ∧
            n % 1000000000 < m % 1000000000)) := by
    omega
  simp only [timeText, List.append_assoc, List.cons_append]
  refine Text.column_append_lt (by decide) (by omega) (by omega) ':' ?_
  rcases hhours with hbefore | ⟨hsame, hminutes⟩
  · exact Or.inl hbefore
  · refine Or.inr ⟨hsame, Text.column_append_lt (by decide) (by omega) (by omega) ':' ?_⟩
    rcases hminutes with hbefore | ⟨hsame, hseconds⟩
    · exact Or.inl (by omega)
    · refine Or.inr ⟨by rw [hsame], Text.padded_append_lt (by decide) (by omega) (by omega) ?_⟩
      refine hseconds.imp_right fun hfractions => ⟨hfractions.1, ?_⟩
      exact fractionText_append_lt (Nat.mod_lt _ (by decide)) hfractions.2 u v

theorem timeText_inj (hfirst : OfDay second n) (hsecond : OfDay second' m)
    (h : timeText second n = timeText second' m) : second = second' ∧ n = m := by
  by_contra hne
  have hbefore : (second < second' ∨ second = second' ∧ n < m) ∨
      (second' < second ∨ second' = second ∧ m < n) := by
    omega
  rcases hbefore with hlt | hgt
  · have htexts := timeText_append_lt hfirst hsecond hlt [] []
    rw [h] at htexts
    exact List.lt_irrefl _ htexts
  · have htexts := timeText_append_lt hsecond hfirst hgt [] []
    rw [h] at htexts
    exact List.lt_irrefl _ htexts

/-! ### Moments -/

theorem Regular.ofDay {t : Moment} (h : t.Regular) : OfDay t.secondOfDay t.nanos where
  second_lt := by
    rw [secondOfDay]
    omega
  nanos_lt := t.nanos_lt
  leap_at_end hleap := by
    have hend := h hleap
    rw [secondOfDay]
    omega

theorem text_lt (ha : a.Regular) (hb : b.Regular) (hyear : a.InFourDigits)
    (hyear' : b.InFourDigits) (h : a < b) : a.text < b.text := by
  have hday : a.day < b.day ∨ a.day = b.day ∧ (a.secondOfDay < b.secondOfDay ∨
      a.secondOfDay = b.secondOfDay ∧ a.nanos < b.nanos) := by
    change a.seconds < b.seconds ∨ a.seconds = b.seconds ∧ a.nanos < b.nanos at h
    unfold day secondOfDay
    omega
  rw [String.lt_iff, text, text, String.toList_ofList, String.toList_ofList]
  simp only [localText, List.append_assoc, List.cons_append]
  rcases hday with hbefore | ⟨hsame, htime⟩
  · obtain ⟨hmonth, hday⟩ := Calendar.dateOfDay_le a.day
    obtain ⟨hmonth', hday'⟩ := Calendar.dateOfDay_le b.day
    exact dateText_append_lt hyear hyear' ⟨by omega, by omega⟩ ⟨by omega, by omega⟩
      (Calendar.dateOfDay_before hbefore) _ _
  · rw [hsame]
    refine List.append_left_lt (List.cons_lt_cons_iff.mpr (Or.inr ⟨rfl, ?_⟩))
    exact timeText_append_lt ha.ofDay hb.ofDay htime _ _

theorem lt_or_eq_or_lt (a b : Moment) : a < b ∨ a = b ∨ b < a := by
  change (a.seconds < b.seconds ∨ a.seconds = b.seconds ∧ a.nanos < b.nanos) ∨ a = b ∨
    (b.seconds < a.seconds ∨ b.seconds = a.seconds ∧ b.nanos < a.nanos)
  rw [Moment.mk.injEq]
  omega

/-- **The order of moments in writing.**  From the year 0 to the year 9999 it is the order of
regular moments. -/
theorem text_lt_iff (ha : a.Regular) (hb : b.Regular) (hyear : a.InFourDigits)
    (hyear' : b.InFourDigits) : a.text < b.text ↔ a < b := by
  refine ⟨fun h => ?_, text_lt ha hb hyear hyear'⟩
  rcases lt_or_eq_or_lt a b with hlt | rfl | hgt
  · exact hlt
  · exact absurd h (String.lt_irrefl _)
  · exact absurd (text_lt hb ha hyear' hyear hgt) (String.lt_asymm h)

/-- Different regular moments are written differently, whatever their years. -/
theorem Regular.text_inj (ha : a.Regular) (hb : b.Regular) : a.text = b.text ↔ a = b := by
  refine ⟨fun h => ?_, congrArg text⟩
  have hlocal : a.localText = b.localText := List.append_cancel_right (String.ofList_injective h)
  have hletter (date : Calendar.Date) : 'T' ∉ dateText date :=
    not_mem_dateText rfl (by decide) (by decide) date
  obtain ⟨hdates, htimes⟩ := Text.append_cons_inj_left (hletter _) (hletter _) hlocal
  have hday : a.day = b.day := Calendar.dateOfDay_inj (dateText_inj hdates)
  obtain ⟨hsecond, hnanos⟩ := timeText_inj ha.ofDay hb.ofDay htimes
  rw [Moment.mk.injEq]
  unfold day secondOfDay at *
  omega

/-! ### Leap seconds that are not the last of a minute -/

/-- The regular moment that is written like this one: a leap second that is not the last of its
minute is written as a part of the next second. -/
def asWritten (t : Moment) : Moment :=
  if 1000000000 ≤ t.nanos ∧ t.seconds % 60 ≠ 59 then
    ⟨t.seconds + 1, t.nanos - 1000000000, by have hlt := t.nanos_lt; omega⟩
  else t

theorem regular_asWritten (t : Moment) : t.asWritten.Regular := by
  have hlt := t.nanos_lt
  rw [Regular, asWritten]
  split_ifs <;> grind

theorem Regular.asWritten_eq {t : Moment} (h : t.Regular) : t.asWritten = t := by
  rw [asWritten, if_neg]
  rintro ⟨hleap, hend⟩
  exact hend (h hleap)

theorem text_asWritten (t : Moment) : t.asWritten.text = t.text := by
  rw [asWritten]
  split_ifs with h
  · obtain ⟨hleap, hend⟩ := h
    have hlt := t.nanos_lt
    have hday : (t.seconds + 1) / 86400 = t.seconds / 86400 := by omega
    have hsecond : ((t.seconds + 1) % 86400).toNat = (t.seconds % 86400).toNat + 1 := by omega
    have hhours : ((t.seconds % 86400).toNat + 1) / 3600 = (t.seconds % 86400).toNat / 3600 := by
      omega
    have hminutes : ((t.seconds % 86400).toNat + 1) / 60 = (t.seconds % 86400).toNat / 60 := by
      omega
    have hseconds : ((t.seconds % 86400).toNat + 1) % 60 + (t.nanos - 1000000000) / 1000000000 =
        (t.seconds % 86400).toNat % 60 + t.nanos / 1000000000 := by
      omega
    have hnanos : (t.nanos - 1000000000) % 1000000000 = t.nanos % 1000000000 := by omega
    simp only [text, localText, day, secondOfDay, timeText, hday, hsecond, hhours, hminutes,
      hseconds, hnanos]
  · rfl

/-- **Moments in writing.**  Moments with the same text are written for the same regular moment. -/
theorem text_eq_iff : a.text = b.text ↔ a.asWritten = b.asWritten := by
  rw [← text_asWritten a, ← text_asWritten b]
  exact (regular_asWritten a).text_inj (regular_asWritten b)

/-! ### Bytes -/

theorem ascii_text (t : Moment) : Text.Ascii t.text.toList := by
  intro c hc
  by_contra hwide
  have hdigit : c.isDigit = false := by
    rw [Bool.eq_false_iff]
    intro hdigit
    have hle : c.toNat ≤ 57 := (Char.isDigit_iff_toNat.mp hdigit).2
    omega
  have hmarks : ∀ mark ∈ ['-', '+', '.', ':', 'T'], mark.toNat < 128 := by
    intro mark hmark
    simp only [List.mem_cons, List.not_mem_nil, or_false] at hmark
    rcases hmark with rfl | rfl | rfl | rfl | rfl <;> decide
  exact t.not_mem_text hdigit (fun hmark => hwide (hmarks c hmark)) hc

/-- The bytes of moments in writing have the order of the texts. -/
theorem bytes_text_lt_iff (a b : Moment) :
    Text.bytes a.text < Text.bytes b.text ↔ a.text < b.text :=
  Text.bytes_lt_iff a.ascii_text b.ascii_text

end Moment

end Arrears
