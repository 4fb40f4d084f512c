import Arrears.Basic
import Mathlib.Data.List.DropRight

/-!
# Stretches, trimming and words

A list is cut at the elements that satisfy a predicate, as a text is cut at blanks into words and
at line feeds into lines.  No piece has a separator inside, and a piece that is followed by one is
cut off as it is.
-/

namespace Arrears
namespace Text

section Stretches

variable {α : Type} {p : α → Bool} {xs : List α}

theorem dropWhile_of_head (h : ∀ x ∈ xs.head?, p x = false) : xs.dropWhile p = xs := by
  cases xs with
  | nil => rfl
  | cons x xs => exact List.dropWhile_cons_of_neg (by simp [h x rfl])

theorem takeWhile_of_head (h : ∀ x ∈ xs.head?, p x = false) : xs.takeWhile p = [] := by
  cases xs with
  | nil => rfl
  | cons x xs => exact List.takeWhile_cons_of_neg (by simp [h x rfl])

theorem stretches_ne_nil (p : α → Bool) (xs : List α) : stretches p xs ≠ [] := by
  cases xs with
  | nil => simp [stretches]
  | cons x xs =>
      rw [stretches]
      split
      · simp
      · split <;> simp

theorem stretches_cons_of_separator {x : α} (h : p x = true) (xs : List α) :
    stretches p (x :: xs) = [] :: stretches p xs := by
  rw [stretches, if_pos h]

/-- The first stretch goes on through an element that is no separator. -/
theorem exists_stretches_cons {x : α} (h : p x = false) (xs : List α) :
    ∃ first others, stretches p xs = first :: others ∧
      stretches p (x :: xs) = (x :: first) :: others := by
  obtain ⟨first, others, hxs⟩ := List.exists_cons_of_ne_nil (stretches_ne_nil p xs)
  refine ⟨first, others, hxs, ?_⟩
  rw [stretches, if_neg (by simp [h]), hxs]

theorem stretches_append_cons (h : ∀ x ∈ xs, p x = false) {y : α} (hy : p y = true)
    (rest : List α) : stretches p (xs ++ y :: rest) = xs :: stretches p rest := by
  induction xs with
  | nil => exact stretches_cons_of_separator hy rest
  | cons x xs ih =>
      obtain ⟨hx, hxs⟩ := List.forall_mem_cons.mp h
      obtain ⟨first, others, hrest, hcons⟩ := exists_stretches_cons hx (xs ++ y :: rest)
      rw [ih hxs] at hrest
      obtain ⟨rfl, rfl⟩ := List.cons.inj hrest
      exact hcons

theorem stretches_of_forall (h : ∀ x ∈ xs, p x = false) : stretches p xs = [xs] := by
  induction xs with
  | nil => rfl
  | cons x xs ih =>
      obtain ⟨hx, hxs⟩ := List.forall_mem_cons.mp h
      rw [stretches, if_neg (by simp [hx]), ih hxs]

theorem not_separator_of_not_mem [DecidableEq α] {x : α} (h : x ∉ xs) :
    ∀ y ∈ xs, decide (y = x) = false := by
  intro y hy
  simpa using fun heq : y = x => h (heq ▸ hy)

theorem append_cons_inj_left [DecidableEq α] {x : α} {ys front back : List α} (hxs : x ∉ xs)
    (hfront : x ∉ front) (h : xs ++ x :: ys = front ++ x :: back) : xs = front ∧ ys = back := by
  have hcut := congrArg (stretches fun y => decide (y = x)) h
  rw [stretches_append_cons (not_separator_of_not_mem hxs) (decide_eq_true rfl),
    stretches_append_cons (not_separator_of_not_mem hfront) (decide_eq_true rfl)] at hcut
  obtain rfl := (List.cons.inj hcut).1
  exact ⟨rfl, (List.cons.inj (List.append_cancel_left h)).2⟩

theorem append_cons_inj_right [DecidableEq α] {x : α} {ys front back : List α} (hys : x ∉ ys)
    (hback : x ∉ back) (h : xs ++ x :: ys = front ++ x :: back) : xs = front ∧ ys = back := by
  have hreverse : ys.reverse ++ x :: xs.reverse = back.reverse ++ x :: front.reverse := by
    simpa using congrArg List.reverse h
  obtain ⟨hys', hxs'⟩ := append_cons_inj_left (by simpa using hys) (by simpa using hback) hreverse
  exact ⟨List.reverse_inj.mp hxs', List.reverse_inj.mp hys'⟩

theorem not_of_mem_stretches {piece : List α} (h : piece ∈ stretches p xs) :
    ∀ x ∈ piece, p x = false := by
  induction xs generalizing piece with
  | nil =>
      rw [stretches, List.mem_singleton] at h
      simp [h]
  | cons x xs ih =>
      cases hx : p x with
      | true =>
          rw [stretches_cons_of_separator hx, List.mem_cons] at h
          rcases h with rfl | h
          · simp
          · exact ih h
      | false =>
          obtain ⟨first, others, hxs, hcons⟩ := exists_stretches_cons hx xs
          rw [hcons, List.mem_cons] at h
          rw [hxs] at ih
          rcases h with rfl | h
          · exact List.forall_mem_cons.mpr ⟨hx, ih List.mem_cons_self⟩
          · exact ih (List.mem_cons_of_mem _ h)

end Stretches

theorem not_isBlank_of_mem_words {word s : String} (h : word ∈ words s) :
    ∀ c ∈ word.toList, isBlank c = false := by
  obtain ⟨cs, hcs, rfl⟩ := List.mem_map.mp h
  rw [String.toList_ofList]
  exact not_of_mem_stretches (List.mem_filter.mp hcs).1

end Text

/-! ## Trimmed texts

Trimming takes blanks off both ends of a text, and all of them.
-/

namespace Text

/-- A text with no blank at either end. -/
structure IsTrimmed (cs : List Char) : Prop where
  head : ∀ c ∈ cs.head?, isBlank c = false
  last : ∀ c ∈ cs.getLast?, isBlank c = false

theorem isTrimmed_of_forall {cs : List Char} (h : ∀ c ∈ cs, isBlank c = false) :
    IsTrimmed cs where
  head c hc := h c (List.mem_of_mem_head? hc)
  last c hc := h c (List.mem_of_mem_getLast? hc)

theorem isBlank_of_isDigit {c : Char} (h : c.isDigit = true) : isBlank c = false := by
  have hcode : 48 ≤ c.toNat ∧ c.toNat ≤ 57 := Char.isDigit_iff_toNat.mp h
  simp only [isBlank, blankRanges, List.any_cons, List.any_nil, Bool.or_false, Bool.or_eq_false_iff,
    Bool.and_eq_false_iff, decide_eq_false_iff_not]
  omega

theorem trimEnd_eq_rdropWhile (cs : List Char) : trimEnd cs = cs.rdropWhile isBlank :=
  rfl

theorem exists_blanks (cs : List Char) :
    ∃ front back, cs = front ++ trimmed cs ++ back ∧ (∀ c ∈ front, isBlank c = true) ∧
      ∀ c ∈ back, isBlank c = true := by
  have hstart : cs.takeWhile isBlank ++ trimStart cs = cs := List.takeWhile_append_dropWhile
  have hend : trimmed cs ++ (trimStart cs).rtakeWhile isBlank = trimStart cs :=
    List.rdropWhile_append_rtakeWhile
  refine ⟨cs.takeWhile isBlank, (trimStart cs).rtakeWhile isBlank, ?_, ?_, ?_⟩
  · rw [List.append_assoc, hend, hstart]
  · exact fun c hc => List.mem_takeWhile_imp hc
  · exact fun c hc => List.mem_rtakeWhile_imp hc

theorem mem_of_mem_trimmed {c : Char} {cs : List Char} (h : c ∈ trimmed cs) : c ∈ cs := by
  obtain ⟨front, back, hcs, -, -⟩ := exists_blanks cs
  rw [hcs]
  exact List.mem_append_left _ (List.mem_append_right _ h)

theorem isTrimmed_trimmed (cs : List Char) : IsTrimmed (trimmed cs) where
  head := by
    intro c hc
    have hprefix : trimmed cs <+: trimStart cs := List.rdropWhile_prefix isBlank _
    have hfirst : (trimStart cs).head? = some c := by
      obtain ⟨back, hback⟩ := hprefix
      rw [← hback, List.head?_append, hc, Option.some_or]
    have hstop := List.head?_dropWhile_not isBlank cs
    rw [trimStart] at hfirst
    rw [hfirst] at hstop
    simpa using hstop
  last := by
    intro c hc
    have hne : (trimStart cs).rdropWhile isBlank ≠ [] := by
      intro hnil
      rw [trimmed, trimEnd_eq_rdropWhile, hnil] at hc
      cases hc
    have hstop := List.rdropWhile_last_not isBlank (trimStart cs) hne
    rw [trimmed, trimEnd_eq_rdropWhile, List.getLast?_eq_some_getLast hne] at hc
    rw [← Option.some.inj hc]
    simpa using hstop

theorem trimmed_blanks {front cs back : List Char} (hfront : ∀ c ∈ front, isBlank c = true)
    (hcs : IsTrimmed cs) (hback : ∀ c ∈ back, isBlank c = true) :
    trimmed (front ++ cs ++ back) = cs := by
  have hstart : trimStart (front ++ cs ++ back) = trimStart (cs ++ back) := by
    rw [List.append_assoc]
    exact List.dropWhile_append_of_pos hfront
  rw [trimmed, hstart]
  cases cs with
  | nil =>
      have hnone : trimStart back = [] := List.dropWhile_eq_nil_iff.mpr hback
      rw [List.nil_append, hnone]
      rfl
  | cons c cs =>
      have hfirst : trimStart (c :: cs ++ back) = c :: cs ++ back :=
        List.dropWhile_cons_of_neg (by simp [hcs.head c rfl])
      have hend : (c :: cs).rdropWhile isBlank = c :: cs := by
        rw [List.rdropWhile_eq_self_iff]
        intro hne
        simp [hcs.last _ (List.getLast?_eq_some_getLast hne)]
      rw [hfirst, trimEnd, List.reverse_append,
        List.dropWhile_append_of_pos fun c hc => hback c (List.mem_reverse.mp hc)]
      exact hend

theorem trimmed_append_blanks {back : List Char} (h : ∀ c ∈ back, isBlank c = true)
    (cs : List Char) : trimmed (cs ++ back) = trimmed cs := by
  obtain ⟨front, rear, hcs, hfront, hrear⟩ := exists_blanks cs
  have hblank : ∀ c ∈ rear ++ back, isBlank c = true := List.forall_mem_append.mpr ⟨hrear, h⟩
  conv_lhs => rw [hcs, List.append_assoc, trimmed_blanks hfront (isTrimmed_trimmed cs) hblank]

theorem toList_trim (s : String) : (trim s).toList = trimmed s.toList := by
  rw [trim, String.toList_ofList]

end Text

/-! ## Words of a trimmed text

Separators at the ends of a list only cut off empty pieces.  So a text has the same words before and
after trimming.
-/

namespace Text

section Separators

variable {α : Type} {p : α → Bool} {front back : List α}

theorem stretches_separators_append (h : ∀ x ∈ front, p x = true) (xs : List α) :
    stretches p (front ++ xs) = List.replicate front.length [] ++ stretches p xs := by
  induction front with
  | nil => rfl
  | cons x front ih =>
      obtain ⟨hx, hfront⟩ := List.forall_mem_cons.mp h
      rw [List.cons_append, stretches_cons_of_separator hx, ih hfront]
      rfl

theorem stretches_append_separators (h : ∀ x ∈ back, p x = true) (xs : List α) :
    stretches p (xs ++ back) = stretches p xs ++ List.replicate back.length [] := by
  induction xs with
  | nil =>
      have hback := stretches_separators_append h []
      rw [List.append_nil, stretches, ← List.replicate_succ'] at hback
      exact hback
  | cons x xs ih =>
      cases hx : p x with
      | true =>
          rw [List.cons_append, stretches_cons_of_separator hx, stretches_cons_of_separator hx, ih]
          rfl
      | false =>
          obtain ⟨first, others, hxs, hcons⟩ := exists_stretches_cons hx xs
          obtain ⟨first', others', hboth, hcons'⟩ := exists_stretches_cons hx (xs ++ back)
          rw [hxs, hboth] at ih
          obtain ⟨rfl, rfl⟩ := List.cons.inj ih
          rw [List.cons_append, hcons', hcons]
          rfl

end Separators

variable {front back : List Char} {word s : String}

theorem wordsOf_blanks_append (h : ∀ c ∈ front, isBlank c = true) (cs : List Char) :
    wordsOf (front ++ cs) = wordsOf cs := by
  rw [wordsOf, stretches_separators_append h, List.filter_append, List.filter_replicate]
  rfl

theorem wordsOf_append_blanks (h : ∀ c ∈ back, isBlank c = true) (cs : List Char) :
    wordsOf (cs ++ back) = wordsOf cs := by
  rw [wordsOf, stretches_append_separators h, List.filter_append, List.filter_replicate]
  exact List.append_nil _

theorem wordsOf_trimmed (cs : List Char) : wordsOf (trimmed cs) = wordsOf cs := by
  obtain ⟨front, back, hcs, hfront, hback⟩ := exists_blanks cs
  conv_rhs => rw [hcs]
  rw [List.append_assoc, wordsOf_blanks_append hfront, wordsOf_append_blanks hback]

/-! ### Words -/

theorem exists_wordsOf_cons {c : Char} (h : isBlank c = false) (cs : List Char) :
    ∃ first others, wordsOf (c :: cs) = (c :: first) :: others := by
  obtain ⟨first, others, -, hcons⟩ := exists_stretches_cons h cs
  refine ⟨first, others.filter fun word => !word.isEmpty, ?_⟩
  rw [wordsOf, hcons]
  rfl

theorem ne_empty_of_mem_words (h : word ∈ words s) : word ≠ "" := by
  obtain ⟨cs, hcs, rfl⟩ := List.mem_map.mp h
  have hne : cs ≠ [] := by simpa using (List.mem_filter.mp hcs).2
  simpa using hne

theorem trim_of_mem_words (h : word ∈ words s) : trim word = word := by
  obtain ⟨front, back, hword, hfront, hback⟩ := exists_blanks word.toList
  have hnone (cs : List Char) (hblank : ∀ c ∈ cs, isBlank c = true)
      (hcs : ∀ c ∈ cs, c ∈ word.toList) : cs = [] := by
    refine List.eq_nil_iff_forall_not_mem.mpr fun c hc => ?_
    have hword := not_isBlank_of_mem_words h c (hcs c hc)
    rw [hblank c hc] at hword
    cases hword
  have hfront' : front = [] := hnone front hfront fun c hc => by
    rw [hword]
    simp [hc]
  have hback' : back = [] := hnone back hback fun c hc => by
    rw [hword]
    simp [hc]
  rw [hfront', hback', List.nil_append, List.append_nil] at hword
  rw [trim, ← hword, String.ofList_toList]

end Text

/-! ## Words in a row

Words are laid out in a text if they stand there in their order, with blanks between them and perhaps
around them.  The words of a text are the only ones that are laid out in it.
-/

namespace Text

/-- The words stand in the text in this order, with blanks between them and perhaps around them. -/
inductive LaidOut : List (List Char) → List Char → Prop
  | blanks {back : List Char} (hback : ∀ c ∈ back, isBlank c = true) : LaidOut [] back
  | word {front word rest : List Char} {words : List (List Char)}
      (hfront : ∀ c ∈ front, isBlank c = true) (hgap : ∀ c ∈ rest.head?, isBlank c = true)
      (hrest : LaidOut words rest) : LaidOut (word :: words) (front ++ word ++ rest)

/-- One or more characters, none of them blank. -/
structure IsWord (word : List Char) : Prop where
  ne_nil : word ≠ []
  not_blank : ∀ c ∈ word, isBlank c = false

instance (word : List Char) : Decidable (IsWord word) :=
  decidable_of_iff (word ≠ [] ∧ (word.all fun c => !isBlank c) = true)
    ⟨fun h => ⟨h.1, by simpa using h.2⟩, fun h => ⟨h.ne_nil, by simpa using h.not_blank⟩⟩

variable {cs word rest : List Char} {words : List (List Char)}

theorem isWord_of_mem_wordsOf (h : word ∈ wordsOf cs) : IsWord word where
  ne_nil := by simpa using (List.mem_filter.mp h).2
  not_blank := not_of_mem_stretches (List.mem_filter.mp h).1

theorem wordsOf_blanks (h : ∀ c ∈ cs, isBlank c = true) : wordsOf cs = [] := by
  have hnone := wordsOf_append_blanks h []
  rwa [List.nil_append] at hnone

theorem wordsOf_word_blank (hword : IsWord word) {c : Char} (hc : isBlank c = true)
    (rest : List Char) : wordsOf (word ++ c :: rest) = word :: wordsOf rest := by
  rw [wordsOf, stretches_append_cons hword.not_blank hc,
    List.filter_cons_of_pos (by simpa using hword.ne_nil)]
  rfl

theorem wordsOf_word_append (hword : IsWord word) (hgap : ∀ c ∈ rest.head?, isBlank c = true) :
    wordsOf (word ++ rest) = word :: wordsOf rest := by
  cases rest with
  | nil =>
      have hspace : ∀ c ∈ [' '], isBlank c = true := List.forall_mem_singleton.mpr rfl
      rw [List.append_nil, ← wordsOf_append_blanks hspace word, wordsOf_word_blank hword rfl]
  | cons c rest =>
      have hc : isBlank c = true := hgap c rfl
      have hfirst := wordsOf_blanks_append (List.forall_mem_singleton.mpr hc) rest
      rw [List.singleton_append] at hfirst
      rw [wordsOf_word_blank hword hc, hfirst]

theorem LaidOut.wordsOf_eq (h : LaidOut words cs) (hwords : ∀ word ∈ words, IsWord word) :
    wordsOf cs = words := by
  induction h with
  | blanks hback => exact wordsOf_blanks hback
  | word hfront hgap _ ih =>
      obtain ⟨hword, hothers⟩ := List.forall_mem_cons.mp hwords
      rw [List.append_assoc, wordsOf_blanks_append hfront, wordsOf_word_append hword hgap,
        ih hothers]

/-- A text is blank, or its first word stands behind blanks and in front of a blank or the end. -/
theorem blank_or_exists_word (cs : List Char) :
    (∀ c ∈ cs, isBlank c = true) ∨
      ∃ front word rest, cs = front ++ word ++ rest ∧ (∀ c ∈ front, isBlank c = true) ∧
        IsWord word ∧ ∀ c ∈ rest.head?, isBlank c = true := by
  have hfront : cs.takeWhile isBlank ++ cs.dropWhile isBlank = cs :=
    List.takeWhile_append_dropWhile
  cases hdrop : cs.dropWhile isBlank with
  | nil => exact Or.inl (List.dropWhile_eq_nil_iff.mp hdrop)
  | cons c tail =>
      have hc : isBlank c = false := by
        have hstop := List.head?_dropWhile_not isBlank cs
        rw [hdrop] at hstop
        simpa using hstop
      have hsplit : (c :: tail).takeWhile (!isBlank ·) ++ (c :: tail).dropWhile (!isBlank ·) =
          c :: tail :=
        List.takeWhile_append_dropWhile
      refine Or.inr ⟨cs.takeWhile isBlank, (c :: tail).takeWhile (!isBlank ·),
        (c :: tail).dropWhile (!isBlank ·), ?_, fun c hc => List.mem_takeWhile_imp hc, ⟨?_, ?_⟩, ?_⟩
      · rw [List.append_assoc, hsplit, ← hdrop, hfront]
      · simp [hc]
      · exact fun c hc => by simpa using List.mem_takeWhile_imp hc
      · intro d hd
        have hstop := List.head?_dropWhile_not (!isBlank ·) (c :: tail)
        rw [hd] at hstop
        simpa using hstop

theorem laidOut_wordsOf (cs : List Char) : LaidOut (wordsOf cs) cs := by
  induction hlength : cs.length using Nat.strong_induction_on generalizing cs with
  | _ n ih =>
      rcases blank_or_exists_word cs with hblank | ⟨front, word, rest, rfl, hfront, hword, hgap⟩
      · rw [wordsOf_blanks hblank]
        exact .blanks hblank
      · have hshorter : rest.length < n := by
          have hpos := List.length_pos_iff.mpr hword.ne_nil
          rw [← hlength, List.length_append, List.length_append]
          omega
        rw [List.append_assoc, wordsOf_blanks_append hfront, wordsOf_word_append hword hgap,
          ← List.append_assoc]
        exact .word hfront hgap (ih rest.length hshorter rest rfl)

/-- **The words of a text.**  They are the only words that are laid out in it. -/
theorem wordsOf_eq_iff :
    wordsOf cs = words ↔ LaidOut words cs ∧ ∀ word ∈ words, IsWord word := by
  constructor
  · rintro rfl
    exact ⟨laidOut_wordsOf cs, fun _ => isWord_of_mem_wordsOf⟩
  · exact fun h => h.1.wordsOf_eq h.2

theorem words_eq_iff {s : String} {words : List String} :
    Text.words s = words ↔ LaidOut (words.map String.toList) s.toList ∧
      ∀ word ∈ words, IsWord word.toList := by
  have hlists : Text.words s = words ↔ wordsOf s.toList = words.map String.toList := by
    rw [Text.words]
    constructor
    · rintro rfl
      simp
    · intro h
      rw [h]
      simp
  rw [hlists, wordsOf_eq_iff, List.forall_mem_map]

end Text

end Arrears
