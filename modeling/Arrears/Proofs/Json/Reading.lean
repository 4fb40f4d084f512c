import Arrears.Json.Reader
import Arrears.Proofs.Text.Numeral
import Arrears.Proofs.Text.Words
import Mathlib.Data.List.Nodup
import Mathlib.Tactic.SplitIfs

/-!
# JSON is read back

What is written for a value without floating-point numbers is read as this value.

**Argument.** The reader undoes the quotes of a text character by character, and takes the digits of
a number up to a mark that is no digit.  A list or a record is read item by item.  Every step of
the reader takes at least one character, so the length of the text is fuel enough
(`readValue_render`).
-/

namespace Arrears
namespace Json

/-! ## Quoted texts -/

theorem hexNumber?_escaped {n : Nat} (h : n < 32) :
    Text.hexNumber? ['0', '0', Text.hexDigit (n / 16), Text.hexDigit (n % 16)] = some n := by
  revert n
  decide

theorem character?_toNat (c : Char) : Text.character? c.toNat = some c := by
  have hvalid : c.toNat.isValidChar := c.valid
  have hcode := Char.ofNat_toNat c
  rw [Char.ofNat, dif_pos hvalid] at hcode
  rw [Text.character?, dif_pos hvalid, hcode]

/-- Behind the mark of a code unit stands the control character that was escaped. -/
theorem readUnit_escaped {c : Char} (h : c.toNat < 32) (rest : List Char) :
    readUnit ('0' :: '0' :: Text.hexDigit (c.toNat / 16) :: Text.hexDigit (c.toNat % 16) :: rest) =
      some (c, rest) := by
  have hunit : ¬ (55296 ≤ c.toNat ∧ c.toNat < 56320) := by omega
  simp [readUnit, hexNumber?_escaped h, character?_toNat, hunit]

theorem readText_escapeChar (fuel : Nat) (read : List Char) (c : Char) (rest : List Char) :
    readText (fuel + 1) read (escapeChar c ++ rest) = readText fuel (c :: read) rest := by
  rw [escapeChar]
  split_ifs with hquote hslash hcontrol
  · rw [hquote]
    rfl
  · rw [hslash]
    rfl
  · simp only [List.cons_append, List.nil_append, readText, readUnit_escaped hcontrol]
    rfl
  · rw [List.singleton_append, readText]
    · rw [if_neg hcontrol]
    · exact hquote
    · exact fun _ h => absurd h hslash
    · exact fun _ _ h => absurd h hslash

theorem readText_quoted (cs read rest : List Char) {fuel : Nat} (hfuel : cs.length < fuel) :
    readText fuel read (cs.flatMap escapeChar ++ '\x22' :: rest) =
      some (String.ofList (read.reverse ++ cs), rest) := by
  induction cs generalizing fuel read with
  | nil =>
      obtain ⟨fuel, rfl⟩ := Nat.exists_eq_succ_of_ne_zero (Nat.ne_zero_of_lt hfuel)
      simp [readText]
  | cons c cs ih =>
      obtain ⟨fuel, rfl⟩ := Nat.exists_eq_succ_of_ne_zero (Nat.ne_zero_of_lt hfuel)
      rw [List.flatMap_cons, List.append_assoc, readText_escapeChar,
        ih _ (Nat.lt_of_succ_lt_succ hfuel)]
      simp

theorem length_le_flatMap_escapeChar (cs : List Char) :
    cs.length ≤ (cs.flatMap escapeChar).length := by
  induction cs with
  | nil => exact Nat.le_refl 0
  | cons c cs ih =>
      have hone : 1 ≤ (escapeChar c).length := by
        rw [escapeChar]
        split_ifs <;> simp
      rw [List.flatMap_cons, List.length_append, List.length_cons]
      omega

/-! ## Values -/

mutual

/-- Whole numbers of a signed word, texts, lists, and records whose keys differ. -/
def Plain : Json → Prop
  | .integer n => Word.Fits n
  | .real _ => False
  | .list items => PlainItems items
  | .record members => (members.map (·.1)).Nodup ∧ PlainMembers members
  | _ => True

def PlainItems : List Json → Prop
  | [] => True
  | item :: items => item.Plain ∧ PlainItems items

def PlainMembers : List (String × Json) → Prop
  | [] => True
  | (_, value) :: members => value.Plain ∧ PlainMembers members

end

/-- What stands behind a value does not go on with it. -/
def Ends (rest : List Char) : Prop :=
  ∀ c ∈ rest.head?, c.isDigit = false ∧ c ≠ '.' ∧ c ≠ 'e' ∧ c ≠ 'E'

variable {rest : List Char} {fuel : Nat}

theorem skipSpace_of_head {cs : List Char} (h : ∀ c ∈ cs.head?, isSpace c = false) :
    skipSpace cs = cs :=
  Text.dropWhile_of_head h

theorem readNumber_digits {ds : List Char} (hds : Text.Shortest ds) (hends : Ends rest)
    {negative : Bool} {number : Json} (hnumber : wholeOf? negative ds = some number) :
    readNumber negative (ds ++ rest) = some (number, rest) := by
  have hmark : ∀ c ∈ rest.head?, c.isDigit = false := fun c hc => (hends c hc).1
  have hwhole : (ds ++ rest).takeWhile Char.isDigit = ds := by
    rw [List.takeWhile_append_of_pos hds.digits, Text.takeWhile_of_head hmark, List.append_nil]
  have hleft : (ds ++ rest).dropWhile Char.isDigit = rest := by
    rw [List.dropWhile_append_of_pos hds.digits, Text.dropWhile_of_head hmark]
  have hfraction : readFraction rest = (none, rest) := by
    unfold readFraction
    split
    · exact absurd rfl (hends _ rfl).2.1
    · rfl
  have hexponent : readExponent rest = (none, rest) := by
    cases rest with
    | nil => rfl
    | cons c rest =>
        obtain ⟨-, -, hlower, hupper⟩ := hends c rfl
        unfold readExponent
        exact if_neg (by simp [hlower, hupper])
  have hzeros : ¬ (1 < ds.length ∧ ds.head? = some '0') := by
    rintro ⟨hlong, hzero⟩
    rw [hds.head hzero] at hlong
    exact absurd hlong (by decide)
  rw [readNumber, hwhole, hleft, hfraction]
  simp only [hexponent]
  rw [if_neg (by simp [hds.ne_nil, hzeros])]
  simp only [hnumber, Option.map_some]

theorem isSpace_of_isDigit {d : Char} (h : d.isDigit = true) : isSpace d = false := by
  rw [Bool.eq_false_iff]
  intro hspace
  simp only [isSpace, Bool.or_eq_true, decide_eq_true_eq] at hspace
  rcases hspace with ((rfl | rfl) | rfl) | rfl <;> cases h

theorem readValue_of_isDigit {d : Char} (h : d.isDigit = true) (fuel : Nat) (cs : List Char) :
    readValue (fuel + 1) (d :: cs) = readNumber false (d :: cs) := by
  have hspace := isSpace_of_isDigit h
  unfold readValue
  rw [skipSpace_of_head (by simpa using hspace)]
  split
  case h_8 => rfl
  all_goals
    next heq =>
      rw [(List.cons.inj heq).1] at h
      cases h

theorem readValue_integer {n : Int} (hn : Word.Fits n) (hends : Ends rest) (fuel : Nat) :
    readValue (fuel + 1) (Text.integerText n ++ rest) = some (.integer n, rest) := by
  have hds := Text.shortest_digits n.natAbs
  have hvalue := Text.valueOfDigits_digits n.natAbs
  obtain ⟨hleast, hgreatest⟩ := hn
  rw [Text.integerText]
  split
  · next hneg =>
      have hsize : -(n.natAbs : Int) = n := by omega
      have hwhole : wholeOf? true (Text.digits n.natAbs) = some (.integer n) := by
        simp only [wholeOf?, hvalue, if_true, hsize]
        exact if_pos ⟨by omega, hleast⟩
      rw [readValue, skipSpace_of_head (by simp [isSpace])]
      exact readNumber_digits hds hends hwhole
  · next hneg =>
      have hsize : (n.natAbs : Int) = n := by omega
      have hwhole : wholeOf? false (Text.digits n.natAbs) = some (.integer n) := by
        unfold Word.greatest at hgreatest
        simp only [wholeOf?, hvalue, Bool.false_eq_true, if_false, hsize]
        exact if_pos (by omega)
      obtain ⟨d, ds, hcons⟩ := List.exists_cons_of_ne_nil hds.ne_nil
      have hread := readNumber_digits hds hends hwhole
      rw [hcons] at hds hread ⊢
      exact (readValue_of_isDigit (hds.digits d List.mem_cons_self) fuel _).trans hread

theorem readText_quote (s : String) (rest : List Char) {fuel : Nat}
    (hfuel : (s.toList.flatMap escapeChar ++ '\x22' :: rest).length ≤ fuel) :
    readText fuel [] (s.toList.flatMap escapeChar ++ '\x22' :: rest) = some (s, rest) := by
  have hlength := length_le_flatMap_escapeChar s.toList
  have hread := readText_quoted s.toList [] rest (show s.toList.length < fuel by
    simp only [List.length_append, List.length_cons] at hfuel
    omega)
  simpa using hread

theorem toList_quote (s : String) :
    (quote s).toList = '\x22' :: (s.toList.flatMap escapeChar ++ ['\x22']) := by
  rw [quote, String.toList_ofList]
  rfl

theorem readValue_quote (s : String) (rest : List Char) (fuel : Nat) :
    readValue (fuel + 1) ((quote s).toList ++ rest) = some (.text s, rest) := by
  rw [toList_quote, List.cons_append, List.append_assoc, List.singleton_append, readValue,
    skipSpace_of_head (by simp [isSpace])]
  simp only [readText_quote s rest (Nat.le_succ _), Option.map_some]

/-- A value begins with a character that is no blank and closes no list or record. -/
theorem exists_render {v : Json} (h : v.Plain) :
    ∃ c cs, v.render.toList = c :: cs ∧ isSpace c = false ∧ c ≠ ']' ∧ c ≠ '\x7d' := by
  cases v with
  | null => exact ⟨_, _, rfl, by decide, by decide, by decide⟩
  | truth value => cases value <;> exact ⟨_, _, rfl, by decide, by decide, by decide⟩
  | integer n =>
      rw [render, Text.ofInt, String.toList_ofList, Text.integerText]
      split
      · exact ⟨_, _, rfl, by decide, by decide, by decide⟩
      · obtain ⟨d, ds, hds⟩ := List.exists_cons_of_ne_nil (Text.digits_ne_nil n.natAbs)
        have hd : d.isDigit = true :=
          Text.isDigit_of_mem_digits (by rw [hds]; exact List.mem_cons_self)
        refine ⟨d, ds, hds, isSpace_of_isDigit hd, ?_, ?_⟩ <;> rintro rfl <;> cases hd
  | real x => exact absurd h id
  | text s => exact ⟨_, _, toList_quote s, by decide, by decide, by decide⟩
  | list items =>
      refine ⟨'[', (renderItems items ++ "]").toList, ?_, by decide, by decide, by decide⟩
      rw [render, String.append_assoc, String.toList_append]
      rfl
  | record members =>
      refine ⟨'\x7b', (renderMembers members ++ "\x7d").toList, ?_, by decide, by decide, by decide⟩
      rw [render, String.append_assoc, String.toList_append]
      rfl

/-- What follows a value in a list, in a record or in none does not go on with it. -/
theorem ends_mark {c : Char} (h : c = ',' ∨ c = ']' ∨ c = '\x7d') (rest : List Char) :
    Ends (c :: rest) := by
  rcases h with rfl | rfl | rfl <;> simp [Ends]

theorem setMember_of_not_mem {key : String} {members : List (String × Json)}
    (h : key ∉ members.map (·.1)) (value : Json) :
    setMember key value members = members ++ [(key, value)] := by
  have hother : ∀ member ∈ members, decide (member.1 ≠ key) = true := by
    intro member hmember
    refine decide_eq_true fun heq => h ?_
    exact List.mem_map.mpr ⟨member, hmember, heq⟩
  rw [setMember, List.filter_eq_self.mpr hother]

theorem toList_render_list (items : List Json) :
    (render (.list items)).toList = '[' :: ((renderItems items).toList ++ [']']) := by
  rw [render, String.toList_append, String.toList_append]
  rfl

theorem toList_render_record (members : List (String × Json)) :
    (render (.record members)).toList = '\x7b' :: ((renderMembers members).toList ++ ['\x7d']) := by
  rw [render, String.toList_append, String.toList_append]
  rfl

theorem toList_renderItems_cons (item next : Json) (items : List Json) :
    (renderItems (item :: next :: items)).toList =
      item.render.toList ++ ',' :: (renderItems (next :: items)).toList := by
  rw [renderItems.eq_3 _ _ (by simp)]
  simp

theorem toList_renderMembers_single (key : String) (value : Json) :
    (renderMembers [(key, value)]).toList = (quote key).toList ++ ':' :: value.render.toList := by
  rw [renderMembers]
  simp

theorem toList_renderMembers_cons (key : String) (value : Json) (next : String × Json)
    (members : List (String × Json)) :
    (renderMembers ((key, value) :: next :: members)).toList =
      (quote key).toList ++ ':' :: (value.render.toList ++
        ',' :: (renderMembers (next :: members)).toList) := by
  rw [renderMembers.eq_3 _ _ _ (by simp)]
  simp

theorem readValue_bracket {c : Char} (hspace : isSpace c = false) (hclose : c ≠ ']')
    (fuel : Nat) (cs : List Char) :
    readValue (fuel + 1) ('[' :: c :: cs) = readItems fuel [] (c :: cs) := by
  rw [readValue, skipSpace_of_head (by simp [isSpace])]
  simp only [skipSpace_of_head (show ∀ d ∈ (c :: cs).head?, isSpace d = false by simpa using hspace)]
  split
  · next heq => exact absurd (List.cons.inj heq).1 hclose
  · rfl

theorem readValue_brace (fuel : Nat) (key : String) (cs : List Char) :
    readValue (fuel + 1) ('\x7b' :: ((quote key).toList ++ cs)) =
      readMembers fuel [] ((quote key).toList ++ cs) := by
  rw [readValue, skipSpace_of_head (by simp [isSpace]), toList_quote]
  simp only [List.cons_append, skipSpace_of_head (show ∀ d ∈ List.head? ('\x22' ::
    (key.toList.flatMap escapeChar ++ ['\x22'] ++ cs)), isSpace d = false by simp [isSpace])]
  rfl

theorem readItems_last {item : Json} {before : List Json} {cs : List Char}
    (hitem : readValue fuel cs = some (item, ']' :: rest)) :
    readItems (fuel + 1) before cs = some (.list (item :: before).reverse, rest) := by
  rw [readItems, hitem]
  rfl

theorem readItems_next {item : Json} {before : List Json} {cs : List Char}
    (hitem : readValue fuel cs = some (item, ',' :: rest)) :
    readItems (fuel + 1) before cs = readItems fuel (item :: before) rest := by
  rw [readItems, hitem]
  rfl

section Member

variable {key : String} {value : Json} {before members : List (String × Json)} {cs : List Char}

theorem readMembers_last (hvalue : readValue fuel cs = some (value, '\x7d' :: rest)) :
    readMembers (fuel + 1) before ((quote key).toList ++ ':' :: cs) =
      some (.record (setMember key value before), rest) := by
  rw [toList_quote, List.cons_append, List.append_assoc, List.singleton_append, readMembers,
    skipSpace_of_head (by simp [isSpace])]
  simp only [readText_quote key (':' :: cs) (Nat.le_succ _)]
  rw [skipSpace_of_head (by simp [isSpace])]
  simp only [hvalue]
  rfl

theorem readMembers_next (hvalue : readValue fuel cs = some (value, ',' :: rest)) :
    readMembers (fuel + 1) before ((quote key).toList ++ ':' :: cs) =
      readMembers fuel (setMember key value before) rest := by
  rw [toList_quote, List.cons_append, List.append_assoc, List.singleton_append, readMembers,
    skipSpace_of_head (by simp [isSpace])]
  simp only [readText_quote key (':' :: cs) (Nat.le_succ _)]
  rw [skipSpace_of_head (by simp [isSpace])]
  simp only [hvalue]
  rfl

theorem exists_renderItems (item : Json) (items : List Json) (h : item.Plain) :
    ∃ c cs, (renderItems (item :: items)).toList = c :: cs ∧ isSpace c = false ∧ c ≠ ']' := by
  obtain ⟨c, cs, hcs, hspace, hclose, -⟩ := exists_render h
  cases items with
  | nil => exact ⟨c, cs, by rw [renderItems, hcs], hspace, hclose⟩
  | cons next items =>
      refine ⟨c, cs ++ ',' :: (renderItems (next :: items)).toList, ?_, hspace, hclose⟩
      rw [toList_renderItems_cons, hcs, List.cons_append]

theorem exists_renderMembers (key : String) (value : Json) (members : List (String × Json)) :
    ∃ cs, (renderMembers ((key, value) :: members)).toList = (quote key).toList ++ cs := by
  cases members with
  | nil => exact ⟨_, toList_renderMembers_single key value⟩
  | cons next members => exact ⟨_, toList_renderMembers_cons key value next members⟩

theorem not_mem_before (h : ((before ++ (key, value) :: members).map (·.1)).Nodup) :
    key ∉ before.map (·.1) := by
  rw [List.map_append] at h
  intro hmem
  exact List.disjoint_of_nodup_append h hmem (by simp)

end Member

mutual

theorem readValue_render : ∀ (fuel : Nat) (v : Json) (rest : List Char), v.Plain →
    2 * v.render.toList.length ≤ fuel → Ends rest →
    readValue fuel (v.render.toList ++ rest) = some (v, rest)
  | 0, v, rest => by
      intro hv hfuel _
      obtain ⟨c, cs, hcs, -⟩ := exists_render hv
      rw [hcs, List.length_cons] at hfuel
      omega
  | fuel + 1, .null, rest => fun _ _ _ => rfl
  | fuel + 1, .truth true, rest => fun _ _ _ => rfl
  | fuel + 1, .truth false, rest => fun _ _ _ => rfl
  | fuel + 1, .integer n, rest => by
      intro hn _ hends
      rw [render, Text.ofInt, String.toList_ofList]
      exact readValue_integer hn hends fuel
  | fuel + 1, .real x, rest => fun hx _ _ => absurd hx id
  | fuel + 1, .text s, rest => fun _ _ _ => readValue_quote s rest fuel
  | fuel + 1, .list [], rest => fun _ _ _ => rfl
  | fuel + 1, .list (item :: items), rest => by
      intro hitems hfuel _
      rw [toList_render_list] at hfuel ⊢
      simp only [List.length_cons, List.length_append, List.length_nil] at hfuel
      have hread := readItems_render fuel item items [] rest hitems (by omega)
      obtain ⟨c, cs, hcs, hspace, hclose⟩ := exists_renderItems item items hitems.1
      rw [List.cons_append, List.append_assoc, List.singleton_append]
      rw [hcs, List.cons_append] at hread ⊢
      rw [readValue_bracket hspace hclose, hread]
      rfl
  | fuel + 1, .record [], rest => fun _ _ _ => rfl
  | fuel + 1, .record ((key, value) :: members), rest => by
      intro hmembers hfuel _
      rw [toList_render_record] at hfuel ⊢
      simp only [List.length_cons, List.length_append, List.length_nil] at hfuel
      have hread := readMembers_render fuel key value members [] rest hmembers.2 hmembers.1
        (by omega)
      rw [List.cons_append, List.append_assoc, List.singleton_append]
      obtain ⟨cs, hcs⟩ := exists_renderMembers key value members
      rw [hcs, List.append_assoc] at hread ⊢
      rw [readValue_brace, hread]
      rfl

theorem readItems_render : ∀ (fuel : Nat) (item : Json) (items before : List Json)
    (rest : List Char), PlainItems (item :: items) →
    2 * (renderItems (item :: items)).toList.length + 1 ≤ fuel →
    readItems fuel before ((renderItems (item :: items)).toList ++ ']' :: rest) =
      some (.list (before.reverse ++ item :: items), rest)
  | 0, item, items, before, rest => fun _ hfuel => absurd hfuel (Nat.not_succ_le_zero _)
  | fuel + 1, item, [], before, rest => by
      intro hitems hfuel
      have hitem := readValue_render fuel item (']' :: rest) hitems.1 (by
        rw [renderItems] at hfuel
        omega) (ends_mark (by simp) rest)
      rw [renderItems, readItems_last hitem]
      simp
  | fuel + 1, item, next :: items, before, rest => by
      intro hitems hfuel
      rw [toList_renderItems_cons] at hfuel ⊢
      simp only [List.length_append, List.length_cons] at hfuel
      have hitem := readValue_render fuel item _ hitems.1 (by omega) (ends_mark (Or.inl rfl)
        ((renderItems (next :: items)).toList ++ ']' :: rest))
      rw [List.append_assoc, List.cons_append, readItems_next hitem,
        readItems_render fuel next items (item :: before) rest hitems.2 (by omega)]
      simp

theorem readMembers_render : ∀ (fuel : Nat) (key : String) (value : Json)
    (members before : List (String × Json)) (rest : List Char),
    PlainMembers ((key, value) :: members) →
    ((before ++ (key, value) :: members).map (·.1)).Nodup →
    2 * (renderMembers ((key, value) :: members)).toList.length + 1 ≤ fuel →
    readMembers fuel before ((renderMembers ((key, value) :: members)).toList ++ '\x7d' :: rest) =
      some (.record (before ++ (key, value) :: members), rest)
  | 0, key, value, members, before, rest => fun _ _ hfuel =>
      absurd hfuel (Nat.not_succ_le_zero _)
  | fuel + 1, key, value, [], before, rest => by
      intro hmembers hkeys hfuel
      rw [toList_renderMembers_single] at hfuel ⊢
      simp only [List.length_append, List.length_cons] at hfuel
      have hvalue := readValue_render fuel value ('\x7d' :: rest) hmembers.1 (by omega)
        (ends_mark (by simp) rest)
      rw [List.append_assoc, List.cons_append, readMembers_last hvalue,
        setMember_of_not_mem (not_mem_before hkeys)]
  | fuel + 1, key, value, (next, following) :: members, before, rest => by
      intro hmembers hkeys hfuel
      rw [toList_renderMembers_cons] at hfuel ⊢
      simp only [List.length_append, List.length_cons] at hfuel
      have hvalue := readValue_render fuel value _ hmembers.1 (by omega) (ends_mark (Or.inl rfl)
        ((renderMembers ((next, following) :: members)).toList ++ '\x7d' :: rest))
      rw [List.append_assoc, List.cons_append, List.append_assoc, List.cons_append,
        readMembers_next hvalue, setMember_of_not_mem (not_mem_before hkeys),
        readMembers_render fuel next following members (before ++ [(key, value)]) rest hmembers.2
          (by simpa using hkeys) (by omega)]
      simp

end

/-- **JSON is read back.** -/
theorem ofText?_render {v : Json} (h : v.Plain) : ofText? v.render = some v := by
  have hread := readValue_render (2 * v.render.length + 2) v [] h (by
    rw [String.length_toList]
    omega) (by simp [Ends])
  rw [List.append_nil] at hread
  rw [ofText?, hread]
  rfl

end Json
end Arrears
