import Arrears.Basic
import Mathlib.Data.List.Basic
import Mathlib.Tactic.SplitIfs

/-!
# Texts and their bytes

**Rule.** `Decodes` says which characters the bytes stand for that follow those of an unfinished
character.  It has one constructor for each step of the reader, but no offset: that tells only where
a fault is.

**Argument.** In the middle of a character no byte below `0x80` is taken.  So at such a byte, a line
feed for one, every text can be cut into two.
-/

namespace Arrears
namespace Text

/-- Bytes stand for characters, behind those of an unfinished character if there is one. -/
inductive Decodes : Option Unfinished → List UInt8 → List Char → Prop
  | done : Decodes none [] []
  | single {byte : UInt8} {bytes : List UInt8} {chars : List Char} (hbyte : byte.toNat < 0x80)
      (hrest : Decodes none bytes chars) :
      Decodes none (byte :: bytes) (Char.ofNat byte.toNat :: chars)
  | lead {byte : UInt8} {bytes : List UInt8} {chars : List Char} {u : Unfinished}
      (hbyte : ¬ byte.toNat < 0x80) (hlead : afterLead? byte.toNat = some u)
      (hrest : Decodes (some u) bytes chars) : Decodes none (byte :: bytes) chars
  | last {byte : UInt8} {bytes : List UInt8} {chars : List Char} {u : Unfinished}
      (hrange : u.low ≤ byte.toNat ∧ byte.toNat ≤ u.high) (hmissing : u.missing = 1)
      (hrest : Decodes none bytes chars) :
      Decodes (some u) (byte :: bytes) (Char.ofNat (u.code * 64 + byte.toNat % 64) :: chars)
  | more {byte : UInt8} {bytes : List UInt8} {chars : List Char} {u : Unfinished}
      (hrange : u.low ≤ byte.toNat ∧ byte.toNat ≤ u.high) (hmissing : u.missing ≠ 1)
      (hrest : Decodes (some ⟨u.missing - 1, u.seen + 1, u.code * 64 + byte.toNat % 64, 0x80, 0xBF⟩)
        bytes chars) : Decodes (some u) (byte :: bytes) chars

section Bytes

variable {u : Option Unfinished} {byte : UInt8} {bytes front back : List UInt8} {chars : List Char}

theorem map_cons_eq_ok {ε α : Type} {x : Except ε (List α)} {first : α} {result : List α}
    (h : x.map (first :: ·) = .ok result) : ∃ rest, x = .ok rest ∧ result = first :: rest := by
  cases x with
  | error fault => cases h
  | ok rest => exact ⟨rest, rfl, (Except.ok.inj h).symm⟩

theorem decodes_of_decodeFrom :
    ∀ {bytes : List UInt8} {u : Option Unfinished} {offset : Nat} {chars : List Char},
      decodeFrom offset u bytes = .ok chars → Decodes u bytes chars
  | [], none, offset, chars, h => by
      obtain rfl := Except.ok.inj h
      exact .done
  | [], some u, offset, chars, h => by cases h
  | byte :: bytes, none, offset, chars, h => by
      rw [decodeFrom] at h
      split at h
      · next hbyte =>
          obtain ⟨rest, hrest, rfl⟩ := map_cons_eq_ok h
          exact .single hbyte (decodes_of_decodeFrom hrest)
      · next hbyte =>
          split at h
          · next hlead => exact .lead hbyte hlead (decodes_of_decodeFrom h)
          · cases h
  | byte :: bytes, some u, offset, chars, h => by
      rw [decodeFrom] at h
      simp only at h
      split at h
      · next hrange =>
          split at h
          · next hmissing =>
              obtain ⟨rest, hrest, rfl⟩ := map_cons_eq_ok h
              exact .last hrange hmissing (decodes_of_decodeFrom hrest)
          · next hmissing => exact .more hrange hmissing (decodes_of_decodeFrom h)
      · cases h

theorem Decodes.decodeFrom_eq (h : Decodes u bytes chars) (offset : Nat) :
    decodeFrom offset u bytes = .ok chars := by
  induction h generalizing offset with
  | done => rfl
  | single hbyte _ ih =>
      rw [decodeFrom]
      simp only [hbyte, if_true, ih]
      rfl
  | lead hbyte hlead _ ih =>
      rw [decodeFrom]
      simp only [hbyte, if_false, hlead, ih]
  | last hrange hmissing _ ih =>
      rw [decodeFrom]
      simp only [hrange, and_self, if_true, hmissing, ih]
      rfl
  | more hrange hmissing _ ih =>
      rw [decodeFrom]
      simp only [hrange, and_self, if_true, hmissing, if_false, ih]

theorem decodeFrom_eq_ok_iff (offset : Nat) :
    decodeFrom offset u bytes = .ok chars ↔ Decodes u bytes chars :=
  ⟨decodes_of_decodeFrom, fun h => h.decodeFrom_eq offset⟩

theorem decodeUtf8_eq_ok_iff : decodeUtf8 bytes = .ok chars ↔ Decodes none bytes chars :=
  decodeFrom_eq_ok_iff 0

/-! ## Bytes that are characters by themselves -/

/-- The unfinished character, if there is one, takes no byte that is a character by itself. -/
def Wide (u : Option Unfinished) : Prop :=
  ∀ unfinished ∈ u, 0x80 ≤ unfinished.low

theorem wide_none : Wide none := by
  simp [Wide]

theorem wide_afterLead? (b : Nat) : Wide (afterLead? b) := by
  unfold afterLead? Wide
  repeat' split
  all_goals simp

/-- Bytes are cut in front of a byte that is a character by itself into two texts. -/
theorem Decodes.cut (hu : Wide u) (hbyte : byte.toNat < 0x80)
    (h : Decodes u (front ++ byte :: back) chars) :
    ∃ cs ds, Decodes u front cs ∧ Decodes none (byte :: back) ds ∧ chars = cs ++ ds := by
  induction front generalizing u chars with
  | nil =>
      cases h with
      | single _ hrest => exact ⟨[], _, .done, .single hbyte hrest, rfl⟩
      | lead hwide => exact absurd hbyte hwide
      | last hrange | more hrange =>
          have hlow := hu _ rfl
          omega
  | cons first front ih =>
      cases h with
      | single hfirst hrest =>
          obtain ⟨cs, ds, hcs, hds, rfl⟩ := ih wide_none hrest
          exact ⟨_, ds, .single hfirst hcs, hds, rfl⟩
      | lead hfirst hlead hrest =>
          obtain ⟨cs, ds, hcs, hds, rfl⟩ := ih (hlead ▸ wide_afterLead? _) hrest
          exact ⟨cs, ds, .lead hfirst hlead hcs, hds, rfl⟩
      | last hrange hmissing hrest =>
          obtain ⟨cs, ds, hcs, hds, rfl⟩ := ih wide_none hrest
          exact ⟨_, ds, .last hrange hmissing hcs, hds, rfl⟩
      | more hrange hmissing hrest =>
          obtain ⟨cs, ds, hcs, hds, rfl⟩ := ih (by simp [Wide]) hrest
          exact ⟨cs, ds, .more hrange hmissing hcs, hds, rfl⟩

theorem Decodes.append {cs ds : List Char} (h : Decodes u front cs) (h' : Decodes none back ds) :
    Decodes u (front ++ back) (cs ++ ds) := by
  induction h with
  | done => exact h'
  | single hbyte _ ih => exact .single hbyte ih
  | lead hbyte hlead _ ih => exact .lead hbyte hlead ih
  | last hrange hmissing _ ih => exact .last hrange hmissing ih
  | more hrange hmissing _ ih => exact .more hrange hmissing ih

theorem decodes_single (hbyte : byte.toNat < 0x80) :
    Decodes none [byte] [Char.ofNat byte.toNat] :=
  .single hbyte .done

/-- A byte that is a character by itself ends a text exactly if the bytes in front of it are one. -/
theorem decodes_append_single_iff (hbyte : byte.toNat < 0x80) :
    Decodes none (front ++ [byte]) chars ↔
      ∃ cs, Decodes none front cs ∧ chars = cs ++ [Char.ofNat byte.toNat] := by
  constructor
  · intro h
    obtain ⟨cs, ds, hcs, hds, rfl⟩ := h.cut wide_none hbyte
    have hunique := Except.ok.inj
      ((hds.decodeFrom_eq 0).symm.trans ((decodes_single hbyte).decodeFrom_eq 0))
    exact ⟨cs, hcs, by rw [hunique]⟩
  · rintro ⟨cs, hcs, rfl⟩
    exact hcs.append (decodes_single hbyte)

/-- Bytes are cut behind a byte that is a character by itself into two texts. -/
theorem Decodes.split (hbyte : byte.toNat < 0x80)
    (h : Decodes none (front ++ byte :: back) chars) :
    ∃ cs ds, Decodes none (front ++ [byte]) cs ∧ Decodes none back ds := by
  obtain ⟨cs, ds, hcs, hds, -⟩ := h.cut wide_none hbyte
  cases hds with
  | single _ hrest => exact ⟨_, _, hcs.append (decodes_single hbyte), hrest⟩
  | lead hwide => exact absurd hbyte hwide

end Bytes

/-! ## Characters in bytes -/

theorem toNat_byte {n : Nat} (h : n < 256) : (UInt8.ofNat n).toNat = n :=
  Nat.mod_eq_of_lt h

theorem afterLead?_two {n : Nat} (h : 0x80 ≤ n ∧ n < 0x800) :
    afterLead? (n / 64 % 32 + 192) = some ⟨1, 1, n / 64, 0x80, 0xBF⟩ := by
  rw [afterLead?, if_pos (by omega)]
  have hcode : (n / 64 % 32 + 192) % 32 = n / 64 := by omega
  rw [hcode]

/-- The first of three bytes leaves a range in which the second one lies. -/
theorem exists_afterLead?_three {n : Nat} (h : 0x800 ≤ n ∧ n < 0x10000)
    (hvalid : n < 0xD800 ∨ 0xDFFF < n) :
    ∃ low high, afterLead? (n / 4096 % 16 + 224) = some ⟨2, 1, n / 4096, low, high⟩ ∧
      low ≤ n / 64 % 64 + 128 ∧ n / 64 % 64 + 128 ≤ high := by
  have hcode : (n / 4096 % 16 + 224) % 16 = n / 4096 := by omega
  rw [afterLead?, if_neg (by omega), hcode]
  split_ifs with hfirst hsurrogate hother
  · exact ⟨_, _, rfl, by omega, by omega⟩
  · exact ⟨_, _, rfl, by omega, by omega⟩
  · exact ⟨_, _, rfl, by omega, by omega⟩
  all_goals omega

/-- The first of four bytes leaves a range in which the second one lies. -/
theorem exists_afterLead?_four {n : Nat} (h : 0x10000 ≤ n ∧ n < 0x110000) :
    ∃ low high, afterLead? (n / 262144 % 8 + 240) = some ⟨3, 1, n / 262144, low, high⟩ ∧
      low ≤ n / 4096 % 64 + 128 ∧ n / 4096 % 64 + 128 ≤ high := by
  have hcode : (n / 262144 % 8 + 240) % 8 = n / 262144 := by omega
  rw [afterLead?, if_neg (by omega), if_neg (by omega), if_neg (by omega), if_neg (by omega), hcode]
  split_ifs with hfirst hmiddle hlast
  · exact ⟨_, _, rfl, by omega, by omega⟩
  · exact ⟨_, _, rfl, by omega, by omega⟩
  · exact ⟨_, _, rfl, by omega, by omega⟩
  · omega

theorem decodes_lead {n : Nat} {u : Unfinished} (hn : 0x80 ≤ n ∧ n < 256)
    (hlead : afterLead? n = some u) {bytes : List UInt8} {chars : List Char}
    (hrest : Decodes (some u) bytes chars) : Decodes none (UInt8.ofNat n :: bytes) chars := by
  have hbyte := toNat_byte hn.2
  refine .lead (by omega) ?_ hrest
  rw [hbyte]
  exact hlead

section Tail

variable {n missing seen code low high : Nat}

theorem decodes_more (hn : n < 64) (hrange : low ≤ n + 128 ∧ n + 128 ≤ high) {bytes : List UInt8}
    {chars : List Char}
    (hrest : Decodes (some ⟨missing + 1, seen + 1, code * 64 + n, 0x80, 0xBF⟩) bytes chars) :
    Decodes (some ⟨missing + 2, seen, code, low, high⟩) (UInt8.ofNat (n + 128) :: bytes) chars := by
  have hbyte : (UInt8.ofNat (n + 128)).toNat = n + 128 := toNat_byte (by omega)
  have hpayload : (n + 128) % 64 = n := by omega
  refine .more ?_ (by simp) ?_
  · rw [hbyte]
    exact hrange
  · rw [hbyte, hpayload]
    exact hrest

theorem decodes_last (hn : n < 64) (hrange : low ≤ n + 128 ∧ n + 128 ≤ high) {c : Char}
    (hc : code * 64 + n = c.toNat) :
    Decodes (some ⟨1, seen, code, low, high⟩) [UInt8.ofNat (n + 128)] [c] := by
  have hbyte : (UInt8.ofNat (n + 128)).toNat = n + 128 := toNat_byte (by omega)
  have hchar : Char.ofNat (code * 64 + (UInt8.ofNat (n + 128)).toNat % 64) = c := by
    rw [hbyte, show (n + 128) % 64 = n by omega, hc, Char.ofNat_toNat]
  rw [← hchar]
  refine .last ?_ rfl .done
  rw [hbyte]
  exact hrange

end Tail

theorem decodes_utf8EncodeChar (c : Char) : Decodes none (String.utf8EncodeChar c) [c] := by
  have hvalid : c.toNat < 0xD800 ∨ 0xDFFF < c.toNat ∧ c.toNat < 0x110000 := c.valid
  have hcode : c.val.toNat = c.toNat := rfl
  rw [String.utf8EncodeChar, hcode]
  split_ifs with hone htwo hthree
  · have hbyte : (UInt8.ofNat c.toNat).toNat = c.toNat := toNat_byte (by omega)
    have hsingle : Decodes none [UInt8.ofNat c.toNat] [Char.ofNat (UInt8.ofNat c.toNat).toNat] :=
      decodes_single (by omega)
    rwa [hbyte, Char.ofNat_toNat] at hsingle
  · refine decodes_lead (by omega) (afterLead?_two (by omega)) ?_
    exact decodes_last (by omega) (by omega) (by omega)
  · obtain ⟨low, high, hlead, hrange⟩ := exists_afterLead?_three (n := c.toNat) (by omega) (by omega)
    refine decodes_lead (by omega) hlead ?_
    refine decodes_more (by omega) hrange ?_
    exact decodes_last (by omega) (by omega) (by omega)
  · obtain ⟨low, high, hlead, hrange⟩ := exists_afterLead?_four (n := c.toNat) (by omega)
    refine decodes_lead (by omega) hlead ?_
    refine decodes_more (by omega) hrange ?_
    refine decodes_more (by omega) (by omega) ?_
    exact decodes_last (by omega) (by omega) (by omega)

theorem toList_loop (bs : ByteArray) (i : Nat) (listed : List UInt8) :
    ByteArray.toList.loop bs i listed = listed.reverse ++ bs.data.toList.drop i := by
  induction i, listed using ByteArray.toList.loop.induct bs with
  | case1 i listed hi ih =>
      have hi' : i < bs.data.toList.length := by rwa [Array.length_toList]
      rw [ByteArray.toList.loop, if_pos hi, ih, List.drop_eq_getElem_cons hi', List.reverse_cons,
        List.append_assoc, List.singleton_append]
      simp [ByteArray.get!, hi]
  | case2 i listed hi =>
      have hend : bs.data.toList.length ≤ i := by
        rw [Array.length_toList]
        exact Nat.not_lt.mp hi
      rw [ByteArray.toList.loop, if_neg hi, List.drop_of_length_le hend, List.append_nil]

theorem bytes_eq_flatMap (s : String) : bytes s = s.toList.flatMap String.utf8EncodeChar := by
  rw [bytes, String.toUTF8_eq_toByteArray, ← String.utf8Encode_toList, List.utf8Encode,
    ByteArray.toList, toList_loop, List.toList_data_toByteArray]
  rfl

/-- **Every text is read back from its bytes.** -/
theorem decodeUtf8_bytes (s : String) : decodeUtf8 (bytes s) = .ok s.toList := by
  have hchars (cs : List Char) : Decodes none (cs.flatMap String.utf8EncodeChar) cs := by
    induction cs with
    | nil => exact .done
    | cons c cs ih => exact (decodes_utf8EncodeChar c).append ih
  rw [decodeUtf8_eq_ok_iff, bytes_eq_flatMap]
  exact hchars s.toList

/-! ## ASCII -/

/-- All characters of the text are ASCII. -/
def Ascii (cs : List Char) : Prop :=
  ∀ c ∈ cs, c.toNat < 128

variable {cs ds : List Char}

theorem ascii_cons {c : Char} : Ascii (c :: cs) ↔ c.toNat < 128 ∧ Ascii cs :=
  List.forall_mem_cons

theorem utf8EncodeChar_of_ascii {c : Char} (h : c.toNat < 128) :
    String.utf8EncodeChar c = [c.val.toUInt8] := by
  refine String.utf8EncodeChar_eq_singleton (Char.utf8Size_eq_one_iff.mpr ?_)
  exact UInt32.le_iff_toNat_le.mpr (Nat.le_of_lt_succ h)

theorem toNat_toUInt8 {c : Char} (h : c.toNat < 128) : c.val.toUInt8.toNat = c.toNat :=
  Nat.mod_eq_of_lt (Nat.lt_trans h (by decide))

theorem toUInt8_lt_iff {c d : Char} (hc : c.toNat < 128) (hd : d.toNat < 128) :
    c.val.toUInt8 < d.val.toUInt8 ↔ c < d := by
  rw [UInt8.lt_iff_toNat_lt, toNat_toUInt8 hc, toNat_toUInt8 hd]
  exact UInt32.lt_iff_toNat_lt.symm

theorem toUInt8_eq_iff {c d : Char} (hc : c.toNat < 128) (hd : d.toNat < 128) :
    c.val.toUInt8 = d.val.toUInt8 ↔ c = d := by
  rw [← UInt8.toNat_inj, toNat_toUInt8 hc, toNat_toUInt8 hd, Char.toNat_inj]

theorem flatMap_utf8EncodeChar_lt_iff (hcs : Ascii cs) (hds : Ascii ds) :
    cs.flatMap String.utf8EncodeChar < ds.flatMap String.utf8EncodeChar ↔ cs < ds := by
  induction cs generalizing ds with
  | nil =>
      cases ds with
      | nil => simp
      | cons d ds =>
          rw [List.flatMap_cons, utf8EncodeChar_of_ascii (ascii_cons.mp hds).1]
          simp
  | cons c cs ih =>
      obtain ⟨hc, hcs⟩ := ascii_cons.mp hcs
      cases ds with
      | nil => simp
      | cons d ds =>
          obtain ⟨hd, hds⟩ := ascii_cons.mp hds
          rw [List.flatMap_cons, List.flatMap_cons, utf8EncodeChar_of_ascii hc,
            utf8EncodeChar_of_ascii hd, List.singleton_append, List.singleton_append,
            List.cons_lt_cons_iff, List.cons_lt_cons_iff, toUInt8_lt_iff hc hd,
            toUInt8_eq_iff hc hd, ih hcs hds]

theorem bytes_lt_iff {s t : String} (hs : Ascii s.toList) (ht : Ascii t.toList) :
    bytes s < bytes t ↔ s < t := by
  rw [bytes_eq_flatMap, bytes_eq_flatMap, String.lt_iff]
  exact flatMap_utf8EncodeChar_lt_iff hs ht

end Text
end Arrears
