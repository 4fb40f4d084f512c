/-!
# Words and texts

Amounts of money and record ids are whole numbers that fit a signed 64-bit word.  Texts are lists of
characters: numerals, hexadecimal digits, words between blanks, and what bytes in UTF-8 stand for.
-/

namespace Arrears
namespace Word

def least : Int := -9223372036854775808

def greatest : Int := 9223372036854775807

def Fits (n : Int) : Prop :=
  least ≤ n ∧ n ≤ greatest

instance (n : Int) : Decidable (Fits n) :=
  inferInstanceAs (Decidable (_ ∧ _))

end Word

/-! ## Numerals

A numeral is one or more ASCII digits; an integer may have one sign in front of it.  Leading zeros
are accepted, separators are not.  Numbers are written with the fewest digits.
-/

namespace Text

def tenTo (n : Nat) : Nat :=
  Nat.pow 10 n

def digit? (c : Char) : Option Nat :=
  if c.isDigit then some (c.toNat - 48) else none

def digitValue (c : Char) : Nat :=
  c.toNat - 48

/-- The number that a row of digits denotes, most significant digit first. -/
def valueOfDigits (cs : List Char) : Nat :=
  cs.foldl (fun n c => 10 * n + digitValue c) 0

def numeral? : List Char → Option Nat
  | [] => none
  | cs => if cs.all Char.isDigit then some (valueOfDigits cs) else none

/-- The number denoted by one or more ASCII digits with an optional sign. -/
def integer? : List Char → Option Int
  | '-' :: cs => (numeral? cs).map fun n => -(n : Int)
  | '+' :: cs => (numeral? cs).map fun n => (n : Int)
  | cs => (numeral? cs).map fun n => (n : Int)

def digits (n : Nat) : List Char :=
  Nat.toDigits 10 n

/-- The decimal digits of a natural number, with leading zeros up to the given width. -/
def padded (width n : Nat) : List Char :=
  List.replicate (width - (digits n).length) '0' ++ digits n

def integerText (n : Int) : List Char :=
  if n < 0 then '-' :: digits n.natAbs else digits n.natAbs

def ofNat (n : Nat) : String :=
  String.ofList (digits n)

def ofInt (n : Int) : String :=
  String.ofList (integerText n)

end Text

/-! ## Hexadecimal digits -/

namespace Text

def hexDigit? (c : Char) : Option Nat :=
  if c.isDigit then some (c.toNat - 48)
  else if 'a' ≤ c ∧ c ≤ 'f' then some (c.toNat - 87)
  else if 'A' ≤ c ∧ c ≤ 'F' then some (c.toNat - 55)
  else none

def hexNumber? (cs : List Char) : Option Nat :=
  cs.foldlM (fun n c => (hexDigit? c).map fun d => 16 * n + d) 0

def hexByte? (high low : UInt8) : Option UInt8 := do
  let h ← hexDigit? (Char.ofNat high.toNat)
  let l ← hexDigit? (Char.ofNat low.toNat)
  return UInt8.ofNat (16 * h + l)

def hexDigit (n : Nat) : Char :=
  if n < 10 then Char.ofNat (48 + n) else Char.ofNat (87 + n)

def character? (n : Nat) : Option Char :=
  if h : n.isValidChar then some (Char.ofNatAux n h) else none

end Text

/-! ## Blanks, trimming and words

A character is blank when it has the Unicode property White_Space.
-/

namespace Text

def blankRanges : List (Nat × Nat) :=
  [(0x09, 0x0D), (0x20, 0x20), (0x85, 0x85), (0xA0, 0xA0), (0x1680, 0x1680), (0x2000, 0x200A),
    (0x2028, 0x2029), (0x202F, 0x202F), (0x205F, 0x205F), (0x3000, 0x3000)]

/-- Blank characters separate words and are trimmed at the ends of a text. -/
def isBlank (c : Char) : Bool :=
  blankRanges.any fun range => range.1 ≤ c.toNat && c.toNat ≤ range.2

def trimStart (cs : List Char) : List Char :=
  cs.dropWhile isBlank

def trimEnd (cs : List Char) : List Char :=
  (cs.reverse.dropWhile isBlank).reverse

def trimmed (cs : List Char) : List Char :=
  trimEnd (trimStart cs)

/-- The stretches between the elements that satisfy `p`, empty ones included. -/
def stretches {α : Type} (p : α → Bool) : List α → List (List α)
  | [] => [[]]
  | x :: xs =>
    if p x then
      [] :: stretches p xs
    else
      match stretches p xs with
      | [] => [[x]]
      | first :: others => (x :: first) :: others

def wordsOf (cs : List Char) : List (List Char) :=
  (stretches isBlank cs).filter fun word => !word.isEmpty

def trim (s : String) : String :=
  String.ofList (trimmed s.toList)

def words (s : String) : List String :=
  (wordsOf s.toList).map String.ofList

end Text

/-! ## UTF-8

The well-formed sequences of one to four bytes are decoded one after another.  The first byte that
does not continue a well-formed sequence stops the reading.
-/

namespace Text

structure Utf8Fault where
  offset : Nat
  /-- The length of the ill-formed sequence; none when the input ends inside a character. -/
  length : Option Nat
deriving DecidableEq, Repr

def Utf8Fault.message (fault : Utf8Fault) : String :=
  match fault.length with
  | some n =>
    "invalid utf-8 sequence of " ++ ofNat n ++ " bytes from index " ++ ofNat fault.offset
  | none => "incomplete utf-8 byte sequence from index " ++ ofNat fault.offset

structure Unfinished where
  missing : Nat
  seen : Nat
  /-- The payload bits that have been read. -/
  code : Nat
  low : Nat
  high : Nat
deriving DecidableEq, Repr

/-- What the first byte of a character of two to four bytes says about the rest.  The range of the
second byte excludes overlong forms, surrogates and code points beyond the last. -/
def afterLead? (b : Nat) : Option Unfinished :=
  if 0xC2 ≤ b ∧ b ≤ 0xDF then some ⟨1, 1, b % 32, 0x80, 0xBF⟩
  else if b = 0xE0 then some ⟨2, 1, b % 16, 0xA0, 0xBF⟩
  else if b = 0xED then some ⟨2, 1, b % 16, 0x80, 0x9F⟩
  else if 0xE1 ≤ b ∧ b ≤ 0xEF then some ⟨2, 1, b % 16, 0x80, 0xBF⟩
  else if b = 0xF0 then some ⟨3, 1, b % 8, 0x90, 0xBF⟩
  else if 0xF1 ≤ b ∧ b ≤ 0xF3 then some ⟨3, 1, b % 8, 0x80, 0xBF⟩
  else if b = 0xF4 then some ⟨3, 1, b % 8, 0x80, 0x8F⟩
  else none

/-- Decodes the bytes behind `offset` well-formed ones and behind the bytes of an unfinished
character. -/
def decodeFrom (offset : Nat) (unfinished : Option Unfinished) :
    List UInt8 → Except Utf8Fault (List Char)
  | [] =>
    match unfinished with
    | none => .ok []
    | some _ => .error ⟨offset, none⟩
  | byte :: bytes =>
    let b := byte.toNat
    match unfinished with
    | none =>
      if b < 0x80 then
        (decodeFrom (offset + 1) none bytes).map (Char.ofNat b :: ·)
      else
        match afterLead? b with
        | some u => decodeFrom offset (some u) bytes
        | none => .error ⟨offset, some 1⟩
    | some u =>
      if u.low ≤ b ∧ b ≤ u.high then
        let code := u.code * 64 + b % 64
        if u.missing = 1 then
          (decodeFrom (offset + u.seen + 1) none bytes).map (Char.ofNat code :: ·)
        else
          decodeFrom offset (some ⟨u.missing - 1, u.seen + 1, code, 0x80, 0xBF⟩) bytes
      else .error ⟨offset, some u.seen⟩

def bytes (s : String) : List UInt8 :=
  s.toUTF8.toList

def decodeUtf8 (bytes : List UInt8) : Except Utf8Fault (List Char) :=
  decodeFrom 0 none bytes

end Text

end Arrears
