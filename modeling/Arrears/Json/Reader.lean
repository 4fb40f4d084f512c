import Arrears.Json.Floating

/-!
# JSON

A JSON value is null, a truth value, a number, a text, a list or a record.  Numbers that are
written without a fraction and an exponent and fit a 64-bit word, signed or unsigned, are whole
numbers; all others are floating-point numbers.
-/

namespace Arrears

inductive Json
  | null
  | truth (value : Bool)
  | integer (value : Int)
  | real (value : Floating)
  | text (value : String)
  | list (items : List Json)
  | record (members : List (String × Json))

namespace Json

/-- A character as it stands between the quotes of a text. -/
def escapeChar (c : Char) : List Char :=
  if c = '\x22' then ['\\', '\x22']
  else if c = '\\' then ['\\', '\\']
  else if c.toNat < 32 then
    ['\\', 'u', '0', '0', Text.hexDigit (c.toNat / 16), Text.hexDigit (c.toNat % 16)]
  else [c]

def quote (s : String) : String :=
  String.ofList ('\x22' :: s.toList.flatMap escapeChar ++ ['\x22'])

mutual

def render : Json → String
  | .null => "null"
  | .truth true => "true"
  | .truth false => "false"
  | .integer n => Text.ofInt n
  | .real x => x.text
  | .text s => quote s
  | .list items => "[" ++ renderItems items ++ "]"
  | .record members => "\x7b" ++ renderMembers members ++ "\x7d"

def renderItems : List Json → String
  | [] => ""
  | [item] => item.render
  | item :: items => item.render ++ "," ++ renderItems items

def renderMembers : List (String × Json) → String
  | [] => ""
  | [(key, value)] => quote key ++ ":" ++ value.render
  | (key, value) :: members => quote key ++ ":" ++ value.render ++ "," ++ renderMembers members

end

def member? (key : String) : Json → Option Json
  | .record members => members.lookup key
  | _ => none

end Json

/-! ## Reading

A value is read from left to right by recursive descent; every step consumes a character, so the
length of the text bounds the recursion.  Of several members of a record with one key the last
wins.
-/

namespace Json

def isSpace (c : Char) : Bool :=
  c = ' ' || c = '\t' || c = '\n' || c = '\r'

def skipSpace (cs : List Char) : List Char :=
  cs.dropWhile isSpace

def shortEscape? (c : Char) : Option Char :=
  match c with
  | 'b' => some '\x08'
  | 'f' => some '\x0c'
  | 'n' => some '\n'
  | 'r' => some '\r'
  | 't' => some '\t'
  | '/' => some '/'
  | '\\' => some '\\'
  | '\x22' => some '\x22'
  | _ => none

/-- Reads the code unit behind `\u`; a high surrogate needs a low one behind it. -/
def readUnit (cs : List Char) : Option (Char × List Char) := do
  let unit ← if 4 ≤ cs.length then Text.hexNumber? (cs.take 4) else none
  let rest := cs.drop 4
  if 0xD800 ≤ unit ∧ unit < 0xDC00 then
    match rest with
    | '\\' :: 'u' :: rest => do
      let low ← if 4 ≤ rest.length then Text.hexNumber? (rest.take 4) else none
      if 0xDC00 ≤ low ∧ low < 0xE000 then
        let c ← Text.character? (0x10000 + (unit - 0xD800) * 1024 + (low - 0xDC00))
        return (c, rest.drop 4)
      else none
    | _ => none
  else
    let c ← Text.character? unit
    return (c, rest)

def readText (fuel : Nat) (read : List Char) (cs : List Char) : Option (String × List Char) :=
  match fuel, cs with
  | 0, _ => none
  | _, [] => none
  | _, '\x22' :: rest => some (String.ofList read.reverse, rest)
  | fuel + 1, '\\' :: 'u' :: rest => do
    let (c, rest) ← readUnit rest
    readText fuel (c :: read) rest
  | fuel + 1, '\\' :: c :: rest => do
    let c ← shortEscape? c
    readText fuel (c :: read) rest
  | fuel + 1, c :: rest => if c.toNat < 32 then none else readText fuel (c :: read) rest

def readFraction (cs : List Char) : Option (List Char) × List Char :=
  match cs with
  | '.' :: rest => (some (rest.takeWhile Char.isDigit), rest.dropWhile Char.isDigit)
  | _ => (none, cs)

def readExponent (cs : List Char) : Option (Bool × List Char) × List Char :=
  match cs with
  | c :: rest =>
    if c = 'e' ∨ c = 'E' then
      match rest with
      | '-' :: rest => (some (true, rest.takeWhile Char.isDigit), rest.dropWhile Char.isDigit)
      | '+' :: rest => (some (false, rest.takeWhile Char.isDigit), rest.dropWhile Char.isDigit)
      | _ => (some (false, rest.takeWhile Char.isDigit), rest.dropWhile Char.isDigit)
    else (none, cs)
  | [] => (none, cs)

/-- Takes digits into a number as long as it stays within 64 bits; the further digits are left. -/
def takeDigits (n : Nat) : List Char → Nat × List Char
  | [] => (n, [])
  | c :: cs =>
    let next := 10 * n + Text.digitValue c
    if next < 18446744073709551616 then takeDigits next cs else (n, c :: cs)

/-- The floating-point number with these digits, in front of and behind the point, and this
exponent.  Digits that do not fit into 64 bits count as zeros. -/
def realOf? (negative : Bool) (whole fraction : List Char) (exponent : Int) : Option Json :=
  let (digits, ignored) := takeDigits 0 whole
  let (digits, left) := takeDigits digits fraction
  let places : Int := ignored.length - (fraction.length - left.length : Nat)
  (Floating.ofDecimal? negative digits (places + exponent)).map .real

/-- A whole number, or the floating-point number for one that is too large; minus zero is a
floating-point number. -/
def wholeOf? (negative : Bool) (whole : List Char) : Option Json :=
  let n := Text.valueOfDigits whole
  if negative then
    if 0 < n ∧ Word.least ≤ -(n : Int) then some (.integer (-n)) else realOf? true whole [] 0
  else if n < 18446744073709551616 then some (.integer n)
  else realOf? false whole [] 0

def readNumber (negative : Bool) (cs : List Char) : Option (Json × List Char) :=
  let whole := cs.takeWhile Char.isDigit
  let (fraction, rest) := readFraction (cs.dropWhile Char.isDigit)
  let (exponent, rest) := readExponent rest
  if whole.isEmpty ∨ (1 < whole.length ∧ whole.head? = some '0') ∨ fraction = some [] then none
  else
    let number := match fraction, exponent with
      | none, none => wholeOf? negative whole
      | _, some (_, []) => none
      | _, none => realOf? negative whole (fraction.getD []) 0
      | _, some (down, digits) =>
        let size : Int := Text.valueOfDigits digits
        realOf? negative whole (fraction.getD []) (if down then -size else size)
    number.map fun number => (number, rest)

def setMember (key : String) (value : Json) (members : List (String × Json)) :
    List (String × Json) :=
  members.filter (fun member => member.1 ≠ key) ++ [(key, value)]

mutual

/-- Reads a value, with blanks in front of it. -/
def readValue : Nat → List Char → Option (Json × List Char)
  | 0, _ => none
  | fuel + 1, cs =>
    match skipSpace cs with
    | 'n' :: 'u' :: 'l' :: 'l' :: rest => some (.null, rest)
    | 't' :: 'r' :: 'u' :: 'e' :: rest => some (.truth true, rest)
    | 'f' :: 'a' :: 'l' :: 's' :: 'e' :: rest => some (.truth false, rest)
    | '\x22' :: rest =>
      (readText (rest.length + 1) [] rest).map fun found => (.text found.1, found.2)
    | '[' :: rest =>
      match skipSpace rest with
      | ']' :: rest => some (.list [], rest)
      | _ => readItems fuel [] rest
    | '\x7b' :: rest =>
      match skipSpace rest with
      | '\x7d' :: rest => some (.record [], rest)
      | _ => readMembers fuel [] rest
    | '-' :: rest => readNumber true rest
    | rest => readNumber false rest

def readItems : Nat → List Json → List Char → Option (Json × List Char)
  | 0, _, _ => none
  | fuel + 1, items, cs =>
    match readValue fuel cs with
    | none => none
    | some (item, rest) =>
      match skipSpace rest with
      | ',' :: rest => readItems fuel (item :: items) rest
      | ']' :: rest => some (.list (item :: items).reverse, rest)
      | _ => none

def readMembers : Nat → List (String × Json) → List Char → Option (Json × List Char)
  | 0, _, _ => none
  | fuel + 1, members, cs =>
    match skipSpace cs with
    | '\x22' :: rest =>
      match readText (rest.length + 1) [] rest with
      | none => none
      | some (key, rest) =>
        match skipSpace rest with
        | ':' :: rest =>
          match readValue fuel rest with
          | none => none
          | some (value, rest) =>
            match skipSpace rest with
            | ',' :: rest => readMembers fuel (setMember key value members) rest
            | '\x7d' :: rest => some (.record (setMember key value members), rest)
            | _ => none
        | _ => none
    | _ => none

end

def ofText? (s : String) : Option Json :=
  match readValue (2 * s.length + 2) s.toList with
  | some (value, rest) => if (skipSpace rest).isEmpty then some value else none
  | none => none

end Json

end Arrears
