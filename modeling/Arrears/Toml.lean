import Arrears.Moment

/-!
# TOML

A document is a row of lines with a key and its value, headers of tables, comments and blanks.
Values are read by recursive descent, with less than 80 levels of brackets; every step consumes a
character, so the length of the text bounds the recursion.
-/

namespace Arrears

/-! ## Numbers, truth values and dates

A scalar without quotes is a stretch of letters, digits and the characters `+`, `-`, `.`, `:` and
`_`.  Integers have to fit a signed 64-bit word.  A positive floating-point number must not be so
large that it is rounded to infinity.  Dates have to be on the calendar and times on the clock.
-/

namespace Toml

/-- What a scalar without quotes can be; dates and floating-point numbers are not told apart
any further. -/
inductive Scalar
  | truth (value : Bool)
  | integer (value : Int)
  | real
  | date
deriving DecidableEq, Repr

def isScalarChar (c : Char) : Bool :=
  c.isAlphanum || c = '+' || c = '-' || c = '.' || c = ':' || c = '_'

/-- Digits with single separators between them, without the separators. -/
def grouped? (isDigit : Char → Bool) : List Char → Option (List Char)
  | [] => none
  | [c] => if isDigit c then some [c] else none
  | c :: '_' :: cs => if isDigit c then (grouped? isDigit cs).map (c :: ·) else none
  | c :: cs => if isDigit c then (grouped? isDigit cs).map (c :: ·) else none

def splitSign : List Char → Bool × List Char
  | '-' :: cs => (true, cs)
  | '+' :: cs => (false, cs)
  | cs => (false, cs)

def whole? (cs : List Char) : Option Nat :=
  match grouped? Char.isDigit cs with
  | some ['0'] => some 0
  | some ('0' :: _) => none
  | some digits => some (Text.valueOfDigits digits)
  | none => none

def based? (base : Nat) (cs : List Char) : Option Nat := do
  let digits ← grouped? (fun c => (Text.hexDigit? c).any (· < base)) cs
  digits.foldlM (fun n c => (Text.hexDigit? c).map fun d => base * n + d) 0

def integer? (cs : List Char) : Option Int :=
  let value : Option Int := match cs with
    | '0' :: 'x' :: digits => (based? 16 digits).map fun n => (n : Int)
    | '0' :: 'o' :: digits => (based? 8 digits).map fun n => (n : Int)
    | '0' :: 'b' :: digits => (based? 2 digits).map fun n => (n : Int)
    | _ =>
      (whole? (splitSign cs).2).map fun n => if (splitSign cs).1 then -(n : Int) else n
  value.filter fun n => decide (Word.Fits n)

def infinite : Nat :=
  Nat.pow 2 1024 - Nat.pow 2 970

/-- Whether `digits * 10 ^ exponent` is rounded to infinity. -/
def isInfinite (digits : Nat) (exponent : Int) : Bool :=
  if digits = 0 then false
  else if 400 < exponent then true
  else if 0 ≤ exponent then infinite ≤ digits * Text.tenTo exponent.toNat
  else if (Text.digits digits).length ≤ exponent.natAbs then false
  else infinite * Text.tenTo exponent.natAbs ≤ digits

def exponent? (cs : List Char) : Option Int :=
  (grouped? Char.isDigit (splitSign cs).2).map fun digits =>
    if (splitSign cs).1 then -(Text.valueOfDigits digits : Int) else Text.valueOfDigits digits

def isExponentMark (c : Char) : Bool :=
  c = 'e' || c = 'E'

def isReal (negative : Bool) (cs : List Char) : Bool :=
  let number := cs.takeWhile fun c => !isExponentMark c
  let power := cs.dropWhile fun c => !isExponentMark c
  let front := number.takeWhile fun c => c ≠ '.'
  let back := number.dropWhile fun c => c ≠ '.'
  let fraction := if back.isEmpty then some [] else grouped? Char.isDigit (back.drop 1)
  let exponent := if power.isEmpty then some 0 else exponent? (power.drop 1)
  match whole? front, fraction, exponent with
  | some whole, some digits, some exponent =>
    !(back.isEmpty && power.isEmpty) &&
      (negative ||
        !isInfinite (whole * Text.tenTo digits.length + Text.valueOfDigits digits)
          (exponent - digits.length))
  | _, _, _ => false

def real? (cs : List Char) : Bool :=
  let unsigned := (splitSign cs).2
  unsigned = ['i', 'n', 'f'] || unsigned = ['n', 'a', 'n'] || isReal (splitSign cs).1 unsigned

/-- The number that exactly the given digits denote, if it lies between two bounds. -/
def field? (low high : Nat) (cs : List Char) : Option Nat :=
  (Text.numeral? cs).filter fun n => low ≤ n && n ≤ high

def isDate : List Char → Bool
  | [y₁, y₂, y₃, y₄, '-', m₁, m₂, '-', d₁, d₂] =>
    match Text.numeral? [y₁, y₂, y₃, y₄], Text.numeral? [m₁, m₂], Text.numeral? [d₁, d₂] with
    | some year, some month, some day => Calendar.exists? ⟨year, month, day⟩
    | _, _, _ => false
  | _ => false

def isFraction : List Char → Bool
  | [] => true
  | '.' :: cs => (Text.numeral? cs).isSome
  | _ => false

def isTime : List Char → Bool
  | h₁ :: h₂ :: ':' :: m₁ :: m₂ :: ':' :: s₁ :: s₂ :: rest =>
    (field? 0 23 [h₁, h₂]).isSome && (field? 0 59 [m₁, m₂]).isSome &&
      (field? 0 60 [s₁, s₂]).isSome && isFraction rest
  | _ => false

def isOffset : List Char → Bool
  | ['Z'] => true
  | ['z'] => true
  | [sign, h₁, h₂, ':', m₁, m₂] =>
    (sign = '+' || sign = '-') && (field? 0 23 [h₁, h₂]).isSome &&
      (field? 0 59 [m₁, m₂]).isSome
  | _ => false

def isOffsetTime (cs : List Char) : Bool :=
  let belongs := fun c : Char => c.isDigit || c = ':' || c = '.'
  let offset := cs.dropWhile belongs
  isTime (cs.takeWhile belongs) && (offset.isEmpty || isOffset offset)

def isDateOrTime (cs : List Char) : Bool :=
  isTime cs || isDate cs ||
    (isDate (cs.take 10) &&
      match cs.drop 10 with
      | c :: rest => (c = 'T' || c = 't') && isOffsetTime rest
      | [] => false)

def scalarOf? (cs : List Char) : Option Scalar :=
  if cs = ['t', 'r', 'u', 'e'] then some (.truth true)
  else if cs = ['f', 'a', 'l', 's', 'e'] then some (.truth false)
  else if isDateOrTime cs then some .date
  else if real? cs then some .real
  else (integer? cs).map .integer

/-- Reads a scalar.  A date may have a space and a time behind it. -/
def readScalar (cs : List Char) : Option (Scalar × List Char) := do
  let stretch := cs.takeWhile isScalarChar
  let rest := cs.dropWhile isScalarChar
  let scalar ← scalarOf? stretch
  match isDate stretch, rest with
  | true, ' ' :: c :: rest =>
    if c.isDigit then
      if isOffsetTime ((c :: rest).takeWhile isScalarChar) then
        return (.date, (c :: rest).dropWhile isScalarChar)
      else none
    else return (scalar, ' ' :: c :: rest)
  | _, rest => return (scalar, rest)

end Toml

/-! ## Quoted strings

Basic strings are marked by double quotes and have escapes; literal strings are marked by single
quotes and have none.  Between triple marks a string may go on over several lines; one or two marks
belong to it, and a backslash at the end of a line swallows the blanks and line ends that follow.
-/

namespace Toml

structure Quoting where
  mark : Char
  escapes : Bool
  manyLines : Bool
deriving DecidableEq, Repr

inductive Inside
  | plain
  | marks (count : Nat)
  | escape
  /-- Behind a backslash and blanks; a line end has to follow. -/
  | lineEnd
  | swallowing
  /-- In the hexadecimal digits of a code point. -/
  | code (missing value : Nat)
deriving DecidableEq, Repr

/-- Tabs, printable ASCII characters and all others may stand in strings and comments. -/
def isPrintable (c : Char) : Bool :=
  c = '\t' || (32 ≤ c.toNat && c.toNat ≤ 126) || 128 ≤ c.toNat

def isBlank (c : Char) : Bool :=
  c = ' ' || c = '\t'

def plainStep (q : Quoting) (c : Char) : Option (Inside × List Char) :=
  if c = q.mark then some (.marks 1, [])
  else if q.escapes ∧ c = '\\' then some (.escape, [])
  else if q.manyLines ∧ c = '\n' then some (.plain, [c])
  else if isPrintable c then some (.plain, [c])
  else none

def escapeStep (q : Quoting) (c : Char) : Option (Inside × List Char) :=
  match c with
  | 'b' => some (.plain, ['\x08'])
  | 't' => some (.plain, ['\t'])
  | 'n' => some (.plain, ['\n'])
  | 'f' => some (.plain, ['\x0c'])
  | 'r' => some (.plain, ['\r'])
  | '\x22' => some (.plain, ['\x22'])
  | '\\' => some (.plain, ['\\'])
  | 'u' => some (.code 4 0, [])
  | 'U' => some (.code 8 0, [])
  | _ =>
    if q.manyLines ∧ isBlank c then some (.lineEnd, [])
    else if q.manyLines ∧ c = '\n' then some (.swallowing, [])
    else none

/-- One step of the automaton: the new state and the characters that belong to the string. -/
def step (q : Quoting) (state : Inside) (c : Char) : Option (Inside × List Char) :=
  match state with
  | .plain => plainStep q c
  | .marks count =>
    if c = q.mark then (if count < 5 then some (.marks (count + 1), []) else none)
    else (plainStep q c).map fun next => (next.1, List.replicate count q.mark ++ next.2)
  | .escape => escapeStep q c
  | .lineEnd =>
    if isBlank c then some (.lineEnd, [])
    else if c = '\n' then some (.swallowing, [])
    else none
  | .swallowing =>
    if isBlank c ∨ c = '\n' then some (.swallowing, []) else plainStep q c
  | .code missing value => do
    let digit ← Text.hexDigit? c
    let value := 16 * value + digit
    if missing = 1 then
      let c ← Text.character? value
      return (.plain, [c])
    else
      return (.code (missing - 1) value, [])

/-- Whether the string has ended in front of the next character, and the marks in front of the
closing ones that belong to it. -/
def ended? (q : Quoting) (state : Inside) (next : Option Char) : Option (List Char) :=
  match state with
  | .marks count =>
    if !q.manyLines then some []
    else if 3 ≤ count ∧ next ≠ some q.mark then some (List.replicate (count - 3) q.mark)
    else none
  | _ => none

/-- Passes characters through the automaton until the string ends; `read` holds the characters of
the string in reverse. -/
def readQuoted (q : Quoting) (state : Inside) (read : List Char) :
    List Char → Option (String × List Char)
  | [] => (ended? q state none).map fun marks => (String.ofList (read.reverse ++ marks), [])
  | c :: cs =>
    match ended? q state (some c) with
    | some marks => some (String.ofList (read.reverse ++ marks), c :: cs)
    | none =>
      match step q state c with
      | some (state, chars) => readQuoted q state (chars.reverse ++ read) cs
      | none => none

def readLineString : List Char → Option (String × List Char)
  | '\x22' :: cs => readQuoted ⟨'\x22', true, false⟩ .plain [] cs
  | '\x27' :: cs => readQuoted ⟨'\x27', false, false⟩ .plain [] cs
  | _ => none

/-- A line end directly behind the opening marks does not belong to the string. -/
def dropLineEnd : List Char → List Char
  | '\n' :: cs => cs
  | cs => cs

def readString : List Char → Option (String × List Char)
  | '\x22' :: '\x22' :: '\x22' :: cs =>
    readQuoted ⟨'\x22', true, true⟩ .plain [] (dropLineEnd cs)
  | '\x27' :: '\x27' :: '\x27' :: cs =>
    readQuoted ⟨'\x27', false, true⟩ .plain [] (dropLineEnd cs)
  | cs => readLineString cs

end Toml

/-! ## Values and tables

A table under construction remembers how each of its tables came about, because that decides what
may be added to it.  Assigning a value under dotted keys makes the tables on the way; it may only
enter tables that no header has opened, and the last of them has to be made by dotted keys.  Nothing
is ever defined twice.
-/

namespace Toml

/-- A TOML value; dates and floating-point numbers are not told apart any further. -/
inductive Value
  | text (value : String)
  | integer (value : Int)
  | real
  | truth (value : Bool)
  | date
  | list (items : List Value)
  | table (fields : List (String × Value))

inductive Origin
  | header
  | onTheWay
  | dotted
deriving DecidableEq, Repr

inductive Node
  | value (value : Value)
  | table (origin : Origin) (fields : List (String × Node))
  /-- A row of tables, the last one first. -/
  | row (tables : List (List (String × Node)))

abbrev Fields : Type :=
  List (String × Node)

/-- Gives a key that is already there another meaning. -/
def Fields.set (key : String) (node : Node) (fields : Fields) : Fields :=
  fields.map fun field => if field.1 = key then (key, node) else field

/-- Assigns a value under the keys of `path` and a last key. -/
def Fields.assign (path : List String) (key : String) (value : Value) (fields : Fields) :
    Option Fields :=
  match path with
  | [] =>
    match fields.lookup key with
    | some _ => none
    | none => some (fields ++ [(key, .value value)])
  | first :: path =>
    match fields.lookup first with
    | none =>
      (Fields.assign path key value []).map fun sub => fields ++ [(first, .table .dotted sub)]
    | some (.value _) => none
    | some (.table origin sub) =>
      if origin = .header ∨ (path.isEmpty ∧ origin ≠ .dotted) then none
      else
        (Fields.assign path key value sub).map fun sub =>
          fields.set first (.table origin sub)
    | some (.row []) => none
    | some (.row (last :: others)) =>
      if path.isEmpty then none
      else
        (Fields.assign path key value last).map fun last =>
          fields.set first (.row (last :: others))

/-- Changes the table that a path leads to, through the last table of each row on the way.
Tables that are missing on the way are made. -/
def Fields.within (path : List String) (change : Fields → Option Fields) (fields : Fields) :
    Option Fields :=
  match path with
  | [] => change fields
  | first :: path =>
    match fields.lookup first with
    | none =>
      (Fields.within path change []).map fun sub => fields ++ [(first, .table .onTheWay sub)]
    | some (.value _) => none
    | some (.table origin sub) =>
      (Fields.within path change sub).map fun sub => fields.set first (.table origin sub)
    | some (.row []) => none
    | some (.row (last :: others)) =>
      (Fields.within path change last).map fun last => fields.set first (.row (last :: others))

def Fields.openTable (key : String) (fields : Fields) : Option Fields :=
  match fields.lookup key with
  | none => some (fields ++ [(key, .table .header [])])
  | some (.table .onTheWay sub) => some (fields.set key (.table .header sub))
  | some _ => none

def Fields.extendRow (key : String) (fields : Fields) : Option Fields :=
  match fields.lookup key with
  | none => some (fields ++ [(key, .row [[]])])
  | some (.row tables) => some (fields.set key (.row ([] :: tables)))
  | some _ => none

mutual

def Node.toValue : Node → Value
  | .value value => value
  | .table _ fields => .table (fieldValues fields)
  | .row tables => .list (rowValues tables).reverse

def fieldValues : List (String × Node) → List (String × Value)
  | [] => []
  | (key, node) :: fields => (key, node.toValue) :: fieldValues fields

def rowValues : List (List (String × Node)) → List Value
  | [] => []
  | fields :: tables => .table (fieldValues fields) :: rowValues tables

end

end Toml

/-! ## Documents -/

namespace Toml

/-- Replaces each carriage return with a line feed behind it by the line feed; a carriage return
cannot stand alone. -/
def uniformLines : List Char → Option (List Char)
  | [] => some []
  | '\r' :: '\n' :: cs => (uniformLines cs).map ('\n' :: ·)
  | '\r' :: _ => none
  | c :: cs => (uniformLines cs).map (c :: ·)

def skipBlanks (cs : List Char) : List Char :=
  cs.dropWhile isBlank

def skipComment : List Char → Option (List Char)
  | '#' :: cs =>
    match cs.dropWhile isPrintable with
    | [] => some []
    | '\n' :: rest => some ('\n' :: rest)
    | _ => none
  | cs => some cs

def endLine (cs : List Char) : Option (List Char) :=
  match skipComment (skipBlanks cs) with
  | some [] => some []
  | some ('\n' :: rest) => some rest
  | _ => none

def skipLines : Nat → List Char → Option (List Char)
  | 0, cs => some cs
  | fuel + 1, cs =>
    match skipBlanks cs with
    | '\n' :: rest => skipLines fuel rest
    | '#' :: rest => do
      let rest ← skipComment ('#' :: rest)
      skipLines fuel rest
    | rest => some rest

def isKeyChar (c : Char) : Bool :=
  c.isAlphanum || c = '-' || c = '_'

def readSimpleKey (cs : List Char) : Option (String × List Char) :=
  match cs with
  | '\x22' :: _ => readLineString cs
  | '\x27' :: _ => readLineString cs
  | _ =>
    match cs.takeWhile isKeyChar with
    | [] => none
    | key => some (String.ofList key, cs.dropWhile isKeyChar)

def readKeys : Nat → List Char → Option (List String × List Char)
  | 0, _ => none
  | fuel + 1, cs => do
    let (key, rest) ← readSimpleKey (skipBlanks cs)
    match skipBlanks rest with
    | '.' :: rest => do
      let (keys, rest) ← readKeys fuel rest
      return (key :: keys, rest)
    | rest => return ([key], rest)

def keyLimit : Nat :=
  79

def depthLimit : Nat :=
  79

def splitLast : List String → Option (List String × String)
  | [] => none
  | [key] => some ([], key)
  | key :: keys => (splitLast keys).map fun found => (key :: found.1, found.2)

def readKey (cs : List Char) : Option ((List String × String) × List Char) := do
  let (keys, rest) ← readKeys keyLimit cs
  let split ← splitLast keys
  return (split, rest)

def Scalar.toValue : Scalar → Value
  | .truth value => .truth value
  | .integer value => .integer value
  | .real => .real
  | .date => .date

mutual

def readValue (depth : Nat) : Nat → List Char → Option (Value × List Char)
  | 0, _ => none
  | fuel + 1, cs =>
    match cs with
    | '[' :: rest =>
      if depth < depthLimit then do
        let rest ← skipLines rest.length rest
        match rest with
        | ']' :: rest => return (.list [], rest)
        | _ => readItems (depth + 1) fuel [] rest
      else none
    | '\x7b' :: rest =>
      if depth < depthLimit then
        match skipBlanks rest with
        | '\x7d' :: rest => some (.table [], rest)
        | _ => readFields (depth + 1) fuel [] rest
      else none
    | '\x22' :: _ => (readString cs).map fun found => (.text found.1, found.2)
    | '\x27' :: _ => (readString cs).map fun found => (.text found.1, found.2)
    | _ => (readScalar cs).map fun found => (found.1.toValue, found.2)

def readItems (depth : Nat) : Nat → List Value → List Char → Option (Value × List Char)
  | 0, _, _ => none
  | fuel + 1, items, cs => do
    let (item, rest) ← readValue depth fuel cs
    let rest ← skipLines rest.length rest
    match rest with
    | ']' :: rest => return (.list (item :: items).reverse, rest)
    | ',' :: rest => do
      let rest ← skipLines rest.length rest
      match rest with
      | ']' :: rest => return (.list (item :: items).reverse, rest)
      | _ => readItems depth fuel (item :: items) rest
    | _ => none

def readFields (depth : Nat) : Nat → Fields → List Char → Option (Value × List Char)
  | 0, _, _ => none
  | fuel + 1, fields, cs => do
    let ((path, key), rest) ← readKey cs
    match rest with
    | '=' :: rest => do
      let (value, rest) ← readValue depth fuel (skipBlanks rest)
      let fields ← fields.assign path key value
      match skipBlanks rest with
      | '\x7d' :: rest => return (.table (fieldValues fields), rest)
      | ',' :: rest => readFields depth fuel fields rest
      | _ => none
    | _ => none

end

/-- A document under construction: its fields, and the path of the last header. -/
structure Progress where
  root : Fields
  header : List String

def readAssignment (fuel : Nat) (progress : Progress) (cs : List Char) :
    Option (Progress × List Char) := do
  let ((path, key), rest) ← readKey cs
  match rest with
  | '=' :: rest => do
    let (value, rest) ← readValue 0 fuel (skipBlanks rest)
    let rest ← endLine rest
    let root ← progress.root.within progress.header (Fields.assign path key value)
    return ({ progress with root := root }, rest)
  | _ => none

def readHeader (progress : Progress) (cs : List Char) : Option (Progress × List Char) :=
  match cs with
  | '[' :: cs => do
    let ((path, key), rest) ← readKey cs
    match rest with
    | ']' :: ']' :: rest => do
      let rest ← endLine rest
      let root ← progress.root.within path (Fields.extendRow key)
      return (⟨root, path ++ [key]⟩, rest)
    | _ => none
  | _ => do
    let ((path, key), rest) ← readKey cs
    match rest with
    | ']' :: rest => do
      let rest ← endLine rest
      let root ← progress.root.within path (Fields.openTable key)
      return (⟨root, path ++ [key]⟩, rest)
    | _ => none

def readStatements : Nat → Progress → List Char → Option Fields
  | 0, _, _ => none
  | fuel + 1, progress, cs =>
    match skipBlanks cs with
    | [] => some progress.root
    | '\n' :: rest => readStatements fuel progress rest
    | '#' :: rest => do
      let rest ← endLine ('#' :: rest)
      readStatements fuel progress rest
    | '[' :: rest => do
      let (progress, rest) ← readHeader progress rest
      readStatements fuel progress rest
    | rest => do
      let (progress, rest) ← readAssignment (fuel + 1) progress rest
      readStatements fuel progress rest

def skipByteOrderMark : List Char → List Char
  | '\ufeff' :: cs => cs
  | cs => cs

def ofText? (s : String) : Option (List (String × Value)) := do
  let cs ← uniformLines (skipByteOrderMark s.toList)
  let fields ← readStatements (2 * cs.length + 2) ⟨[], []⟩ cs
  return fieldValues fields

end Toml

end Arrears
