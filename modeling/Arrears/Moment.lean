import Arrears.Basic

/-!
# Moments

A moment is a second since the start of 1970 (UTC) and the nanoseconds that have passed in it.
During a leap second the nanoseconds count on beyond a thousand million.  Moments are ordered by
second and then by nanosecond.
-/

namespace Arrears

structure Moment where
  seconds : Int
  nanos : Nat
  nanos_lt : nanos < 2000000000
deriving DecidableEq, Repr

namespace Moment

/-- A leap second is the last of its minute.  A moment can be made that has one elsewhere, but no
clock shows it and no text says it. -/
def Regular (t : Moment) : Prop :=
  1000000000 ≤ t.nanos → t.seconds % 60 = 59

instance (t : Moment) : Decidable t.Regular :=
  inferInstanceAs (Decidable (_ → _))

def ofParts? (seconds : Int) (nanos : Nat) : Option Moment :=
  if h : nanos < 2000000000 ∧ (1000000000 ≤ nanos → seconds % 60 = 59) then
    some ⟨seconds, nanos, h.1⟩
  else
    none

def ofSeconds (seconds : Int) : Moment :=
  ⟨seconds, 0, by decide⟩

/-- The moment so many nanoseconds after the start of 1970 (UTC), leap seconds not counted. -/
def ofNanoseconds (n : Int) : Moment :=
  ⟨n / 1000000000, (n % 1000000000).toNat, by omega⟩

instance : LE Moment :=
  ⟨fun a b => a.seconds < b.seconds ∨ a.seconds = b.seconds ∧ a.nanos ≤ b.nanos⟩

instance : LT Moment :=
  ⟨fun a b => a.seconds < b.seconds ∨ a.seconds = b.seconds ∧ a.nanos < b.nanos⟩

instance (a b : Moment) : Decidable (a ≤ b) :=
  inferInstanceAs (Decidable (_ ∨ _ ∧ _))

instance (a b : Moment) : Decidable (a < b) :=
  inferInstanceAs (Decidable (_ ∨ _ ∧ _))

end Moment

/-! ## The calendar

Days are counted from the first of January of the year 0, in the Gregorian calendar carried back
before its introduction.
-/

namespace Calendar

/-- Leap years are divisible by 4, but among the centuries only those divisible by 400. -/
def isLeap (year : Int) : Bool :=
  year % 4 = 0 && (year % 100 != 0 || year % 400 = 0)

def monthLengths (leap : Bool) : List Nat :=
  [31, if leap then 29 else 28, 31, 30, 31, 30, 31, 31, 30, 31, 30, 31]

/-- The number of days from the start of year 0 to the start of a year. -/
def daysBeforeYear (year : Int) : Int :=
  365 * year + (year + 3) / 4 - (year + 99) / 100 + (year + 399) / 400

def yearOfDay (day : Int) : Int :=
  let guess := day * 400 / 146097
  if daysBeforeYear (guess + 1) ≤ day then guess + 1
  else if day < daysBeforeYear guess then guess - 1
  else guess

/-- Splits a day, counted from 0, over spans of the given lengths: the number of whole spans in
front of it and the days passed in its own span. -/
def splitDay : List Nat → Nat → Nat × Nat
  | [], day => (0, day)
  | length :: lengths, day =>
    if day < length then (0, day)
    else ((splitDay lengths (day - length)).1 + 1, (splitDay lengths (day - length)).2)

structure Date where
  year : Int
  month : Nat
  day : Nat
deriving DecidableEq, Repr

def dateOfDay (day : Int) : Date :=
  let year := yearOfDay day
  let split := splitDay (monthLengths (isLeap year)) (day - daysBeforeYear year).toNat
  ⟨year, split.1 + 1, split.2 + 1⟩

def exists? (date : Date) : Bool :=
  match date.month, date.day with
  | 0, _ => false
  | _, 0 => false
  | month + 1, day + 1 =>
    match (monthLengths (isLeap date.year))[month]? with
    | some length => day < length
    | none => false

def daysBeforeMonth (leap : Bool) (month : Nat) : Nat :=
  ((monthLengths leap).take (month - 1)).foldl (· + ·) 0

def dayOfDate (date : Date) : Int :=
  daysBeforeYear date.year + daysBeforeMonth (isLeap date.year) date.month + (date.day - 1 : Nat)

def epochDay : Int :=
  719528

end Calendar

/-! ## Writing

A moment is written in the RFC 3339 form, in UTC.  Years from 0 to 9999 have four digits, other
years a sign and at least four.  The fraction has 0, 3, 6 or 9 digits, the fewest that lose
nothing, and the extra second of a minute is number 60.
-/

namespace Moment

def day (t : Moment) : Int :=
  t.seconds / 86400 + Calendar.epochDay

def secondOfDay (t : Moment) : Nat :=
  (t.seconds % 86400).toNat

def yearText (year : Int) : List Char :=
  if year < 0 then '-' :: Text.padded 4 year.natAbs
  else if year ≤ 9999 then Text.padded 4 year.natAbs
  else '+' :: Text.padded 4 year.natAbs

def fractionText (nanos : Nat) : List Char :=
  if nanos = 0 then []
  else if nanos % 1000000 = 0 then '.' :: Text.padded 3 (nanos / 1000000)
  else if nanos % 1000 = 0 then '.' :: Text.padded 6 (nanos / 1000)
  else '.' :: Text.padded 9 nanos

def dateText (date : Calendar.Date) : List Char :=
  yearText date.year ++ '-' :: Text.padded 2 date.month ++ '-' :: Text.padded 2 date.day

/-- The time of day in writing; the leap second follows second 59. -/
def timeText (second nanos : Nat) : List Char :=
  Text.padded 2 (second / 3600) ++ ':' :: Text.padded 2 (second / 60 % 60) ++
    ':' :: Text.padded 2 (second % 60 + nanos / 1000000000) ++
    fractionText (nanos % 1000000000)

def localText (t : Moment) : List Char :=
  dateText (Calendar.dateOfDay t.day) ++ 'T' :: timeText t.secondOfDay t.nanos

def text (t : Moment) : String :=
  String.ofList (t.localText ++ ['+', '0', '0', ':', '0', '0'])

def zuluText (t : Moment) : String :=
  String.ofList (t.localText ++ ['Z'])

end Moment

/-! ## Reading

A text is read in a relaxed RFC 3339 form, part by part from left to right.  A part that is out of
its range is refused where it stands; then the end of the text, the date and the offset are
checked.
-/

namespace Moment

inductive Fault
  | invalid
  | outOfRange
  | tooShort
  | tooLong
  | impossible
deriving DecidableEq, Repr

def Fault.message : Fault → String
  | .invalid => "input contains invalid characters"
  | .outOfRange => "input is out of range"
  | .tooShort => "premature end of input"
  | .tooLong => "trailing input"
  | .impossible => "no possible date and time matching input"

/-- Reading takes parts from the front of a text. -/
abbrev Reading (α : Type) : Type :=
  StateT (List Char) (Except Fault) α

/-- Takes the digits at the front, at most `width` of them, as a number. -/
def readNumber (width : Nat) : Reading Nat := do
  let cs ← get
  let found := (cs.take width).takeWhile Char.isDigit
  if found.isEmpty then
    throw (if cs.isEmpty then .tooShort else .invalid)
  set (cs.drop found.length)
  return Text.valueOfDigits found

def skipBlanks : Reading Unit :=
  modify Text.trimStart

/-- Takes a year: up to four digits, or a sign and any number of digits. -/
def readYear : Reading Int := do
  skipBlanks
  let cs ← get
  let year : Int ← match cs with
    | '-' :: rest => do
      set rest
      let n ← readNumber rest.length
      pure (-(n : Int))
    | '+' :: rest => do
      set rest
      let n ← readNumber rest.length
      pure (n : Int)
    | _ => do
      let n ← readNumber 4
      pure (n : Int)
  if year < -2147483648 ∨ 2147483647 < year then
    throw .outOfRange
  return year

/-- Takes a number of at most two digits between two bounds, with blanks in front of it. -/
def readBounded (low high : Nat) : Reading Nat := do
  skipBlanks
  let n ← readNumber 2
  if n < low ∨ high < n then
    throw .outOfRange
  return n

def readChar (p : Char → Bool) : Reading Char := do
  match ← get with
  | [] => throw .tooShort
  | c :: rest =>
    if !p c then
      throw .invalid
    set rest
    return c

def readSeparator (separator : Char) : Reading Unit := do
  skipBlanks
  discard (readChar (· = separator))

/-- Takes a fraction of a second in nanoseconds; digits behind the ninth are passed over. -/
def readFraction : Reading Nat := do
  match ← get with
  | '.' :: cs => do
    set cs
    let n ← readNumber 9
    let rest ← get
    set (rest.dropWhile Char.isDigit)
    return n * Text.tenTo (9 - (cs.length - rest.length))
  | _ => return 0

/-- Takes two digits, of which the first is at most `limit`.  A single ASCII character at the end
of the text is too short a pair. -/
def readPair (limit : Char) : Reading Nat := do
  match ← get with
  | [] => throw .tooShort
  | [c] => throw (if c.toNat < 128 then .tooShort else .invalid)
  | c :: d :: rest =>
    if !(c.isDigit && d.isDigit) then
      throw .invalid
    if c > limit then
      throw .outOfRange
    set rest
    return Text.valueOfDigits [c, d]

def readOffsetSize : Reading Nat := do
  let hours ← readPair '9'
  modify fun rest => rest.dropWhile fun c => c = ':' || Text.isBlank c
  let minutes ← readPair '5'
  return hours * 3600 + minutes * 60

def startsWithUtc (cs : List Char) : Bool :=
  (cs.take 3).map Char.toUpper = ['U', 'T', 'C']

/-- Takes an offset, in seconds east of Greenwich. -/
def readOffset : Reading Int := do
  let cs ← get
  if startsWithUtc cs then
    set (cs.drop 3)
    return 0
  let c ← readChar fun c => c = 'Z' || c = 'z' || c = '+' || c = '-' || c = '\u2212'
  if c = 'Z' ∨ c = 'z' then
    return 0
  let size ← readOffsetSize
  return if c = '+' then (size : Int) else -(size : Int)

def firstYear : Int :=
  -262143

def lastYear : Int :=
  262142

/-- The moment of a local date and time at an offset; second 60 is the leap second. -/
def ofLocal (date : Calendar.Date) (hour minute second nanos : Nat) (offset : Int) :
    Except Fault Moment :=
  if date.year < firstYear ∨ lastYear < date.year ∨ !Calendar.exists? date then
    .error .outOfRange
  else if offset ≤ -86400 ∨ 86400 ≤ offset then
    .error .outOfRange
  else
    let leap := second / 60
    let seconds : Int := (Calendar.dayOfDate date - Calendar.epochDay) * 86400 +
      (hour * 3600 + minute * 60 + (second - leap) : Nat) - offset
    let year := (Calendar.dateOfDay (seconds / 86400 + Calendar.epochDay)).year
    if year < firstYear ∨ lastYear < year then
      .error .impossible
    else
      match ofParts? seconds (nanos + leap * 1000000000) with
      | some t => .ok t
      | none => .error .impossible

def readMoment : Reading Moment := do
  let year ← readYear
  readSeparator '-'
  let month ← readBounded 1 12
  readSeparator '-'
  let day ← readBounded 1 31
  discard (readChar fun c => c = 'T' || c = 't' || c = ' ')
  let hour ← readBounded 0 23
  readSeparator ':'
  let minute ← readBounded 0 59
  readSeparator ':'
  let second ← readBounded 0 60
  let nanos ← readFraction
  skipBlanks
  let offset ← readOffset
  skipBlanks
  if !(← get).isEmpty then
    throw .tooLong
  ofLocal ⟨year, month, day⟩ hour minute second nanos offset

def ofText (s : String) : Except Fault Moment :=
  readMoment.run' s.toList

end Moment

end Arrears
