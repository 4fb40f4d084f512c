import Arrears.Basic

/-!
# Decimal numbers

A decimal number is a sign, a mantissa of at most 96 bits and a scale of at most 28 decimals; it
stands for the mantissa divided by the power of ten of the scale.  Several decimals stand for one
value: the scale counts trailing zeros too, and zero has a sign.
-/

namespace Arrears

def Decimal.maxMantissa : Nat :=
  79228162514264337593543950335

def Decimal.maxScale : Nat :=
  28

structure Decimal where
  negative : Bool
  /-- All digits of the number, read without the point. -/
  mantissa : Nat
  /-- The number of digits behind the point. -/
  scale : Nat
  mantissa_le : mantissa ≤ Decimal.maxMantissa
  scale_le : scale ≤ Decimal.maxScale
deriving DecidableEq, Repr

namespace Decimal

def ofParts? (negative : Bool) (mantissa scale : Nat) : Option Decimal :=
  if h : mantissa ≤ maxMantissa ∧ scale ≤ maxScale then
    some ⟨negative, mantissa, scale, h.1, h.2⟩
  else
    none

def signedMantissa (d : Decimal) : Int :=
  if d.negative then -(d.mantissa : Int) else d.mantissa

def stripZeros (mantissa : Nat) : Nat → Nat × Nat
  | 0 => (mantissa, 0)
  | scale + 1 =>
    if mantissa % 10 = 0 then stripZeros (mantissa / 10) scale else (mantissa, scale + 1)

/-- Adds zeros behind the point, as many as asked for or as a mantissa of 96 bits has room for. -/
def addZeros (mantissa scale : Nat) : Nat → Nat × Nat
  | 0 => (mantissa, scale)
  | zeros + 1 =>
    if 10 * mantissa ≤ maxMantissa then addZeros (10 * mantissa) (scale + 1) zeros
    else (mantissa, scale)

/-- Divides by a power of ten; a half goes away from zero. -/
def divideRounding (mantissa places : Nat) : Nat :=
  (mantissa + Text.tenTo places / 2) / Text.tenTo places

/-- The digits of the mantissa with the point in front of the last `scale` of them. -/
def plainText (mantissa scale : Nat) : List Char :=
  if scale = 0 then
    Text.digits mantissa
  else
    Text.digits (mantissa / Text.tenTo scale) ++
      '.' :: Text.padded scale (mantissa % Text.tenTo scale)

def text (d : Decimal) : String :=
  let plain := plainText d.mantissa d.scale
  String.ofList (if d.negative ∧ d.mantissa ≠ 0 then '-' :: plain else plain)

end Decimal

/-! ## Reading

A text holds one sign in front, digits, one point, separators `_` behind a digit, and an exponent
`e` or `E` behind the number.  The digits are taken one by one while the decimal has room for them.
In front of the point a digit too many is refused.  Behind the point the first digit that finds no
room decides the rounding, and everything after it has to be digits or separators but changes
nothing.

If this plain reading is refused and the text holds an `e` or `E`, the text in front of the first
such letter is read plainly and its point moved by the exponent behind it.
-/

namespace Decimal

inductive Fault
  | empty
  | noDigits
  | secondPoint
  | separatorFirst
  | unknownCharacter
  | tooManyDigits
  | roundingOverflow
  | badExponent
  | scaleTooLarge (scale : Nat)
  | tooLarge
deriving DecidableEq, Repr

def Fault.message : Fault → String
  | .empty => "Invalid decimal: empty"
  | .noDigits => "Invalid decimal: no digits found"
  | .secondPoint => "Invalid decimal: two decimal points"
  | .separatorFirst => "Invalid decimal: must start lead with a number"
  | .unknownCharacter => "Invalid decimal: unknown character"
  | .tooManyDigits => "Invalid decimal: overflow from too many digits"
  | .roundingOverflow => "Invalid decimal: overflow from mantissa after rounding"
  | .badExponent => "Failed to parse"
  | .scaleTooLarge scale =>
    "Scale exceeds the maximum precision allowed: " ++ Text.ofNat scale ++ " > 28"
  | .tooLarge => "Number exceeds maximum value that can be represented."

structure Magnitude where
  mantissa : Nat
  scale : Nat
deriving DecidableEq, Repr

structure Progress where
  pointSeen : Bool
  digitSeen : Bool
  mantissa : Nat
  scale : Nat
deriving DecidableEq, Repr

/-- Behind the rounding digit only digits and separators may follow. -/
def checkTail : List Char → Except Fault Unit
  | [] => .ok ()
  | c :: cs =>
    if c.isDigit || c = '_' then checkTail cs
    else if c = '.' then .error .secondPoint
    else .error .unknownCharacter

/-- Adds one in the last place if the rounding digit is five or more.  A mantissa that outgrows
its 96 bits by this loses its last digit. -/
def roundUp (mantissa scale digit : Nat) : Except Fault Magnitude :=
  if digit < 5 then .ok ⟨mantissa, scale⟩
  else if mantissa + 1 ≤ maxMantissa then .ok ⟨mantissa + 1, scale⟩
  else if scale = 0 then .error .roundingOverflow
  else .ok ⟨(mantissa + 1 + 4) / 10, scale - 1⟩

/-- Ends the reading at a character for which there is no room: a digit decides the rounding, a
separator counts as 0. -/
def roundAt (mantissa scale : Nat) : List Char → Except Fault Magnitude
  | [] => .ok ⟨mantissa, scale⟩
  | c :: cs => do
    checkTail (c :: cs)
    roundUp mantissa scale (if c = '_' then 0 else Text.digitValue c)

/-- Below this mantissa a separator that stands where the rounding digit is expected counts as
the digit 0; from it on separators are skipped in that place. -/
def separatorLimit : Nat :=
  1844674407370954906

def readPlain (p : Progress) : List Char → Except Fault Magnitude
  | [] => if p.digitSeen then .ok ⟨p.mantissa, p.scale⟩ else .error .noDigits
  | c :: cs =>
    match Text.digit? c with
    | some d =>
      let mantissa := 10 * p.mantissa + d
      let scale := if p.pointSeen then p.scale + 1 else 0
      if mantissa > maxMantissa then
        if p.pointSeen then roundAt p.mantissa p.scale (c :: cs) else .error .tooManyDigits
      else if scale = maxScale then
        if p.mantissa < separatorLimit then roundAt mantissa scale cs
        else roundAt mantissa scale (cs.dropWhile (· = '_'))
      else readPlain ⟨p.pointSeen, true, mantissa, scale⟩ cs
    | none =>
      if c = '.' then
        if p.pointSeen then .error .secondPoint
        else readPlain ⟨true, p.digitSeen, p.mantissa, p.scale⟩ cs
      else if c = '_' then
        if p.digitSeen then readPlain p cs else .error .separatorFirst
      else .error .unknownCharacter

def Magnitude.signed (negative : Bool) (m : Magnitude) : Except Fault Decimal :=
  match ofParts? negative m.mantissa m.scale with
  | some d => .ok d
  | none => .error .tooLarge

def ofPlain : List Char → Except Fault Decimal
  | [] => .error .empty
  | '-' :: cs => readPlain ⟨false, false, 0, 0⟩ cs >>= Magnitude.signed true
  | '+' :: cs => readPlain ⟨false, false, 0, 0⟩ cs >>= Magnitude.signed false
  | cs => readPlain ⟨false, false, 0, 0⟩ cs >>= Magnitude.signed false

/-- Exponents are 32-bit: digits with an optional plus sign. -/
def exponent? (cs : List Char) : Option Nat :=
  let unsigned := match cs with
    | '+' :: rest => rest
    | _ => cs
  match Text.numeral? unsigned with
  | some n => if n < 4294967296 then some n else none
  | none => none

/-- Moves the point `n` places to the left.  Decimals beyond the 28th are rounded away first. -/
def shiftLeft (n : Nat) (d : Decimal) : Except Fault Decimal :=
  if n > maxScale then .error (.scaleTooLarge n)
  else if d.scale + n > maxScale then
    Magnitude.signed d.negative
      ⟨divideRounding d.mantissa (d.scale + n - maxScale), maxScale⟩
  else Magnitude.signed d.negative ⟨d.mantissa, d.scale + n⟩

def shiftRight (n : Nat) (d : Decimal) : Except Fault Decimal :=
  if n ≤ d.scale then Magnitude.signed d.negative ⟨d.mantissa, d.scale - n⟩
  else if n > maxScale then .error (.scaleTooLarge n)
  else Magnitude.signed d.negative ⟨d.mantissa * Text.tenTo (n - d.scale), 0⟩

def applyExponent (d : Decimal) : List Char → Except Fault Decimal
  | '-' :: cs =>
    match exponent? cs with
    | some n => shiftLeft n d
    | none => .error .badExponent
  | cs =>
    match exponent? cs with
    | some n => shiftRight n d
    | none => .error .badExponent

def isExponentMark (c : Char) : Bool :=
  c = 'e' || c = 'E'

def ofScientific (cs : List Char) : Except Fault Decimal :=
  match cs.dropWhile (fun c => !isExponentMark c) with
  | [] => .error .badExponent
  | _ :: exponent => do
    let base ← ofPlain (cs.takeWhile fun c => !isExponentMark c)
    applyExponent base exponent

def ofChars (cs : List Char) : Except Fault Decimal :=
  match ofPlain cs with
  | .ok d => .ok d
  | .error fault => if cs.any isExponentMark then ofScientific cs else .error fault

end Decimal

end Arrears
