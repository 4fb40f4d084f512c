import Arrears.Decimal

/-!
# Money

An amount of money is a whole number of cents that fits a signed 64-bit word.  A sum, difference,
negation or magnitude that leaves this range is no amount: each operation says so by naming the
overflow.
-/

namespace Arrears

inductive Overflow
  | add
  | subtract
  | negate
deriving DecidableEq, Repr

def Overflow.message : Overflow → String
  | .add => "attempt to add with overflow"
  | .subtract => "attempt to subtract with overflow"
  | .negate => "attempt to negate with overflow"

structure Money where
  minor : Int
  fits : Word.Fits minor
deriving DecidableEq, Repr

namespace Money

def ofMinor? (minor : Int) : Option Money :=
  if h : Word.Fits minor then some ⟨minor, h⟩ else none

def zero : Money :=
  ⟨0, by decide⟩

instance : LE Money :=
  ⟨fun a b => a.minor ≤ b.minor⟩

instance : LT Money :=
  ⟨fun a b => a.minor < b.minor⟩

instance (a b : Money) : Decidable (a ≤ b) :=
  inferInstanceAs (Decidable (a.minor ≤ b.minor))

instance (a b : Money) : Decidable (a < b) :=
  inferInstanceAs (Decidable (a.minor < b.minor))

instance : Ord Money :=
  ⟨fun a b => compare a.minor b.minor⟩

instance : Min Money :=
  ⟨fun a b => if a ≤ b then a else b⟩

instance : Max Money :=
  ⟨fun a b => if a ≤ b then b else a⟩

def isZero (a : Money) : Bool :=
  a.minor = 0

def isPositive (a : Money) : Bool :=
  0 < a.minor

def isNegative (a : Money) : Bool :=
  a.minor < 0

/-- The amount of so many cents, or the overflow of the step that led to them. -/
def within (step : Overflow) (minor : Int) : Except Overflow Money :=
  if h : Word.Fits minor then .ok ⟨minor, h⟩ else .error step

def add (a b : Money) : Except Overflow Money :=
  within .add (a.minor + b.minor)

def subtract (a b : Money) : Except Overflow Money :=
  within .subtract (a.minor - b.minor)

def negate (a : Money) : Except Overflow Money :=
  within .negate (-a.minor)

def magnitude (a : Money) : Except Overflow Money :=
  if a.isNegative then a.negate else .ok a

end Money

/-! ## Amounts as decimals and as text

An amount is written as the decimal of its cents with two decimals.  A text is an amount when,
trimmed, it is a decimal that has at most two decimals without its trailing zeros.
-/

inductive AmountFault
  | notDecimal (text : String) (fault : Decimal.Fault)
  | subCent (value : Decimal)
  | outOfRange (value : Decimal)
deriving DecidableEq, Repr

def AmountFault.message : AmountFault → String
  | .notDecimal text fault => "'" ++ text ++ "' is not a valid amount: " ++ fault.message
  | .subCent value => "amount " ++ value.text ++ " has more than 2 decimal places"
  | .outOfRange value => "amount " ++ value.text ++ " is out of range"

namespace Money

def ofDecimal (d : Decimal) : Except AmountFault Money :=
  match Decimal.stripZeros d.mantissa d.scale with
  | (mantissa, scale) =>
    if scale > 2 then
      .error (.subCent d)
    else
      let cents : Nat := (Decimal.addZeros mantissa scale (2 - scale)).1
      match ofMinor? (if d.negative then -(cents : Int) else cents) with
      | some amount => .ok amount
      | none => .error (.outOfRange d)

def toDecimal (a : Money) : Decimal :=
  { negative := a.isNegative
    mantissa := a.minor.natAbs
    scale := 2
    mantissa_le := by
      have h := a.fits
      simp only [Word.Fits, Word.least, Word.greatest] at h
      simp only [Decimal.maxMantissa]
      omega
    scale_le := by decide }

def text (a : Money) : String :=
  a.toDecimal.text

def ofText (s : String) : Except AmountFault Money :=
  let chars := Text.trimmed s.toList
  match Decimal.ofChars chars with
  | .ok d => ofDecimal d
  | .error fault => .error (.notDecimal (String.ofList chars) fault)

end Money

end Arrears
