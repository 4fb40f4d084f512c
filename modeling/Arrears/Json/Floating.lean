import Arrears.Basic

/-!
# Floating-point numbers

A floating-point number has a sign, a significand of at most 53 bits and an exponent of 11 bits;
only finite numbers occur.  It stands for the significand times a power of two.  Quotients, and the
products and quotients of floating-point numbers, are rounded to the nearest number; of two at the
same distance the one with the even significand is taken.
-/

namespace Arrears

/-- A finite floating-point number: `significand * 2 ^ (exponent - 1075)`, with a sign. -/
structure Floating where
  negative : Bool
  significand : Nat
  exponent : Nat
deriving DecidableEq, Repr

namespace Floating

/-- Two to the 52nd, the least significand with all its bits. -/
def leastFull : Nat :=
  4503599627370496

def greatestExponent : Nat :=
  2046

/-- A power of two with an exponent that counts from 1075, and 1 below that. -/
def powerAbove (exponent : Nat) : Nat :=
  Nat.pow 2 (exponent - 1075)

/-- A power of two with an exponent that counts downwards from 1075, and 1 above that. -/
def powerBelow (exponent : Nat) : Nat :=
  Nat.pow 2 (1075 - exponent)

/-- A quotient rounded to the nearest natural number; a tie goes to the even neighbour. -/
def roundQuotient (numerator denominator : Nat) : Nat :=
  let below := numerator / denominator
  let rest := numerator % denominator
  if denominator < 2 * rest ∨ (2 * rest = denominator ∧ below % 2 = 1) then below + 1 else below

def significandOf (numerator denominator exponent : Nat) : Nat :=
  roundQuotient (numerator * powerBelow exponent) (denominator * powerAbove exponent)

/-- The exponent with which a quotient that is not zero is rounded: the least one that leaves at
most 53 bits in front of the point. -/
def exponentOf (numerator denominator : Nat) : Nat :=
  let guess := max (numerator.log2 + 1022 - denominator.log2) 1
  if numerator * powerBelow guess < 2 * leastFull * (denominator * powerAbove guess) then guess
  else guess + 1

def nearest? (negative : Bool) (numerator denominator : Nat) : Option Floating :=
  if numerator = 0 then
    some ⟨negative, 0, 1⟩
  else
    let exponent := exponentOf numerator denominator
    let significand := significandOf numerator denominator exponent
    let rounded : Floating :=
      if significand = 2 * leastFull then ⟨negative, leastFull, exponent + 1⟩
      else ⟨negative, significand, exponent⟩
    if rounded.exponent ≤ greatestExponent then some rounded else none

def times? (x y : Floating) : Option Floating :=
  let exponent := x.exponent + y.exponent
  nearest? x.negative (x.significand * y.significand * Nat.pow 2 (exponent - 2150))
    (Nat.pow 2 (2150 - exponent))

def over? (x y : Floating) : Option Floating :=
  nearest? x.negative (x.significand * Nat.pow 2 (x.exponent - y.exponent))
    (y.significand * Nat.pow 2 (y.exponent - x.exponent))

def greatestPlaces : Nat :=
  308

def powerOfTen? (places : Nat) : Option Floating :=
  nearest? false (Text.tenTo places) 1

/-- A number times a power of ten.  Below the least power of ten the number is divided by the
greatest one until the rest is in reach. -/
def shift? : Nat → Floating → Int → Option Floating
  | 0, x, _ => some x
  | fuel + 1, x, places =>
    if places.natAbs ≤ greatestPlaces then do
      let power ← powerOfTen? places.natAbs
      if 0 ≤ places then x.times? power else x.over? power
    else if x.significand = 0 then some x
    else if 0 ≤ places then none
    else do
      let power ← powerOfTen? greatestPlaces
      shift? fuel (← x.over? power) (places + greatestPlaces)

def ofDecimal? (negative : Bool) (digits : Nat) (places : Int) : Option Floating := do
  shift? 8 (← nearest? negative digits 1) places

end Floating

/-! ## The shortest decimal text

For one, two, three and more digits, the two neighbours of the number on the grid of decimals with so
many digits are tried; the first grid with a neighbour that is rounded to the number wins, and on it
the nearer neighbour.
-/

namespace Floating

/-- A positive number as a fraction, and the ends of the interval that is rounded to it, over the
same denominator. -/
structure Enclosed where
  value : Nat
  low : Nat
  high : Nat
  denominator : Nat
  closed : Bool
deriving DecidableEq, Repr

/-- A number with its interval, in quarters of a step.  Below a power of two the steps are half as
wide. -/
def enclose (x : Floating) : Enclosed :=
  let lowStep := if x.significand = leastFull ∧ 1 < x.exponent then 1 else 2
  let up := Nat.pow 2 (x.exponent - 1077)
  { value := 4 * x.significand * up
    low := (4 * x.significand - lowStep) * up
    high := (4 * x.significand + 2) * up
    denominator := Nat.pow 2 (1077 - x.exponent)
    closed := x.significand % 2 = 0 }

def Enclosed.contains (x : Enclosed) (digits : Nat) (places : Int) : Bool :=
  let scaled := digits * Text.tenTo (-places).toNat * x.denominator
  let low := x.low * Text.tenTo places.toNat
  let high := x.high * Text.tenTo places.toNat
  if x.closed then low ≤ scaled && scaled ≤ high else low < scaled && scaled < high

/-- The number of decimal places in front of the first digit that is not zero, for a fraction
below one. -/
def leadingZeros (value denominator : Nat) : Nat → Nat
  | 0 => 0
  | fuel + 1 =>
    if denominator ≤ value * 10 then 0 else leadingZeros (value * 10) denominator fuel + 1

def Enclosed.leading (x : Enclosed) : Int :=
  if x.denominator ≤ x.value then (Text.digits (x.value / x.denominator)).length - 1
  else -(leadingZeros x.value x.denominator 400 : Int) - 1

/-- The nearer of the two neighbours with `places` decimals that lie in the interval; a tie goes
to the even one. -/
def Enclosed.onGrid? (x : Enclosed) (places : Int) : Option Nat :=
  let numerator := x.value * Text.tenTo places.toNat
  let denominator := x.denominator * Text.tenTo (-places).toNat
  let below := numerator / denominator
  match x.contains below places, x.contains (below + 1) places with
  | true, true => some (roundQuotient numerator denominator)
  | true, false => some below
  | false, true => some (below + 1)
  | false, false => none

/-- The shortest decimal of the interval from a given number of digits on, and its number of
decimal places. -/
def Enclosed.search (x : Enclosed) (digits : Nat) : Nat → Nat × Int
  | 0 => (x.value / x.denominator, 0)
  | fuel + 1 =>
    let places := (digits : Int) - 1 - x.leading
    match x.onGrid? places with
    | some decimal => (decimal, places)
    | none => x.search (digits + 1) fuel

def withoutZeros (cs : List Char) : List Char :=
  (cs.reverse.dropWhile fun c => c = '0').reverse

/-- Digits with the point behind the first of them, and an exponent. -/
def scientific (digits : List Char) (exponent : Int) : List Char :=
  let sign := if exponent < 0 then '-' else '+'
  let mark := 'e' :: sign :: Text.digits exponent.natAbs
  match digits with
  | [] => mark
  | [first] => first :: mark
  | first :: rest => first :: '.' :: rest ++ mark

/-- Digits with the point where it belongs if the first digit counts `10 ^ exponent`, and with at
least one decimal. -/
def positional (digits : List Char) (exponent : Int) : List Char :=
  if exponent < 0 then
    ['0', '.'] ++ List.replicate (exponent.natAbs - 1) '0' ++ digits
  else
    let width := exponent.toNat + 1
    let whole := digits.take width ++ List.replicate (width - digits.length) '0'
    let behind := digits.drop width
    whole ++ '.' :: (if behind.isEmpty then ['0'] else behind)

def plainText (x : Floating) : List Char :=
  if x.significand = 0 then ['0', '.', '0']
  else
    let (decimal, places) := x.enclose.search 1 17
    let digits := Text.digits decimal
    let exponent := digits.length - 1 - places
    if -5 ≤ exponent ∧ exponent < 16 then positional (withoutZeros digits) exponent
    else scientific (withoutZeros digits) exponent

def text (x : Floating) : String :=
  String.ofList (if x.negative then '-' :: x.plainText else x.plainText)

end Floating

end Arrears
