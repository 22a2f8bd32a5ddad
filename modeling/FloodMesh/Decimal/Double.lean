/-
Floating point numbers: how a decimal is read as one, and the shortest decimal
that is nearest to one.

A number of the format that is not negative is a mantissa below 2^53 times a
power of two that is at least 2^(-1074). Everything is computed with whole
numbers: a ratio is a numerator and a positive denominator.

A decimal is read in few rounded steps: its leading digits, as many as fit
sixty-four bits, then times or over a power of ten. The last bit may so come out
differently from that of the nearest number.
-/

namespace FloodMesh

structure Ratio where
  numerator : Nat
  denominator : Nat

namespace Ratio

/-- A number times a power of two and a power of ten. -/
def of (value : Nat) (two ten : Int) : Ratio :=
  { numerator := value * Nat.pow 2 two.toNat * Nat.pow 10 ten.toNat
    denominator := Nat.pow 2 (-two).toNat * Nat.pow 10 (-ten).toNat }

def atMost (first second : Ratio) : Bool :=
  first.numerator * second.denominator ≤ second.numerator * first.denominator

def below (first second : Ratio) : Bool := !second.atMost first

def floor (ratio : Ratio) : Nat := ratio.numerator / ratio.denominator

/-- The whole number nearest to a ratio, the even one of two. -/
def nearest (ratio : Ratio) : Nat :=
  let whole := ratio.floor
  let twice := 2 * (ratio.numerator % ratio.denominator)
  if twice < ratio.denominator then whole
  else if ratio.denominator < twice then whole + 1
  else if whole % 2 = 0 then whole
  else whole + 1

def scaledDown (ratio : Ratio) (two : Int) : Ratio :=
  { numerator := ratio.numerator * Nat.pow 2 (-two).toNat
    denominator := ratio.denominator * Nat.pow 2 two.toNat }

end Ratio

structure Double where
  mantissa : Nat
  exponent : Int
  deriving DecidableEq

namespace Double

def leastExponent : Int := -1074

def mantissaBound : Nat := Nat.pow 2 53

def normalized (double : Double) : Double :=
  if double.mantissa = mantissaBound then
    { mantissa := mantissaBound / 2, exponent := double.exponent + 1 }
  else double

def nearest (ratio : Ratio) : Double :=
  let magnitude : Int := (Nat.log2 ratio.numerator : Int) - Nat.log2 ratio.denominator
  let low := max (magnitude - 53) leastExponent
  let exponent := if mantissaBound ≤ (ratio.scaledDown low).floor then low + 1 else low
  normalized { mantissa := (ratio.scaledDown exponent).nearest, exponent }

def ratio (double : Double) : Ratio := .of double.mantissa double.exponent 0

/-- Whether the next smaller number is only half as far away as the next
larger. -/
def isStep (double : Double) : Bool :=
  double.mantissa = mantissaBound / 2 && leastExponent < double.exponent

/-- Whether a ratio is nearer to this number than to its neighbours. A ratio
halfway belongs to an even mantissa. -/
def attracts (double : Double) (ratio : Ratio) : Bool :=
  let quarters := 4 * double.mantissa
  let low := Ratio.of (if double.isStep then quarters - 1 else quarters - 2)
    (double.exponent - 2) 0
  let high := Ratio.of (quarters + 2) (double.exponent - 2) 0
  if double.mantissa % 2 = 0 then low.atMost ratio && ratio.atMost high
  else low.below ratio && ratio.below high

/-- The greatest power of ten that is not above a ratio. -/
def decimalExponent (ratio : Ratio) : Int :=
  if ratio.denominator ≤ ratio.numerator then (Nat.toDigits 10 ratio.floor).length - 1
  else
    let inverse := (ratio.denominator + ratio.numerator - 1) / ratio.numerator
    Int.negOfNat (Nat.toDigits 10 (inverse - 1)).length

/-- A decimal: a number times a power of ten. -/
structure Decimal where
  digits : Nat
  exponent : Int
  deriving DecidableEq

def Decimal.ratio (decimal : Decimal) : Ratio := .of decimal.digits 0 decimal.exponent

/-- The nearer of the two decimals with a last place at this power of ten that
enclose a number, or the other, if it reads back. -/
def onGrid? (double : Double) (exponent : Int) : Option Decimal :=
  let value := double.ratio
  let scaled : Ratio :=
    { numerator := value.numerator * Nat.pow 10 (-exponent).toNat
      denominator := value.denominator * Nat.pow 10 exponent.toNat }
  let nearer := scaled.nearest
  let other := if nearer = scaled.floor then nearer + 1 else scaled.floor
  [nearer, other].findSome? fun digits =>
    let decimal : Decimal := { digits, exponent }
    if 0 < digits ∧ double.attracts decimal.ratio then some decimal else none

/-- The decimal with the fewest digits that reads back; seventeen always do. The
coarsest grid has room for a value just below a power of ten. -/
def shortest (double : Double) : Decimal :=
  let top := decimalExponent double.ratio + 1
  ((List.range 18).findSome? fun (more : Nat) => double.onGrid? (top - more)).getD
    { digits := 0, exponent := 0 }

/-- The greatest power of ten that one step of reading takes. -/
def longestStep : Nat := 308

def power (ten : Nat) : Ratio := (nearest (.of 1 0 ten)).ratio

def times (double : Double) (factor : Ratio) : Double :=
  nearest
    { numerator := double.ratio.numerator * factor.numerator
      denominator := double.ratio.denominator * factor.denominator }

def dividedBy (double : Double) (divisor : Ratio) : Double :=
  double.times { numerator := divisor.denominator, denominator := divisor.numerator }

/-- A number over a power of ten, in steps; nothing is left of it after few. -/
def lowered (double : Double) (places : Nat) : Double :=
  if places ≤ longestStep then double.dividedBy (power places)
  else if double.mantissa = 0 then double
  else lowered (double.dividedBy (power longestStep)) (places - longestStep)
  termination_by places
  decreasing_by simp only [longestStep] at *; omega

def leading (digits : Nat) (exponent : Int) : Decimal :=
  if digits < Nat.pow 2 64 then { digits, exponent } else leading (digits / 10) (exponent + 1)
  termination_by digits
  decreasing_by
    have large : 0 < digits := by
      rename_i overflow
      exact Nat.lt_of_lt_of_le (by decide) (Nat.le_of_not_lt overflow)
    omega

def isTooLarge (double : Double) : Bool := 971 < double.exponent

/-- Reads a decimal, unless it is too large for the format. -/
def ofDecimal? (decimal : Decimal) : Option Double :=
  let start := leading decimal.digits decimal.exponent
  let double := nearest (.of start.digits 0 0)
  if start.exponent < 0 then some (double.lowered (-start.exponent).toNat)
  else if longestStep < start.exponent.toNat then
    if double.mantissa = 0 then some double else none
  else
    let read := double.times (power start.exponent.toNat)
    if read.isTooLarge then none else some read

end Double

/-- A decimal written out in full, with at least one place behind the point. -/
def Double.Decimal.positional (decimal : Double.Decimal) : List Char :=
  let digits := Nat.toDigits 10 decimal.digits
  let places := (-decimal.exponent).toNat
  if 0 ≤ decimal.exponent then
    digits ++ List.replicate decimal.exponent.toNat '0' ++ ['.', '0']
  else if places < digits.length then
    digits.take (digits.length - places) ++ '.' :: digits.drop (digits.length - places)
  else '0' :: '.' :: List.replicate (places - digits.length) '0' ++ digits

def Double.signedExponent : Int → List Char
  | .ofNat value => '+' :: Nat.toDigits 10 value
  | .negSucc value => '-' :: Nat.toDigits 10 (value + 1)

/-- A decimal as one digit, places, and a power of ten with its sign. -/
def Double.Decimal.scientific (decimal : Double.Decimal) : List Char :=
  let digits := Nat.toDigits 10 decimal.digits
  let places := digits.drop 1
  digits.take 1 ++ (if places = [] then [] else '.' :: places) ++ 'e' ::
    Double.signedExponent (digits.length + decimal.exponent - 1)

/-- A decimal written out if its point stands at most four zeros before its
digits and at most sixteen places behind the first. -/
def Double.Decimal.text (decimal : Double.Decimal) : List Char :=
  let point := (Nat.toDigits 10 decimal.digits).length + decimal.exponent
  if -5 < point ∧ point ≤ 16 then decimal.positional else decimal.scientific

end FloodMesh
