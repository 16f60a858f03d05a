import HelperKit.Text

/-!
# Floating-point numbers of 64 bits

Numbers with a fraction or an exponent in a settings document are kept as
binary floating-point numbers of 64 bits.  Reading a decimal takes the nearest
such number, ties to an even significand.  Writing one takes the fewest decimal
digits that read back as the same number, and of those the nearest.  Everything
is computed in exact integer arithmetic.
-/

namespace HelperKit

/-- A floating-point number; a finite one is `significand * 2 ^ exponent`. -/
inductive Double where
  | nan
  | infinite (negative : Bool)
  | finite (negative : Bool) (significand : Nat) (exponent : Int)
  deriving DecidableEq

/-- A positive fraction of two natural numbers. -/
structure Ratio where
  numerator : Nat
  denominator : Nat

namespace Ratio

/-- The fraction `number * base ^ exponent`. -/
def scaled (number base : Nat) (exponent : Int) : Ratio :=
  if 0 ≤ exponent then ⟨number * Nat.pow base exponent.toNat, 1⟩
  else ⟨number, Nat.pow base (-exponent).toNat⟩

/-- Whether one fraction is at most another one. -/
def le (left right : Ratio) : Bool :=
  left.numerator * right.denominator ≤ right.numerator * left.denominator

/-- Whether one fraction is less than another one. -/
def lt (left right : Ratio) : Bool :=
  left.numerator * right.denominator < right.numerator * left.denominator

/-- The quotient of two fractions. -/
def quotient (left right : Ratio) : Ratio :=
  ⟨left.numerator * right.denominator, left.denominator * right.numerator⟩

/-- The greatest integer that is at most a fraction. -/
def floor (ratio : Ratio) : Nat :=
  ratio.numerator / ratio.denominator

/-- The nearest integer to a fraction; a half goes to the even neighbour. -/
def round (ratio : Ratio) : Nat :=
  let quotient := ratio.floor
  let twice := 2 * (ratio.numerator % ratio.denominator)
  if twice < ratio.denominator then quotient
  else if ratio.denominator < twice then quotient + 1
  else if quotient % 2 = 0 then quotient
  else quotient + 1

/-- The distance of two fractions. -/
def distance (left right : Ratio) : Ratio :=
  let first := left.numerator * right.denominator
  let second := right.numerator * left.denominator
  ⟨(first - second) + (second - first), left.denominator * right.denominator⟩

/-- The greatest power of two that is at most a positive fraction. -/
def binaryOrder (ratio : Ratio) : Int :=
  let guess : Int := (ratio.numerator.log2 : Int) - ratio.denominator.log2
  if (scaled 1 2 guess).le ratio then guess else guess - 1

/-- The greatest power of ten that is at most a positive fraction. -/
def decimalOrder (ratio : Ratio) : Int :=
  let guess : Int := (ratio.binaryOrder * 30103) / 100000
  if (scaled 1 10 (guess + 1)).le ratio then guess + 1
  else if (scaled 1 10 guess).le ratio then guess
  else guess - 1

end Ratio

/-- The decimal number `digits * 10 ^ exponent`. -/
structure Decimal where
  digits : Nat
  exponent : Int
  deriving DecidableEq

namespace Decimal

/-- The number of digits of a natural number. -/
def width (number : Nat) : Nat :=
  (Nat.toDigits 10 number).length

/-- The value of a decimal. -/
def ratio (decimal : Decimal) : Ratio :=
  .scaled decimal.digits 10 decimal.exponent

/-- A decimal of the same value whose last digit is not zero; `limit` bounds the
zeros that are dropped. -/
def dropZeros (decimal : Decimal) : (limit : Nat) → Decimal
  | 0 => decimal
  | limit + 1 =>
      if decimal.digits ≠ 0 ∧ decimal.digits % 10 = 0 then
        dropZeros ⟨decimal.digits / 10, decimal.exponent + 1⟩ limit
      else decimal

end Decimal

namespace Double

/-- The exponent of the numbers of least magnitude. -/
def leastExponent : Int := -1074

/-- The number of bits of a significand. -/
def significandBits : Nat := 53

/-- The nearest number to a positive fraction. -/
def ofRatio (negative : Bool) (ratio : Ratio) : Double :=
  let exponent := max (ratio.binaryOrder - (significandBits - 1)) leastExponent
  let significand := (ratio.quotient (.scaled 1 2 exponent)).round
  let (significand, exponent) :=
    if significand = Nat.pow 2 significandBits then
      (Nat.pow 2 (significandBits - 1), exponent + 1)
    else (significand, exponent)
  if exponent + significandBits > 1024 then .infinite negative
  else .finite negative significand exponent

/-- The nearest number to a decimal.  Decimals beyond the range of all finite
numbers are not expanded. -/
def ofDecimal (negative : Bool) (decimal : Decimal) : Double :=
  let order := decimal.exponent + Decimal.width decimal.digits
  if decimal.digits = 0 ∨ order < -400 then .finite negative 0 leastExponent
  else if order > 400 then .infinite negative
  else ofRatio negative decimal.ratio

/-- Whether a fraction is nearer to `significand * 2 ^ exponent` than to the
neighbours of that number.  The two points half way count when the significand
is even, since they round to it. -/
def roundsTo (significand : Nat) (exponent : Int) (ratio : Ratio) : Bool :=
  let lower :=
    if significand = Nat.pow 2 (significandBits - 1) ∧ leastExponent < exponent then
      4 * significand - 1
    else 4 * significand - 2
  let least := Ratio.scaled lower 2 (exponent - 2)
  let greatest := Ratio.scaled (4 * significand + 2) 2 (exponent - 2)
  if significand % 2 = 0 then least.le ratio && ratio.le greatest
  else least.lt ratio && ratio.lt greatest

/-- The decimal with a given last place that rounds to a number, if there is
one; of two the nearer, and of two equally near the even one. -/
def decimalAt? (significand : Nat) (exponent place : Int) : Option Decimal :=
  let exact := Ratio.scaled significand 2 exponent
  let below : Decimal := ⟨(exact.quotient (.scaled 1 10 place)).floor, place⟩
  let above : Decimal := ⟨below.digits + 1, place⟩
  match roundsTo significand exponent below.ratio, roundsTo significand exponent above.ratio with
  | false, false => none
  | true, false => some below
  | false, true => some above
  | true, true =>
      let down := exact.distance below.ratio
      let up := exact.distance above.ratio
      if down.lt up then some below
      else if up.lt down then some above
      else if below.digits % 2 = 0 then some below
      else some above

/-- The shortest decimal that rounds to a positive number. -/
def shortest (significand : Nat) (exponent : Int) : Decimal :=
  let order := (Ratio.scaled significand 2 exponent).decimalOrder
  let found := (List.range 17).findSome? fun further : Nat =>
    decimalAt? significand exponent (order - (further : Int))
  (found.getD ⟨significand, 0⟩).dropZeros 17

/-- How a decimal is laid out: positionally when its leading digit stands for a
power of ten from `-4` to `15`, else with an exponent of at least two digits. -/
def layout (decimal : Decimal) : List Char :=
  let digits := Nat.toDigits 10 decimal.digits
  let point : Int := decimal.exponent + digits.length
  if -4 < point ∧ point ≤ 16 then
    if point ≤ 0 then
      ['0', '.'] ++ List.replicate (-point).toNat '0' ++ digits
    else if point < digits.length then
      digits.take point.toNat ++ ['.'] ++ digits.drop point.toNat
    else
      digits ++ List.replicate (point.toNat - digits.length) '0' ++ ['.', '0']
  else
    let power := Nat.toDigits 10 (point - 1).natAbs
    let fraction := if digits.length = 1 then [] else '.' :: digits.drop 1
    digits.take 1 ++ fraction ++ ['e', if point - 1 < 0 then '-' else '+']
      ++ List.replicate (2 - power.length) '0' ++ power

/-- The text of a number in a document. -/
def toChars : Double → List Char
  | .nan => ['N', 'a', 'N']
  | .infinite negative => (if negative then ['-'] else []) ++ "Infinity".toList
  | .finite negative significand exponent =>
      (if negative then ['-'] else []) ++
        if significand = 0 then ['0', '.', '0']
        else layout (shortest significand exponent)

end Double

end HelperKit
