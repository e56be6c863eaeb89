namespace PinkyLex.Json

/-!
# Real numbers of a data file

A numeral with a fraction or an exponent stands for a number with 53 significant
bits: its digits and its power of ten are each rounded to such a number, and so
is their product or quotient.  A message shows the number with the fewest
decimal digits that lie nearer to it than to any other such number, positionally
while its size is moderate and otherwise with an exponent, which always has a
sign.  All roundings are worked out in exact arithmetic.
-/

/-- A number written as an integer times a power of ten. -/
structure Decimal where
  negative : Bool
  coefficient : Nat
  exponent : Int
  deriving Repr, DecidableEq

/-- A fraction of natural numbers. -/
structure Fraction where
  top : Nat
  bottom : Nat
  deriving Repr, DecidableEq

namespace Fraction

/-- The given number times a power of a base. -/
def scaled (number base : Nat) (exponent : Int) : Fraction :=
  match exponent with
  | .ofNat count => { top := number * Nat.pow base count, bottom := 1 }
  | .negSucc count => { top := number, bottom := Nat.pow base (count + 1) }

/-- Whether a fraction is less than another. -/
def less (first second : Fraction) : Bool :=
  first.top * second.bottom < second.top * first.bottom

/-- The product of two fractions. -/
def times (first second : Fraction) : Fraction :=
  { top := first.top * second.top, bottom := first.bottom * second.bottom }

/-- The quotient of two fractions. -/
def dividedBy (first second : Fraction) : Fraction :=
  { top := first.top * second.bottom, bottom := first.bottom * second.top }

/-- The distance of two fractions. -/
def distance (first second : Fraction) : Fraction :=
  let left := first.top * second.bottom
  let right := second.top * first.bottom
  { top := (left - right) + (right - left), bottom := first.bottom * second.bottom }

/-- The quotient of two fractions, rounded down. -/
def floorDiv (first second : Fraction) : Nat :=
  (first.dividedBy second).top / (first.dividedBy second).bottom

/-- The nearest integer to the quotient of two fractions, the even one of two. -/
def roundDiv (first second : Fraction) : Nat :=
  let quotient := first.dividedBy second
  let whole := quotient.top / quotient.bottom
  let doubled := 2 * (quotient.top % quotient.bottom)
  if doubled < quotient.bottom then
    whole
  else if quotient.bottom < doubled then
    whole + 1
  else
    whole + whole % 2

/-- The exponent of the least power of ten above a positive fraction, if it is not tiny. -/
def decimalSize (fraction : Fraction) : Int :=
  if fraction.bottom ≤ fraction.top then
    (Nat.toDigits 10 (fraction.top / fraction.bottom)).length
  else
    match (List.range 400).find? fun zeros =>
        fraction.bottom ≤ fraction.top * Nat.pow 10 (zeros + 1) with
    | some zeros => -(zeros : Int)
    | none => -400

end Fraction

/-- A number with 53 significant bits, sign apart: a mantissa times a power of two. -/
structure Binary where
  mantissa : Nat
  exponent : Int
  deriving Repr, DecidableEq

namespace Binary

/-- The least exponent, below which mantissas get shorter. -/
def leastExponent : Int :=
  -1074

/-- The greatest exponent. -/
def greatestExponent : Int :=
  971

/-- The nearest number to a fraction, its exponent not limited above. -/
def nearest (fraction : Fraction) : Binary :=
  let estimate : Int := (fraction.top.log2 : Int) - fraction.bottom.log2 - 52
  let fitted :=
    if fraction.less (Fraction.scaled (Nat.pow 2 52) 2 estimate) then
      estimate - 1
    else
      estimate
  let exponent := max fitted leastExponent
  let mantissa := fraction.roundDiv (Fraction.scaled 1 2 exponent)
  if mantissa = Nat.pow 2 53 then
    { mantissa := Nat.pow 2 52, exponent := exponent + 1 }
  else
    { mantissa := mantissa, exponent := exponent }

/-- The number as a fraction. -/
def toFraction (number : Binary) : Fraction :=
  Fraction.scaled number.mantissa 2 number.exponent

/-- The greatest power of ten that is a number. -/
def greatestPower : Nat :=
  308

/-- The nearest number to a power of ten. -/
def tenTo (power : Nat) : Binary :=
  nearest (Fraction.scaled 1 10 power)

/-- The product of a number and a power of ten. -/
def timesTenTo (number : Binary) (power : Nat) : Binary :=
  nearest (number.toFraction.times (tenTo power).toFraction)

/-- The quotient of a number and a power of ten, which is divided by in parts if it is too great. -/
def dividedByTenTo (number : Binary) (power : Nat) : Binary :=
  if number.mantissa = 0 then
    number
  else if power ≤ greatestPower then
    nearest (number.toFraction.dividedBy (tenTo power).toFraction)
  else
    dividedByTenTo (nearest (number.toFraction.dividedBy (tenTo greatestPower).toFraction))
      (power - greatestPower)
termination_by power
decreasing_by
  simp only [greatestPower] at *
  omega

/-- Whether a fraction is read back as the number. -/
def absorbs (number : Binary) (fraction : Fraction) : Bool :=
  let below :=
    if number.mantissa = Nat.pow 2 52 ∧ leastExponent < number.exponent then 1 else 2
  let low := Fraction.scaled (4 * number.mantissa - below) 2 (number.exponent - 2)
  let high := Fraction.scaled (4 * number.mantissa + 2) 2 (number.exponent - 2)
  if number.mantissa % 2 = 0 then
    !fraction.less low && !high.less fraction
  else
    low.less fraction && fraction.less high

/--
The decimal with the given number of digits that is nearest to the number, if it
is read back as the number.  Of two that are as near, it is the even one.
-/
def withDigits? (number : Binary) (count : Nat) : Option (Nat × Int) :=
  let value := number.toFraction
  let unit := value.decimalSize - count
  let grid := Fraction.scaled 1 10 unit
  let lower := value.floorDiv grid
  let candidates :=
    [lower, lower + 1].filter fun candidate =>
      number.absorbs (Fraction.scaled candidate 10 unit)
  match candidates with
  | [] =>
      none
  | [only] =>
      some (only, unit)
  | first :: second :: _ =>
      let toFirst := value.distance (Fraction.scaled first 10 unit)
      let toSecond := value.distance (Fraction.scaled second 10 unit)
      if toFirst.less toSecond then
        some (first, unit)
      else if toSecond.less toFirst then
        some (second, unit)
      else
        some (if first % 2 = 0 then first else second, unit)

/-- The shortest decimal that is read back as the number, as an integer and a power of ten. -/
def shortest (number : Binary) : Nat × Int :=
  ((List.range 17).findSome? fun fewer => number.withDigits? (fewer + 1)).getD
    (number.mantissa, 0)

end Binary

/-- A run of zeros. -/
def zeros (count : Nat) : String :=
  String.ofList (List.replicate count '0')

/-- A power of ten behind the digits it scales, with its sign. -/
def showExponent (power : Int) : String :=
  if power < 0 then
    "e-" ++ toString power.natAbs
  else
    "e+" ++ toString power.natAbs

/--
An integer times a power of ten: positionally while its first digit stands for
10⁻⁵ to 10¹⁵, otherwise with one digit before the point and an exponent.
-/
def showDecimal (integer : Nat) (power : Int) : String :=
  let kept := (Nat.toDigits 10 integer).reverse.dropWhile (· == '0')
  let digits := kept.reverse
  let size := (Nat.toDigits 10 integer).length + power
  let unit := size - digits.length
  if 0 ≤ unit ∧ size ≤ 16 then
    String.ofList digits ++ zeros unit.toNat ++ ".0"
  else if 0 < size ∧ size ≤ 16 then
    String.ofList (digits.take size.toNat) ++ "." ++ String.ofList (digits.drop size.toNat)
  else if -5 < size ∧ size ≤ 0 then
    "0." ++ zeros (-size).toNat ++ String.ofList digits
  else
    let exponent := showExponent (size - 1)
    match digits with
    | [] => "0.0"
    | [only] => String.singleton only ++ exponent
    | first :: others => String.singleton first ++ "." ++ String.ofList others ++ exponent

namespace Decimal

/-- The number that a decimal stands for, sign apart, unless it is too great. -/
def value? (decimal : Decimal) : Option Binary :=
  let number := Binary.nearest { top := decimal.coefficient, bottom := 1 }
  match decimal.exponent with
  | .negSucc power =>
      some (number.dividedByTenTo (power + 1))
  | .ofNat power =>
      if number.mantissa = 0 then
        some number
      else if Binary.greatestPower < power then
        none
      else
        let scaled := number.timesTenTo power
        if Binary.greatestExponent < scaled.exponent then
          none
        else
          some scaled

/-- Whether a decimal is too great for a number with 53 significant bits. -/
def outOfRange (decimal : Decimal) : Bool :=
  decimal.value?.isNone

/-- The shortest text of the number that a decimal stands for; empty if that is too great. -/
def toText (decimal : Decimal) : String :=
  let sign := if decimal.negative then "-" else ""
  match decimal.value? with
  | none =>
      ""
  | some number =>
      if number.mantissa = 0 then
        sign ++ "0.0"
      else
        let (integer, power) := number.shortest
        sign ++ showDecimal integer power

end Decimal

end PinkyLex.Json
