import Stencil.Decimal.Basic

/-!
# Numbers of 64 bits

A finite number of the format is a mantissa below `2 ^ 53` times a power of two.  A rational number
is rounded to the nearest one, and to the even mantissa when two are equally near.
-/

namespace Stencil

/-- A number of the 64-bit binary format. -/
inductive Binary64 where
  /-- The number `mantissa * 2 ^ exponent`, below zero when `negative`. -/
  | finite (negative : Bool) (mantissa : Nat) (exponent : Int)
  /-- A number too large for the format. -/
  | infinite (negative : Bool)
  /-- The result of an undefined operation. -/
  | undefined
deriving DecidableEq, Repr

namespace Binary64

/-- The least exponent of a number of the format. -/
def leastExponent : Int := -1074

/-- The greatest exponent of a number of the format. -/
def greatestExponent : Int := 971

/-- The number of bits in a mantissa. -/
def precision : Nat := 53

/-- The least number with too many bits for a mantissa. -/
def mantissaBound : Nat := wholePower 2 precision

/-- Zero with a sign. -/
def zero (negative : Bool) : Binary64 :=
  finite negative 0 leastExponent

/-- Whether the number is zero, of either sign. -/
def isZero : Binary64 → Bool
  | finite _ mantissa _ => mantissa = 0
  | _ => false

/-- Numerator and denominator of `numerator / denominator` counted in units of `2 ^ exponent`. -/
def inUnits (numerator denominator : Nat) (exponent : Int) : Nat × Nat :=
  (numerator * wholePower 2 (-exponent), denominator * wholePower 2 exponent)

/-- The least exponent of the format at which a positive ratio has a mantissa in range. -/
def exponentOf (numerator denominator : Nat) : Int :=
  let guess := max leastExponent
    ((numerator.log2 : Int) - (denominator.log2 : Int) - (precision : Int))
  let (above, below) := inUnits numerator denominator guess
  if above / below < mantissaBound then guess else guess + 1

/-- The quotient rounded to the nearest whole number, and to the even one of two. -/
def roundQuotient (numerator denominator : Nat) : Nat :=
  let quotient := numerator / denominator
  let twice := 2 * (numerator % denominator)
  if twice < denominator then quotient
  else if denominator < twice then quotient + 1
  else quotient + quotient % 2

/-- The number of the format nearest to a ratio. -/
def ofRatio (negative : Bool) (numerator denominator : Nat) : Binary64 :=
  if numerator = 0 then zero negative
  else
    let exponent := exponentOf numerator denominator
    let (above, below) := inUnits numerator denominator exponent
    let mantissa := roundQuotient above below
    let (mantissa, exponent) :=
      if mantissa < mantissaBound then (mantissa, exponent) else (mantissa / 2, exponent + 1)
    if greatestExponent < exponent then infinite negative
    else finite negative mantissa exponent

/-- The number of the format nearest to a numeral.  Numerals whose first digit is far outside the
range of the format are settled by that alone. -/
def ofDecimal (decimal : Decimal) : Binary64 :=
  if decimal.digits = 0 then zero decimal.negative
  else if 310 < decimal.leadingExponent then infinite decimal.negative
  else if decimal.leadingExponent < -330 then zero decimal.negative
  else ofRatio decimal.negative (decimal.digits * wholePower 10 decimal.exponent)
    (wholePower 10 (-decimal.exponent))

end Binary64
end Stencil
