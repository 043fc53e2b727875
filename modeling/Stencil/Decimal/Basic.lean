/-!
# Decimal numerals

A numeral is a whole number of units of some power of ten.  The same number has many numerals; the
one without trailing zeros is its reduced form.
-/

namespace Stencil

/-- A power of a number, which is one when the exponent is below zero.  A fraction with a factor
`base ^ exponent` has this power above the line and that of `-exponent` below it. -/
def wholePower (base : Nat) (exponent : Int) : Nat :=
  Nat.pow base exponent.toNat

/-- The number `digits * 10 ^ exponent`, below zero when `negative`. -/
structure Decimal where
  /-- Whether a minus sign stands before the digits. -/
  negative : Bool
  /-- The digits, read as one whole number. -/
  digits : Nat
  /-- The power of ten of the last digit. -/
  exponent : Int
deriving DecidableEq, Repr

namespace Decimal

/-- Takes away at most `count` zeros from the end of a digit string and raises its exponent as
often. -/
def strip : (count digits : Nat) → (exponent : Int) → Nat × Int
  | 0, digits, exponent => (digits, exponent)
  | count + 1, digits, exponent =>
    if digits % 10 = 0 then strip count (digits / 10) (exponent + 1)
    else (digits, exponent)

/-- The numeral of the same number without trailing zeros. -/
def reduced (decimal : Decimal) : Decimal :=
  if decimal.digits = 0 then { decimal with exponent := 0 }
  else
    let (digits, exponent) :=
      strip (Nat.toDigits 10 decimal.digits).length decimal.digits decimal.exponent
    { decimal with digits, exponent }

/-- The exponent of the first digit, as in `d.ddd * 10 ^ E`. -/
def leadingExponent (decimal : Decimal) : Int :=
  decimal.exponent + (Nat.toDigits 10 decimal.digits).length - 1

end Decimal
end Stencil
