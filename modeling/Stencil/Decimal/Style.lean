import Stencil.Decimal.Shortest

/-!
# Writing numbers

A style says how the shortest numeral of a 64-bit number is written: when positionally, whether a
whole number keeps a decimal point, and which of two equally near numerals is taken.
-/

namespace Stencil

namespace Decimal

/-- How numbers are written. -/
structure Style where
  /-- Whether a number whose first digit has this exponent is written positionally. -/
  isPositional : Int → Bool
  /-- Whether a whole number ends in `.0`. -/
  keepsPoint : Bool
  /-- Which of two equally near numerals is taken. -/
  tie : TieRule

/-- A minus sign, or nothing. -/
def sign (negative : Bool) : List Char :=
  if negative then ['-'] else []

/-- A numeral without exponent. -/
def positional (keepsPoint : Bool) (decimal : Decimal) : List Char :=
  let digits := Nat.toDigits 10 decimal.digits
  if 0 ≤ decimal.exponent then
    digits ++ List.replicate decimal.exponent.toNat '0' ++ (if keepsPoint then ['.', '0'] else [])
  else
    let places := (-decimal.exponent).toNat
    let padded := List.replicate (places + 1 - digits.length) '0' ++ digits
    padded.take (padded.length - places) ++ '.' :: padded.drop (padded.length - places)

/-- A numeral with one digit before the point and a signed exponent. -/
def scientific (decimal : Decimal) : List Char :=
  let exponent := decimal.leadingExponent
  let mark := if exponent < 0 then ['e', '-'] else ['e', '+']
  match Nat.toDigits 10 decimal.digits with
  | [] => []
  | [digit] => digit :: mark ++ Nat.toDigits 10 exponent.natAbs
  | digit :: digits => digit :: '.' :: digits ++ mark ++ Nat.toDigits 10 exponent.natAbs

namespace Style

/-- A numeral in a style. -/
def write (style : Style) (decimal : Decimal) : List Char :=
  sign decimal.negative ++
    if style.isPositional decimal.leadingExponent then positional style.keepsPoint decimal
    else scientific decimal

end Style
end Decimal

namespace Binary64

/-- A number in a style.  Infinite and undefined numbers have names. -/
def write (style : Decimal.Style) : Binary64 → List Char
  | finite negative mantissa exponent =>
    style.write (shortest style.tie negative mantissa exponent)
  | infinite negative => Decimal.sign negative ++ ['i', 'n', 'f']
  | undefined => ['N', 'a', 'N']

end Binary64
end Stencil
