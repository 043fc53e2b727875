import Stencil.Decimal.Binary64

/-!
# Reading numbers

An integer is digits after an optional sign.  A 64-bit number may have a point with digits on at
least one side of it, and an exponent, or be named.  Numbers that are too large are infinite.
-/

namespace Stencil
namespace Decimal

/-- Takes an optional sign off a text, and says whether it is a minus sign. -/
def readSign : List Char → Bool × List Char
  | '-' :: text => (true, text)
  | '+' :: text => (false, text)
  | text => (false, text)

/-- The integer that a text denotes. -/
def integer? (text : List Char) : Option Int :=
  let (negative, digits) := readSign text
  if digits.isEmpty || !digits.all Char.isDigit then none
  else
    let size : Int := (Nat.ofDigitChars 10 digits 0 : Nat)
    some (if negative then -size else size)

/-- The exponent at the end of a numeral, where nothing is left after it. -/
def exponent? : List Char → Option Int
  | [] => some 0
  | mark :: text => if mark = 'e' || mark = 'E' then integer? text else none

/-- The numeral that a text without sign denotes. -/
def unsigned? (negative : Bool) (text : List Char) : Option Decimal :=
  let whole := text.takeWhile Char.isDigit
  let (places, rest) :=
    match text.dropWhile Char.isDigit with
    | '.' :: rest => (rest.takeWhile Char.isDigit, rest.dropWhile Char.isDigit)
    | rest => ([], rest)
  if whole.isEmpty && places.isEmpty then none
  else
    (exponent? rest).map fun exponent =>
      ⟨negative, Nat.ofDigitChars 10 (whole ++ places) 0, exponent - (places.length : Int)⟩

end Decimal

namespace Binary64

/-- The number that a text denotes. -/
def ofText? (text : List Char) : Option Binary64 :=
  let (negative, unsigned) := Decimal.readSign text
  let name := String.ofList (unsigned.map Char.toLower)
  if name = "inf" ∨ name = "infinity" then some (infinite negative)
  else if name = "nan" then some undefined
  else (Decimal.unsigned? negative unsigned).map ofDecimal

end Binary64
end Stencil
