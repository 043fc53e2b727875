import Stencil.Decimal.Binary64

/-!
# Shortest numerals

The shortest numeral of a 64-bit number is the one with the fewest digits among those that round to
it, and among these the nearest.  The search tries one power of ten after another, from large to
small, and looks at the two multiples of it that enclose the number.
-/

namespace Stencil

/-- Which of two equally near numerals is taken. -/
inductive TieRule where
  /-- The one whose last digit is even. -/
  | even
  /-- The one farther from zero. -/
  | away
deriving DecidableEq, Repr

namespace Binary64

/-- The numbers that round to `mantissa * 2 ^ exponent`, where all of `low`, `middle` and `high` are
counted in units of `2 ^ (exponent - 2)`.  The ends belong to it when the mantissa is even. -/
structure Neighbourhood where
  /-- The lower end. -/
  low : Nat
  /-- The number itself. -/
  middle : Nat
  /-- The upper end. -/
  high : Nat
  /-- Whether the ends round to the number. -/
  closed : Bool

/-- The numbers that round to a positive one.  Below a power of two the neighbours are half as far
away, unless the exponent is the least. -/
def neighbourhood (mantissa : Nat) (exponent : Int) : Neighbourhood where
  low :=
    if 2 * mantissa = mantissaBound ∧ leastExponent < exponent then 4 * mantissa - 1
    else 4 * mantissa - 2
  middle := 4 * mantissa
  high := 4 * mantissa + 2
  closed := mantissa % 2 = 0

namespace Neighbourhood

/-- Whether a count of the units lies in the neighbourhood, with every end multiplied by `scale`. -/
def contains (near : Neighbourhood) (scale count : Nat) : Bool :=
  if near.closed then near.low * scale ≤ count && count ≤ near.high * scale
  else near.low * scale < count && count < near.high * scale

/-- The multiple of `step` in the neighbourhood that is nearest to its middle, as the factor, with
every number of the neighbourhood multiplied by `scale`. -/
def nearestMultiple? (tie : TieRule) (near : Neighbourhood) (scale step : Nat) : Option Nat :=
  let factor := near.middle * scale / step
  let fits (factor : Nat) : Bool := 0 < factor && near.contains scale (factor * step)
  match fits factor, fits (factor + 1) with
  | false, false => none
  | true, false => some factor
  | false, true => some (factor + 1)
  | true, true =>
    let twice := 2 * (near.middle * scale % step)
    if twice < step then some factor
    else if step < twice then some (factor + 1)
    else match tie with
      | .even => some (factor + factor % 2)
      | .away => some (factor + 1)

end Neighbourhood

/-- The numeral of a positive number on the grid of a power of ten, if a point of the grid rounds to
the number. -/
def onGrid? (tie : TieRule) (mantissa : Nat) (exponent power : Int) : Option (Nat × Int) :=
  let scale := wholePower 2 (exponent - 2) * wholePower 10 (-power)
  let step := wholePower 10 power * wholePower 2 (2 - exponent)
  (Neighbourhood.nearestMultiple? tie (neighbourhood mantissa exponent) scale step).map
    fun factor => (factor, power)

/-- A power of ten above a positive number. -/
def powerAbove (mantissa : Nat) (exponent : Int) : Int :=
  ((mantissa.log2 : Int) + exponent + 1) * 30103 / 100000 + 1

/-- Digits and exponent of the shortest numeral of a positive number.  Seventeen digits always
suffice. -/
def shortestDigits (tie : TieRule) (mantissa : Nat) (exponent : Int) : Nat × Int :=
  let above := powerAbove mantissa exponent
  let found := (List.range 24).findSome? fun (index : Nat) =>
    onGrid? tie mantissa exponent (above - (index : Int))
  found.getD (mantissa * wholePower 2 exponent * wholePower 5 (-exponent), min exponent 0)

/-- The shortest numeral of a finite number. -/
def shortest (tie : TieRule) (negative : Bool) (mantissa : Nat) (exponent : Int) : Decimal :=
  if mantissa = 0 then ⟨negative, 0, 0⟩
  else
    let (digits, power) := shortestDigits tie mantissa exponent
    Decimal.reduced ⟨negative, digits, power⟩

end Binary64
end Stencil
