/-!
# Ranges of characters

Character classes are written as lists of code point ranges, both ends included.
-/

namespace Stencil
namespace Text

/-- The characters from `first` to `last`, both included, given by their code points. -/
structure Range where
  /-- The least code point of the range. -/
  first : Nat
  /-- The greatest code point of the range. -/
  last : Nat

namespace Range

/-- Whether a character lies in the range. -/
def contains (range : Range) (character : Char) : Bool :=
  range.first ≤ character.toNat && character.toNat ≤ range.last

end Range

/-- Whether a character lies in one of the ranges. -/
def inRanges (ranges : List Range) (character : Char) : Bool :=
  ranges.any (·.contains character)

end Text
end Stencil
