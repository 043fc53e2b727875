/-!
# Slices

A slice of a text stands between two positions of its UTF-8 form.  It exists only where both of them
lie between characters and come in the right order.
-/

namespace Stencil
namespace Text

/-- Whether a position lies between two characters of a text or at one of its ends. -/
def IsBoundary (text : String) (position : Nat) : Prop :=
  String.Pos.Raw.IsValid text ⟨position⟩

instance (text : String) : DecidablePred (IsBoundary text) := fun position =>
  inferInstanceAs (Decidable (String.Pos.Raw.IsValid text ⟨position⟩))

/-- The text between two positions.  There is none where a position lies inside a character or
behind the end, or where the positions are in the wrong order. -/
def slice? (text : String) (first last : Nat) : Option String :=
  if bounds : IsBoundary text first ∧ IsBoundary text last ∧ first ≤ last then
    some (text.slice (text.pos ⟨first⟩ bounds.1) (text.pos ⟨last⟩ bounds.2.1) bounds.2.2).copy
  else none

/-- The characters of a text that begins at a position, each with its own position. -/
def placed : Nat → List Char → List (Nat × Char)
  | _, [] => []
  | position, character :: text =>
    (position, character) :: placed (position + character.utf8Size) text

end Text
end Stencil
