/-!
# Pieces

A text is cut at every occurrence of a separator, so that there is always one piece more than there
are separators, or after a start that it has.
-/

namespace Stencil
namespace Text

/-- The pieces of a text between the occurrences of a separator. -/
def pieces (separator : Char) : List Char → List (List Char)
  | [] => [[]]
  | character :: text =>
    if character = separator then [] :: pieces separator text
    else
      match pieces separator text with
      | [] => [[character]]
      | piece :: others => (character :: piece) :: others

/-- What follows a start in a text, if the text starts so. -/
def after? : (start text : List Char) → Option (List Char)
  | [], text => some text
  | _, [] => none
  | first :: start, character :: text => if first = character then after? start text else none

/-- A text without the byte order mark at its start. -/
def withoutMark (text : List Char) : List Char :=
  (after? ['\uFEFF'] text).getD text

end Text
end Stencil
