/-!
# Nesting in JSON texts

How deep arrays and objects stand inside each other is seen from the brackets outside strings, also
where a value is replaced by a later one of the same name.
-/

namespace Stencil
namespace Json

/-- The greatest number of brackets that are open at one place of a text, when `opened` of them are
open at its start, and a string is open as well if `quoted` says so. -/
def nestingFrom : (quoted : Bool) → (opened : Nat) → List Char → Nat
  | true, opened, '\\' :: _ :: text => nestingFrom true opened text
  | true, opened, character :: text => nestingFrom (character ≠ '"') opened text
  | false, opened, character :: text =>
    if character = '"' then nestingFrom true opened text
    else if character = '[' || character = '{' then nestingFrom false (opened + 1) text
    else if character = ']' || character = '}' then
      max opened (nestingFrom false (opened - 1) text)
    else nestingFrom false opened text
  | _, opened, [] => opened

/-- The greatest number of arrays and objects that stand inside each other in a JSON text. -/
def nesting (text : List Char) : Nat :=
  nestingFrom false 0 text

end Json
end Stencil
