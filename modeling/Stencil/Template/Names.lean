import Stencil.Template.Basic

/-!
# The names a text mentions

A name is any text between an opening brace and the next closing brace, with no regard to whether
the whole text is a template.  Inside an open span further opening braces belong to the name, an
empty span gives no name, and neither does a span that is never closed.
-/

namespace Stencil
namespace Template

/-- The texts of the closed spans, in order.  `held` is the open span so far, its last character
first, or nothing outside the spans. -/
def spansFrom : (held : Option (List Char)) → List Char → List String
  | _, [] => []
  | none, character :: text => spansFrom (if character = '{' then some [] else none) text
  | some held, character :: text =>
    if character = '}' then
      if held.isEmpty then spansFrom none text
      else String.ofList held.reverse :: spansFrom none text
    else spansFrom (some (character :: held)) text

/-- The non-empty texts between an opening brace and the next closing brace, in order. -/
def spans (text : String) : List String :=
  spansFrom none text.toList

/-- Adds a name to a strictly increasing list of names. -/
def insertName (name : String) : List String → List String
  | [] => [name]
  | head :: names =>
    if name < head then name :: head :: names
    else if name = head then head :: names
    else head :: insertName name names

/-- The names that a text mentions, each once, in code point order. -/
def names (text : String) : List String :=
  (spans text).foldr insertName []

end Template
end Stencil
