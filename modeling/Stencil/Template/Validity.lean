import Stencil.Logged

/-!
# Validity

A text is rejected at once when it has different numbers of opening and closing braces, and
otherwise when it is no template.  Each rejection is recorded by one event that says why.
-/

namespace Stencil
namespace Template

/-- The number of opening braces in a text. -/
def openingCount (text : String) : Nat :=
  text.toList.count '{'

/-- The number of closing braces in a text. -/
def closingCount (text : String) : Nat :=
  text.toList.count '}'

/-- Whether a text is a template, with the event of its rejection. -/
def validate (text : String) : Logged Bool :=
  if openingCount text ≠ closingCount text then do
    Logged.emit (.unbalanced (openingCount text) (closingCount text))
    return false
  else
    match parse text with
    | .ok _ => return true
    | .error error => do
      Logged.emit (.rejected error)
      return false

/-- Whether a text is a template. -/
def isValid (text : String) : Bool :=
  (validate text).value

end Template
end Stencil
