import Stencil.Decimal.Reader
import Stencil.Environment
import Stencil.Settings.Path
import Stencil.Text.LowerCase

/-!
# Settings in the environment

A variable whose name starts with `gunit_`, in any case of the letters, says something about the
settings.  The rest of its name is a path in which two underscores separate the names.
-/

namespace Stencil

/-- What one source says: entries under keys. -/
abbrev Layer := List (String × Entry)

namespace Scalar

/-- The integer or else the number that a text denotes, or the text itself. -/
def ofNumeral (value : String) : Scalar :=
  match (Decimal.integer? value.toList).filter isInRange with
  | some number => integer number
  | none =>
    match Binary64.ofText? value.toList with
    | some number => real number
    | none => text value

/-- What the text of a variable stands for. -/
def ofVariable (value : String) : Scalar :=
  let word := Text.lower value
  if word = "true" then boolean true
  else if word = "false" then boolean false
  else ofNumeral value

end Scalar

namespace Layer

/-- A name with a point in place of every two underscores. -/
def separate : List Char → List Char
  | '_' :: '_' :: name => '.' :: separate name
  | character :: name => character :: separate name
  | [] => []

/-- The key that the name of a variable stands for, if it is about the settings. -/
def keyOf? (name : String) : Option String :=
  (Text.after? "gunit_".toList (Text.lower name).toList).map fun rest =>
    String.ofList (separate rest)

/-- The name of the environment as a source. -/
def environmentOrigin : String := "the environment"

/-- What the environment says.  Of variables under one key, the one that was set last decides. -/
def ofEnvironment (environment : Environment) : Layer :=
  environment.filterMap fun (name, value) =>
    (keyOf? name).map fun key =>
      (key, .scalar (some environmentOrigin) (Scalar.ofVariable value))

end Layer
end Stencil
