import Stencil.Dictionary
import Stencil.Text.Pieces

/-!
# Environments

An environment is a list of assignments `NAME=VALUE`.  A variable is added behind the others, and
one that is set keeps its value.
-/

namespace Stencil

/-- Variables with their values, in the order in which they were set. -/
abbrev Environment := List (String × String)

namespace Environment

/-- The value of a variable, if it is set. -/
def get? (environment : Environment) (name : String) : Option String :=
  Entries.get? environment name

/-- Sets a variable, unless it is set. -/
def complete (environment : Environment) (name value : String) : Environment :=
  if (environment.get? name).isSome then environment else environment ++ [(name, value)]

/-- What follows a text and an equals sign in an assignment.  The text may be more than a name, if
the value starts with the rest of it. -/
def following? (environment : Environment) (text : String) : Option String :=
  environment.findSome? fun (name, value) =>
    (Text.after? (text ++ "=").toList (name ++ "=" ++ value).toList).map String.ofList

end Environment
end Stencil
