import Stencil.Json.Reader

/-!
# Assignments

On the command line a variable is bound by an argument `NAME=VALUE`.  The name ends at the first
equals sign.  A value that is the JSON text of a string, a truth value or null stands for that
value, and any other text, numbers and structures among them, stands for itself as typed.
-/

namespace Stencil

/-- The ways in which an argument fails to be an assignment. -/
inductive ArgumentError where
  /-- It has no equals sign. -/
  | noEqualsSign (argument : String)
  /-- It starts with the equals sign. -/
  | emptyName (argument : String)
deriving DecidableEq, Repr

namespace ArgumentError

/-- What is wrong, in words. -/
def message : ArgumentError → String
  | noEqualsSign argument => "expected NAME=VALUE, got '" ++ argument ++ "'"
  | emptyName argument => "empty variable name in '" ++ argument ++ "'"

end ArgumentError

namespace Assignment

/-- The characters before and after the first equals sign, if there is one. -/
def split? : List Char → Option (List Char × List Char)
  | [] => none
  | character :: text =>
    if character = '=' then some ([], text)
    else (split? text).map fun (name, value) => (character :: name, value)

/-- The value that the text after the equals sign stands for. -/
def decode (raw : String) : Json :=
  match Json.ofText? raw with
  | some (.string text) => .string text
  | some (.boolean value) => .boolean value
  | some .null => .null
  | _ => .string raw

/-- The name and the value of an argument. -/
def parse (argument : String) : Except ArgumentError (String × Json) :=
  match split? argument.toList with
  | none => .error (.noEqualsSign argument)
  | some ([], _) => .error (.emptyName argument)
  | some (name, raw) => .ok (String.ofList name, decode (String.ofList raw))

/-- The assignments of several arguments, or the first argument that is none. -/
def parseAll : List String → Except ArgumentError (List (String × Json))
  | [] => .ok []
  | argument :: arguments => do
    let assignment ← parse argument
    let assignments ← parseAll arguments
    return assignment :: assignments

end Assignment
end Stencil
