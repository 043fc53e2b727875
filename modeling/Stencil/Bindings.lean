import Stencil.Json.Printer

/-!
# Bindings

Bindings give JSON values to variable names.  They come from a list of pairs, in which a later pair
replaces an earlier one of the same name, or from a JSON object.
-/

namespace Stencil

/-- Values given to variable names. -/
abbrev Bindings := Dictionary Json

namespace Bindings

/-- The bindings that a JSON object makes.  Other values make none. -/
def ofJson? : Json → Option Bindings
  | .object fields => some (Dictionary.ofPairs fields)
  | _ => none

/-- The JSON object of the bindings. -/
def toJson (bindings : Bindings) : Json :=
  .object bindings.entries

end Bindings

/-- The text that stands for a value in a rendered template: strings as they are, nothing for null,
and the JSON text of any other value. -/
def Json.rendered : Json → String
  | .string text => text
  | .null => ""
  | value => value.text

end Stencil
