import Stencil.Json.Printer
import Stencil.Text.Quoted

/-!
# Decoding JSON values

A record is decoded from an object, whose fields are read in the order of their names and whose
other fields are passed over, or from an array that holds the fields in the order of the record.
-/

namespace Stencil

/-- What a value is expected to be. -/
inductive Shape where
  /-- A record of a kind. -/
  | record (kind : String)
  /-- An object with any fields. -/
  | mapping
  /-- A text. -/
  | string
  /-- A truth value. -/
  | boolean
  /-- A text that denotes a moment. -/
  | moment
deriving DecidableEq, Repr

namespace Shape

/-- The shape in words. -/
def description : Shape → String
  | record kind => "struct " ++ kind
  | mapping => "a map"
  | string => "a string"
  | boolean => "a boolean"
  | moment => "an RFC 3339 formatted date and time string"

end Shape

namespace Json

/-- A value in words, shortened to its kind where it has parts. -/
def description : Json → String
  | null => "null"
  | boolean true => "boolean `true`"
  | boolean false => "boolean `false`"
  | number (.integer value) => "integer `" ++ String.ofList (integerText value) ++ "`"
  | number (.real value) => "floating point `" ++ String.ofList (value.write style) ++ "`"
  | string text => "string " ++ Text.quoted text
  | array _ => "sequence"
  | object _ => "map"

end Json

/-- The ways in which decoding fails. -/
inductive DecodeError where
  /-- A value has another shape than expected. -/
  | wrongShape (found : Json) (expected : Shape)
  /-- An array has too few values for a record that needs `fields` of them. -/
  | tooShort (length : Nat) (kind : String) (fields : Nat)
  /-- An array has more values than the record. -/
  | tooLong (length : Nat)
  /-- A record lacks a field. -/
  | missingField (name : String)
  /-- A text denotes no moment. -/
  | invalidMoment (text : String)

namespace DecodeError

/-- What is wrong, in words. -/
def message : DecodeError → String
  | wrongShape found expected =>
    "invalid type: " ++ found.description ++ ", expected " ++ expected.description
  | tooShort length kind fields =>
    "invalid length " ++ length.repr ++ ", expected struct " ++ kind ++ " with " ++ fields.repr ++
      " elements"
  | tooLong length => "invalid length " ++ length.repr ++ ", expected fewer elements in array"
  | missingField name => "missing field `" ++ name ++ "`"
  | invalidMoment text => "invalid date and time " ++ Text.quoted text

end DecodeError

/-- A way to read values of a type from JSON. -/
abbrev Decoder (α : Type) := Json → Except DecodeError α

namespace Decoder

variable {α : Type}

/-- Reads a text. -/
def string : Decoder String
  | .string text => .ok text
  | found => .error (.wrongShape found .string)

/-- Reads a truth value. -/
def boolean : Decoder Bool
  | .boolean value => .ok value
  | found => .error (.wrongShape found .boolean)

/-- Reads the field with a name, if it is there. -/
def field? (decoder : Decoder α) (fields : List (String × Json)) (name : String) :
    Except DecodeError (Option α) :=
  match Entries.get? fields name with
  | none => .ok none
  | some value => (decoder value).map some

/-- Reads the value at a place of an array, if it is there. -/
def item? (decoder : Decoder α) (items : List Json) (index : Nat) :
    Except DecodeError (Option α) :=
  match items[index]? with
  | none => .ok none
  | some value => (decoder value).map some

/-- The value of a field that must be there. -/
def required (name : String) : Option α → Except DecodeError α
  | some value => .ok value
  | none => .error (.missingField name)

/-- Refuses an array of more values than a limit. -/
def atMost (limit : Nat) (items : List Json) : Except DecodeError Unit :=
  if items.length ≤ limit then .ok () else .error (.tooLong items.length)

end Decoder
end Stencil
