import Stencil.Context.Basic
import Stencil.Json.Decode
import Stencil.Moment.Printer
import Stencil.Moment.Reader

/-!
# Contexts as JSON

A context is written as an object and read from an object or from an array of its three parts.  A
moment may be written in any offset and is kept in UTC.
-/

namespace Stencil

namespace TemplateId

/-- The JSON value of an identifier. -/
def toJson (id : TemplateId) : Json :=
  .string id.text

/-- Reads an identifier. -/
def ofJson : Decoder TemplateId := fun value =>
  (Decoder.string value).map given

end TemplateId

namespace Moment

/-- The JSON value of a moment. -/
def toJson (moment : Moment) : Json :=
  .string moment.text

/-- Reads a moment. -/
def ofJson : Decoder Moment
  | .string text =>
    match ofText? text with
    | some moment => .ok moment
    | none => .error (.invalidMoment text)
  | found => .error (.wrongShape found .moment)

end Moment

namespace Bindings

/-- Reads bindings. -/
def ofJson : Decoder Bindings := fun value =>
  match ofJson? value with
  | some bindings => .ok bindings
  | none => .error (.wrongShape value .mapping)

end Bindings

namespace Context

/-- The JSON value of a context. -/
def toJson (context : Context) : Json :=
  .ofPairs [("variables", context.bindings.toJson), ("timestamp", context.bound.toJson),
    ("template_id", context.owner.toJson)]

/-- The kind of record that a context is. -/
def kind : String := "TemplateContext"

/-- Reads a context from the fields of an object. -/
def ofFields (fields : List (String × Json)) : Except DecodeError Context := do
  let owner ← TemplateId.ofJson.field? fields "template_id"
  let bound ← Moment.ofJson.field? fields "timestamp"
  let bindings ← Bindings.ofJson.field? fields "variables"
  let bindings ← Decoder.required "variables" bindings
  let bound ← Decoder.required "timestamp" bound
  let owner ← Decoder.required "template_id" owner
  return ⟨bindings, bound, owner⟩

/-- Reads a context from the values of an array. -/
def ofItems : List Json → Except DecodeError Context
  | [] => .error (.tooShort 0 kind 3)
  | first :: items => do
    let bindings ← Bindings.ofJson first
    match items with
    | [] => .error (.tooShort 1 kind 3)
    | bound :: items => do
      let bound ← Moment.ofJson bound
      match items with
      | [] => .error (.tooShort 2 kind 3)
      | owner :: items => do
        let owner ← TemplateId.ofJson owner
        if items.isEmpty then return ⟨bindings, bound, owner⟩
        else .error (.tooLong (items.length + 3))

/-- Reads a context. -/
def ofJson : Decoder Context
  | .object fields => ofFields fields
  | .array items => ofItems items
  | found => .error (.wrongShape found (.record kind))

end Context
end Stencil
