import Stencil.Json.Printer
import Stencil.Log.Filter
import Stencil.Moment.Printer

/-!
# Log entries

A logged event is shown as a line of words or as a JSON object.  The colours that lines of words have
unless `NO_COLOR` is set are left out.
-/

namespace Stencil

namespace FieldValue

/-- The value in a line of words. -/
def shown : FieldValue → String
  | id value => value.text
  | count value => value.repr
  | text value => value
  | flag true => "true"
  | flag false => "false"

/-- The value in a JSON object. -/
def toJson : FieldValue → Json
  | id value => .string value.text
  | count value => .integer value
  | text value => .string value
  | flag value => .boolean value

end FieldValue

namespace Event

/-- The event as a line: level, target, message and fields. -/
def line (event : Event) : String :=
  event.level.label ++ " " ++ event.target ++ ": " ++ event.message ++
    String.join (event.fields.map fun (name, value) => " " ++ name ++ "=" ++ value.shown)

/-- The event as a JSON object. -/
def toJson (event : Event) : Json :=
  .ofPairs [("level", .string event.level.label), ("target", .string event.target),
    ("fields", .ofPairs (("message", .string event.message) ::
      event.fields.map fun (name, value) => (name, value.toJson)))]

/-- What is written to the log for an event that is logged at a moment. -/
def logText (json : Bool) (now : Moment) (event : Event) : String :=
  if json then
    (Json.ofPairs (("timestamp", .string now.text) :: event.toJson.fields)).text ++ "\n"
  else now.text ++ " " ++ event.line ++ "\n"

end Event
end Stencil
