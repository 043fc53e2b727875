import Stencil.Json.Basic
import Stencil.Template.Parser
import Stencil.TemplateId

/-!
# Events

What happens while templates are processed is recorded as events.  Each has a level, a target that
names the part of the program, a message and fields.
-/

namespace Stencil

/-- How important an event is, from the most to the least. -/
inductive Level where
  | error
  | warn
  | info
  | debug
  | trace
deriving DecidableEq, Repr

namespace Level

/-- The level in capitals. -/
def label : Level → String
  | error => "ERROR"
  | warn => "WARN"
  | info => "INFO"
  | debug => "DEBUG"
  | trace => "TRACE"

/-- How much detail a log of this level has. -/
def detail : Level → Nat
  | error => 1
  | warn => 2
  | info => 3
  | debug => 4
  | trace => 5

end Level

/-- Something that happened. -/
inductive Event where
  /-- Variables were bound to a processor. -/
  | contextSet (owner : TemplateId) (variableCount : Nat)
  /-- A processor rendered a template. -/
  | processed (owner : TemplateId) (inputLength outputLength : Nat)
  /-- A text was rejected because it has different numbers of the two braces. -/
  | unbalanced (opening closing : Nat)
  /-- A text was rejected because of its first offence. -/
  | rejected (error : SyntaxError)
  /-- A message that announces a call. -/
  | announced (message : String)
  /-- The log has been set up. -/
  | logReady (directives : String) (json : Bool)
  /-- The settings have been read. -/
  | settingsLoaded
deriving DecidableEq, Repr

namespace Event

/-- How important the event is. -/
def level : Event → Level
  | announced _ => .info
  | _ => .debug

/-- The part of the program in which the event happens. -/
def target : Event → String
  | contextSet .. => "gunit::template::processor"
  | processed .. => "gunit::template::processor"
  | unbalanced .. => "gunit::template::validation"
  | rejected _ => "gunit::template::validation"
  | announced _ => "gunit::lang"
  | logReady .. => "gunit::telemetry"
  | settingsLoaded => "gunit"

/-- The event in words. -/
def message : Event → String
  | contextSet .. => "Template context set"
  | processed .. => "Template processed"
  | unbalanced .. => "Template rejected: unbalanced braces"
  | rejected _ => "Template rejected"
  | announced message => message
  | logReady .. => "Tracing initialized"
  | settingsLoaded => "Configuration loaded"

end Event

/-- The value of a field of an event. -/
inductive FieldValue where
  /-- An identifier. -/
  | id (value : TemplateId)
  /-- A number. -/
  | count (value : Nat)
  /-- A text. -/
  | text (value : String)
  /-- A truth value. -/
  | flag (value : Bool)
deriving DecidableEq, Repr

namespace Event

/-- The fields of the event, in the order in which they are shown. -/
def fields : Event → List (String × FieldValue)
  | contextSet owner variableCount =>
    [("template_id", .id owner), ("variable_count", .count variableCount)]
  | processed owner inputLength outputLength =>
    [("template_id", .id owner), ("input_len", .count inputLength),
      ("output_len", .count outputLength)]
  | unbalanced opening closing => [("open", .count opening), ("close", .count closing)]
  | rejected error => [("position", .count error.position), ("reason", .text error.offence.message)]
  | announced _ => []
  | logReady directives json => [("level", .text directives), ("json", .flag json)]
  | settingsLoaded => []

/-- The event without the moments of creation in its identifiers. -/
def masked : Event → Event
  | contextSet owner variableCount => contextSet owner.masked variableCount
  | processed owner inputLength outputLength => processed owner.masked inputLength outputLength
  | event => event

end Event
end Stencil
