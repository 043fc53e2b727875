import Stencil.Context.Basic
import Stencil.Logged
import Stencil.Template.Substitution

/-!
# Processors

A processor has an identifier and at most one context, the variables that were last bound to it.
Binding replaces the whole context and is recorded by an event, and so is every successful
rendering.  Rendering leaves the context as it is.
-/

namespace Stencil

/-- A place where variables are bound and templates are rendered. -/
structure Processor where
  /-- The identifier, chosen when the processor was created. -/
  id : TemplateId
  /-- The variables that were last bound. -/
  context : Option Context

namespace Processor

/-- A processor without variables. -/
def create (id : TemplateId) : Processor where
  id := id
  context := none

/-- Binds variables in place of all earlier ones. -/
def bind (processor : Processor) (now : Moment) (bindings : Bindings) : Logged Processor := do
  Logged.emit (.contextSet processor.id bindings.size)
  return { processor with context := some ⟨bindings, now, processor.id⟩ }

/-- Binds the last value of each name in a list of pairs. -/
def setContext (processor : Processor) (now : Moment) (pairs : List (String × Json)) :
    Logged Processor :=
  processor.bind now (Dictionary.ofPairs pairs)

/-- Binds the fields of a JSON object.  Another value changes nothing. -/
def setContextJson (processor : Processor) (now : Moment) (value : Json) :
    Except TemplateError (Logged Processor) :=
  match Bindings.ofJson? value with
  | some bindings => .ok (processor.bind now bindings)
  | none => .error .invalidVariables

/-- Renders a text with the variables that were last bound. -/
def process (processor : Processor) (text : String) : Logged (Except TemplateError String) :=
  match processor.context with
  | none => return .error (.contextNotSet processor.id)
  | some context =>
    match Template.substitute text context.bindings with
    | .error error => return .error error
    | .ok output => do
      Logged.emit (.processed processor.id text.utf8ByteSize output.utf8ByteSize)
      return .ok output

end Processor
end Stencil
