import Stencil.Engine

/-!
# Sessions

A session works on processors that are known by names of the caller's choice, and on one engine.  It
is a list of steps, each of which changes the desk, answers and may record events.
-/

namespace Stencil

/-- The named processors and the engine of a session. -/
structure Desk where
  /-- The processors, by the names under which they are used. -/
  processors : Dictionary Processor
  /-- The engine. -/
  engine : Engine

/-- What is done with a processor that exists. -/
inductive Action where
  /-- Copies the processor, identifier and context, to another name. -/
  | copy (destination : String)
  /-- Asks for the identifier. -/
  | identify
  /-- Asks for the context. -/
  | inspect
  /-- Binds pairs. -/
  | bind (pairs : List (String × Json))
  /-- Binds a JSON value. -/
  | bindJson (value : Json)
  /-- Renders a text. -/
  | process (text : String)
  /-- Binds pairs and renders a text. -/
  | bindAndProcess (pairs : List (String × Json)) (text : String)
  /-- Binds a JSON value and renders a text. -/
  | bindJsonAndProcess (value : Json) (text : String)

/-- A step of a session. -/
inductive Step where
  /-- Replaces the engine by one with a prefix. -/
  | replaceEngine (idPrefix : String)
  /-- Creates a processor under a name, with its own prefix for a made identifier. -/
  | create (name : String) (id : Option String) (idPrefix : String)
  /-- Creates a processor under a name through the engine. -/
  | createByEngine (name : String) (id : Option String)
  /-- Does something with the processor under a name. -/
  | use (name : String) (action : Action)
  /-- Renders in one go with pairs. -/
  | processByEngine (text : String) (pairs : List (String × Json))
  /-- Renders in one go with a JSON value. -/
  | processJsonByEngine (text : String) (value : Json)

/-- What a step answers. -/
inductive Answer where
  /-- The step is done. -/
  | done
  /-- The identifier of the processor. -/
  | id (id : TemplateId)
  /-- The context of the processor. -/
  | context (context : Option Context)
  /-- The rendered text. -/
  | text (text : String)
  /-- The step failed. -/
  | failure (error : TemplateError)
  /-- There is no processor under the name. -/
  | unknownName

namespace Answer

/-- The rendered text, or why there is none. -/
def ofResult : Except TemplateError String → Answer
  | .ok output => text output
  | .error error => failure error

end Answer

namespace Action

/-- What an action does to the processor and what it answers. -/
def run (action : Action) (now : Moment) (processor : Processor) : Logged (Processor × Answer) :=
  match action with
  | copy _ => return (processor, .id processor.id)
  | identify => return (processor, .id processor.id)
  | inspect => return (processor, .context processor.context)
  | bind pairs => do
    let processor ← processor.setContext now pairs
    return (processor, .id processor.id)
  | bindJson value =>
    match processor.setContextJson now value with
    | .error error => return (processor, .failure error)
    | .ok binding => do
      let processor ← binding
      return (processor, .id processor.id)
  | process text => do
    let result ← processor.process text
    return (processor, .ofResult result)
  | bindAndProcess pairs text => do
    let processor ← processor.setContext now pairs
    let result ← processor.process text
    return (processor, .ofResult result)
  | bindJsonAndProcess value text =>
    match processor.setContextJson now value with
    | .error error => return (processor, .failure error)
    | .ok binding => do
      let processor ← binding
      let result ← processor.process text
      return (processor, .ofResult result)

/-- The name under which the processor is put back: its own, but a copy's destination. -/
def destination (name : String) : Action → String
  | copy destination => destination
  | _ => name

end Action

namespace Desk

/-- A desk without named processors, with an engine of the usual prefix. -/
def start (now : Moment) : Desk where
  processors := Dictionary.empty
  engine := Engine.create TemplateId.defaultPrefix now

/-- The desk with a processor under a name. -/
def put (desk : Desk) (name : String) (processor : Processor) : Desk :=
  { desk with processors := desk.processors.insert name processor }

/-- The desk with a new processor under a name, and its identifier. -/
def putNew (desk : Desk) (name : String) (processor : Processor) : Desk × Answer :=
  (desk.put name processor, .id processor.id)

end Desk

namespace Step

/-- What a step does to the desk and what it answers. -/
def run (step : Step) (now : Moment) (desk : Desk) : Logged (Desk × Answer) :=
  match step with
  | replaceEngine idPrefix => return ({ desk with engine := Engine.create idPrefix now }, .done)
  | create name id idPrefix =>
    return desk.putNew name (Processor.create (TemplateId.choose idPrefix now id))
  | createByEngine name id => return desk.putNew name (desk.engine.createProcessor now id)
  | use name action =>
    match desk.processors.get? name with
    | none => return (desk, .unknownName)
    | some processor => do
      let (processor, answer) ← action.run now processor
      return (desk.put (action.destination name) processor, answer)
  | processByEngine text pairs => do
    let (engine, result) ← desk.engine.process now text pairs
    return ({ desk with engine }, .ofResult result)
  | processJsonByEngine text value => do
    let (engine, result) ← desk.engine.processJson now text value
    return ({ desk with engine }, .ofResult result)

end Step

/-- The answer of one step and the events it recorded. -/
abbrev Reply := Logged Answer

namespace Session

/-- The replies to a list of steps, each taken at its own moment, and the desk at the end. -/
def run : Desk → List (Moment × Step) → List Reply × Desk
  | desk, [] => ([], desk)
  | desk, (now, step) :: steps =>
    let outcome := step.run now desk
    let (replies, last) := run outcome.value.1 steps
    (⟨outcome.events, outcome.value.2⟩ :: replies, last)

/-- The replies to a list of steps from a fresh desk. -/
def replies (now : Moment) (steps : List (Moment × Step)) : List Reply :=
  (run (Desk.start now) steps).1

end Session
end Stencil
