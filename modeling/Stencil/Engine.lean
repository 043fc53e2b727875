import Stencil.Processor

/-!
# Engines

An engine creates processors whose identifiers share a prefix, and has a processor of its own for
rendering a template with variables in one go.
-/

namespace Stencil

/-- A source of processors, with one of its own. -/
structure Engine where
  /-- The processor that renders in one go. -/
  processor : Processor
  /-- The prefix of the identifiers that the engine makes. -/
  idPrefix : String

namespace Engine

/-- An engine whose identifiers have a prefix. -/
def create (idPrefix : String) (now : Moment) : Engine where
  processor := Processor.create (.generated idPrefix now)
  idPrefix := idPrefix

/-- A processor with a given identifier or one made by the engine. -/
def createProcessor (engine : Engine) (now : Moment) (id : Option String) : Processor :=
  Processor.create (TemplateId.choose engine.idPrefix now id)

/-- The result of processing with the engine's own processor, and the engine afterwards. -/
abbrev Outcome := Engine × Except TemplateError String

/-- Binds variables to the engine's own processor and renders a text. -/
def process (engine : Engine) (now : Moment) (text : String) (pairs : List (String × Json)) :
    Logged Outcome := do
  let processor ← engine.processor.setContext now pairs
  let result ← processor.process text
  return ({ engine with processor }, result)

/-- Binds a JSON object to the engine's own processor and renders a text.  If the value is no object
the text is not looked at and the engine stays as it is. -/
def processJson (engine : Engine) (now : Moment) (text : String) (value : Json) :
    Logged Outcome :=
  match engine.processor.setContextJson now value with
  | .error error => return (engine, .error error)
  | .ok binding => do
    let processor ← binding
    let result ← processor.process text
    return ({ engine with processor }, result)

end Engine
end Stencil
