import Stencil.Bindings
import Stencil.Template.Parser
import Stencil.TemplateId

/-!
# Substitution

A template is rendered by writing, in place of each placeholder, the value bound to its name.  The
whole text is read as a template before any name is looked up, and nothing is rendered unless every
name is bound.  Values are never read as templates.
-/

namespace Stencil

/-- The ways in which processing a template fails. -/
inductive TemplateError where
  /-- The processor has no variables yet. -/
  | contextNotSet (owner : TemplateId)
  /-- A placeholder names a variable that is not bound. -/
  | missingVariable (name : String)
  /-- The text is no template. -/
  | malformed (error : SyntaxError)
  /-- Variables were given as a JSON value that is no object. -/
  | invalidVariables
deriving DecidableEq, Repr

namespace TemplateError

/-- What went wrong, in words. -/
def message : TemplateError → String
  | contextNotSet owner => "Context must be set before processing template " ++ owner.text
  | missingVariable name => "Missing variable: " ++ name
  | malformed error =>
    "Malformed template at byte " ++ error.position.repr ++ ": " ++ error.offence.message
  | invalidVariables => "Invalid variables: Variables must be an object"

end TemplateError

namespace Segment

/-- The text that a piece contributes to the output. -/
def render (bindings : Bindings) : Segment → Except TemplateError String
  | literal text => .ok text
  | placeholder name =>
    match bindings.get? name with
    | some value => .ok value.rendered
    | none => .error (.missingVariable name)

end Segment

namespace Template

/-- The text of a template with its placeholders filled, or the first name that is not bound. -/
def render (bindings : Bindings) : Template → Except TemplateError String
  | [] => .ok ""
  | segment :: template => do
    let front ← segment.render bindings
    let back ← render bindings template
    return front ++ back

/-- Reads a text as a template and renders it. -/
def substitute (text : String) (bindings : Bindings) : Except TemplateError String :=
  match parse text with
  | .error error => .error (.malformed error)
  | .ok template => template.render bindings

/-- Renders a text with variables given as a JSON value. -/
def substituteJson (text : String) (value : Json) : Except TemplateError String :=
  match Bindings.ofJson? value with
  | none => .error .invalidVariables
  | some bindings => substitute text bindings

end Template
end Stencil
