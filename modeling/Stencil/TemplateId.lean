import Stencil.Moment.Basic

/-!
# Identifiers

Every processor has an identifier, which its caller gives or which is made from a prefix and the
moment of its creation.
-/

namespace Stencil

/-- The identifier of a processor. -/
inductive TemplateId where
  /-- A text that the caller chose. -/
  | given (text : String)
  /-- A prefix and the moment of creation. -/
  | generated (idPrefix : String) (created : Moment)
deriving DecidableEq, Repr

namespace TemplateId

/-- The identifier as it is shown: a made one is its prefix, the second and the microsecond. -/
def text : TemplateId → String
  | given text => text
  | generated idPrefix created =>
    idPrefix ++ "_" ++ created.epochSecond.repr ++ "." ++
      String.ofList (paddedDigits 6 (created.nanosecond / 1000))

/-- The identifier without the moment of its creation. -/
def masked : TemplateId → TemplateId
  | given text => given text
  | generated idPrefix _ => generated idPrefix ⟨0, 0, 0⟩

/-- The caller's text if there is one, else an identifier made now. -/
def choose (idPrefix : String) (now : Moment) : Option String → TemplateId
  | some text => given text
  | none => generated idPrefix now

/-- The prefix of made identifiers when nothing else is set. -/
def defaultPrefix : String := "template"

end TemplateId
end Stencil
