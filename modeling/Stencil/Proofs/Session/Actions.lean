import Stencil.Session

/-!
# What actions do

An action leaves its processor as it is, but for the variables that it binds.  If it renders a text,
it answers what the processor gives with the variables it has then.
-/

namespace Stencil

namespace Processor

/-- The variables that were last bound. -/
def bound? (processor : Processor) : Option Bindings :=
  processor.context.map Context.bindings

/-- The processor after variables were bound, if there are any. -/
def rebound (processor : Processor) (now : Moment) : Option Bindings → Processor
  | none => processor
  | some bindings => { processor with context := some ⟨bindings, now, processor.id⟩ }

@[simp]
theorem rebound_none (processor : Processor) (now : Moment) :
    processor.rebound now none = processor := rfl

@[simp]
theorem id_rebound (processor : Processor) (now : Moment) (binding : Option Bindings) :
    (processor.rebound now binding).id = processor.id := by
  cases binding <;> rfl

theorem bound?_rebound (processor : Processor) (now : Moment) (binding : Option Bindings) :
    (processor.rebound now binding).bound? = binding.or processor.bound? := by
  cases binding <;> rfl

theorem value_process (processor : Processor) (text : String) :
    (processor.process text).value =
      match processor.bound? with
      | none => .error (.contextNotSet processor.id)
      | some bindings => Template.substitute text bindings := by
  cases bound : processor.context with
  | none => simp [process, bound?, bound]
  | some context =>
      simp only [process, bound?, bound, Option.map_some]
      cases Template.substitute text context.bindings <;> rfl

/-- After a binding the variables of that binding are rendered, whatever was bound before. -/
theorem value_process_bind (processor : Processor) (now : Moment) (bindings : Bindings)
    (text : String) :
    ((processor.bind now bindings).value.process text).value =
      Template.substitute text bindings :=
  value_process (processor.rebound now (some bindings)) text

end Processor

namespace Action

/-- The variables that the action binds, if its binding succeeds. -/
def binding? : Action → Option Bindings
  | bind pairs => some (Dictionary.ofPairs pairs)
  | bindJson value => Bindings.ofJson? value
  | bindAndProcess pairs _ => some (Dictionary.ofPairs pairs)
  | bindJsonAndProcess value _ => Bindings.ofJson? value
  | _ => none

/-- The text that the action asks the processor to render, unless its binding fails. -/
def rendered? : Action → Option String
  | process text => some text
  | bindAndProcess _ text => some text
  | bindJsonAndProcess value text => (Bindings.ofJson? value).map fun _ => text
  | _ => none

/-- An action changes the variables that it binds, and nothing else. -/
theorem processor_run (action : Action) (now : Moment) (processor : Processor) :
    (action.run now processor).value.1 = processor.rebound now action.binding? := by
  cases action with
  | bindJson value =>
      simp only [run, binding?, Processor.setContextJson]
      cases Bindings.ofJson? value <;> rfl
  | bindJsonAndProcess value text =>
      simp only [run, binding?, Processor.setContextJson]
      cases Bindings.ofJson? value <;> rfl
  | _ => rfl

/-- A text is rendered after the binding of the same action. -/
theorem answer_run {action : Action} {text : String} (rendered : action.rendered? = some text)
    (now : Moment) (processor : Processor) :
    (action.run now processor).value.2 =
      .ofResult ((processor.rebound now action.binding?).process text).value := by
  cases action with
  | process other =>
      obtain rfl := Option.some.inj rendered
      rfl
  | bindAndProcess pairs other =>
      obtain rfl := Option.some.inj rendered
      rfl
  | bindJsonAndProcess value other =>
      simp only [run, binding?, Processor.setContextJson]
      cases decoded : Bindings.ofJson? value with
      | none => simp [rendered?, decoded] at rendered
      | some bindings =>
          obtain rfl : other = text := by simpa [rendered?, decoded] using rendered
          rfl
  | _ => exact nomatch rendered

end Action
end Stencil
