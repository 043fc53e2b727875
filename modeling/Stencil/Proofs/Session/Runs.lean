import Stencil.Proofs.Dictionary
import Stencil.Proofs.Session.Actions

/-!
# Runs of sessions

A run of several steps is the run of the first steps followed by that of the others.  An action on a
processor replaces the processor under one name and nothing else on the desk.
-/

namespace Stencil

namespace Desk

@[simp]
theorem processors_put (desk : Desk) (name : String) (processor : Processor) :
    (desk.put name processor).processors = desk.processors.insert name processor := rfl

theorem put_eq_self {desk : Desk} {name : String} {processor : Processor}
    (found : desk.processors.get? name = some processor) : desk.put name processor = desk := by
  rw [put, Dictionary.insert_eq_self found]

end Desk

namespace Engine

/-- Rendering in one go leaves the prefix of the engine as it is. -/
theorem idPrefix_processJson (engine : Engine) (now : Moment) (text : String) (value : Json) :
    (engine.processJson now text value).value.1.idPrefix = engine.idPrefix := by
  simp only [processJson, Processor.setContextJson]
  cases Bindings.ofJson? value <;> rfl

end Engine

namespace Step

variable {desk : Desk} {name : String}

theorem run_use_of_none (unknown : desk.processors.get? name = none) (action : Action)
    (now : Moment) : (use name action).run now desk = pure (desk, .unknownName) := by
  simp only [run, unknown]

theorem run_use_of_some {processor : Processor}
    (found : desk.processors.get? name = some processor) (action : Action) (now : Moment) :
    (use name action).run now desk =
      ⟨(action.run now processor).events,
        desk.put (action.destination name) (processor.rebound now action.binding?),
        (action.run now processor).value.2⟩ := by
  simp only [run, found, ← action.processor_run now processor]
  change Logged.mk ((action.run now processor).events ++ []) _ = _
  rw [List.append_nil]
  rfl

/-- An action that binds nothing and copies nothing leaves the desk as it is. -/
theorem desk_run_use {action : Action} (bindsNothing : action.binding? = none)
    (copiesNothing : action.destination name = name) (now : Moment) :
    ((use name action).run now desk).value.1 = desk := by
  cases found : desk.processors.get? name with
  | none => rw [run_use_of_none found]; rfl
  | some processor =>
      rw [run_use_of_some found, bindsNothing, copiesNothing]
      exact Desk.put_eq_self found

end Step

namespace Session

/-- The reply to a step that is taken from a desk. -/
def reply (desk : Desk) (now : Moment) (step : Step) : Reply :=
  ⟨(step.run now desk).events, (step.run now desk).value.2⟩

theorem run_cons (desk : Desk) (now : Moment) (step : Step) (steps : List (Moment × Step)) :
    run desk ((now, step) :: steps) =
      (reply desk now step :: (run (step.run now desk).value.1 steps).1,
        (run (step.run now desk).value.1 steps).2) := rfl

theorem run_append (desk : Desk) (before after : List (Moment × Step)) :
    run desk (before ++ after) =
      ((run desk before).1 ++ (run (run desk before).2 after).1,
        (run (run desk before).2 after).2) := by
  induction before generalizing desk with
  | nil => rfl
  | cons head before induction =>
      obtain ⟨now, step⟩ := head
      simp only [List.cons_append, run_cons, induction]

@[simp]
theorem length_run (desk : Desk) (steps : List (Moment × Step)) :
    (run desk steps).1.length = steps.length := by
  induction steps generalizing desk with
  | nil => rfl
  | cons head steps induction =>
      obtain ⟨now, step⟩ := head
      simp [run_cons, induction]

/-- The replies around one step, in the order of the steps. -/
theorem replies_append_cons (start now : Moment) (step : Step)
    (before after : List (Moment × Step)) :
    replies start (before ++ (now, step) :: after) =
      replies start before ++
        reply (run (Desk.start start) before).2 now step ::
          (run (step.run now (run (Desk.start start) before).2).value.1 after).1 := by
  rw [replies, run_append, run_cons]
  rfl

theorem getElem?_replies (start now : Moment) (step : Step) (before after : List (Moment × Step)) :
    (replies start (before ++ (now, step) :: after))[before.length]? =
      some (reply (run (Desk.start start) before).2 now step) := by
  have length : (replies start before).length = before.length := length_run _ _
  rw [replies_append_cons, ← length]
  simp

end Session
end Stencil
