import Stencil.Proofs.Session.Runs
import Stencil.Proofs.Template.Rendering

/-!
# Sessions without their moments

Moments are kept in identifiers and contexts and are never looked at.  So it makes no difference
whether they are masked before a run or in what comes of it.
-/

namespace Stencil

/-- The start of 1970, which stands for every masked moment. -/
def Moment.epoch : Moment :=
  ⟨0, 0, 0⟩

namespace Context

/-- The context without the moments of its binding and of its owner's creation. -/
def masked (context : Context) : Context where
  bindings := context.bindings
  bound := Moment.epoch
  owner := context.owner.masked

end Context

namespace Processor

/-- The processor without the moments in its identifier and its context. -/
def masked (processor : Processor) : Processor where
  id := processor.id.masked
  context := processor.context.map Context.masked

end Processor

namespace Engine

/-- The engine without the moments in its processor. -/
def masked (engine : Engine) : Engine where
  processor := engine.processor.masked
  idPrefix := engine.idPrefix

end Engine

namespace TemplateError

/-- The error without the moment in its identifier, if it has one. -/
def masked : TemplateError → TemplateError
  | contextNotSet owner => contextNotSet owner.masked
  | error => error

end TemplateError

namespace Answer

/-- The answer without the moments in it. -/
def masked : Answer → Answer
  | .id owner => .id owner.masked
  | context bound => context (bound.map Context.masked)
  | failure error => failure error.masked
  | answer => answer

theorem masked_ofResult (result : Except TemplateError String) :
    (ofResult result).masked = ofResult (result.mapError TemplateError.masked) := by
  cases result <;> rfl

end Answer

namespace Desk

/-- The desk without the moments in its processors. -/
def masked (desk : Desk) : Desk where
  processors := desk.processors.map Processor.masked
  engine := desk.engine.masked

end Desk

namespace Logged

variable {α β : Type}

/-- A logged result without the moments in its events and in its value. -/
def maskedBy (mask : α → β) (logged : Logged α) : Logged β where
  events := logged.events.map Event.masked
  value := mask logged.value

theorem maskedBy_pure (mask : α → β) (value : α) :
    (pure value : Logged α).maskedBy mask = pure (mask value) := rfl

/-- Masking goes through a computation part by part. -/
theorem maskedBy_bind {γ δ : Type} (mask : α → γ) {maskNext : β → δ} {next : α → Logged β}
    {nextMasked : γ → Logged δ}
    (through : ∀ value, (next value).maskedBy maskNext = nextMasked (mask value))
    (logged : Logged α) :
    (logged >>= next).maskedBy maskNext = logged.maskedBy mask >>= nextMasked := by
  change _ = Logged.mk (logged.events.map Event.masked ++ (nextMasked (mask logged.value)).events)
    (nextMasked (mask logged.value)).value
  rw [← through]
  simp [maskedBy]

end Logged

/-- The reply without the moments in it. -/
def Reply.masked (reply : Reply) : Reply :=
  reply.maskedBy Answer.masked

/-! ## Processors -/

theorem TemplateId.masked_choose (idPrefix : String) (now : Moment) (id : Option String) :
    (TemplateId.choose idPrefix now id).masked = .choose idPrefix Moment.epoch id := by
  cases id <;> rfl

namespace Processor

theorem bind_masked (processor : Processor) (now : Moment) (bindings : Bindings) :
    processor.masked.bind Moment.epoch bindings =
      (processor.bind now bindings).maskedBy masked := rfl

/-- Only a processor without variables fails with an identifier. -/
theorem process_masked (processor : Processor) (text : String) :
    processor.masked.process text =
      (processor.process text).maskedBy (Except.mapError TemplateError.masked) := by
  cases bound : processor.context with
  | none =>
      simp only [process, masked, bound, Option.map_none]
      rfl
  | some context =>
      simp only [process, masked, bound, Option.map_some, Context.masked]
      rcases Template.substitute_cases text context.bindings with
        ⟨output, result⟩ | ⟨name, result⟩ | ⟨error, result⟩ <;> rw [result] <;> rfl

/-- Rendering and what is made of the result go through masking together. -/
theorem process_bind_masked {α β : Type} (mask : α → β) (processor : Processor)
    {make : Except TemplateError String → α} {makeMasked : Except TemplateError String → β}
    (through : ∀ result, mask (make result) = makeMasked (result.mapError TemplateError.masked))
    (text : String) :
    (do return makeMasked (← processor.masked.process text)) =
      (do return make (← processor.process text) : Logged α).maskedBy mask := by
  rw [process_masked]
  refine (Logged.maskedBy_bind _ (fun result => ?_) _).symm
  rw [Logged.maskedBy_pure, through]

/-- Binding, rendering and what is made of the result go through masking together. -/
theorem bind_process_masked {α β : Type} (mask : α → β) (processor : Processor) (now : Moment)
    (bindings : Bindings) {make : Processor → Except TemplateError String → α}
    {makeMasked : Processor → Except TemplateError String → β}
    (through : ∀ after result,
      mask (make after result) = makeMasked (masked after) (result.mapError TemplateError.masked))
    (text : String) :
    (do
        let after ← processor.masked.bind Moment.epoch bindings
        return makeMasked after (← after.process text)) =
      (do
        let after ← processor.bind now bindings
        return make after (← after.process text) : Logged α).maskedBy mask := by
  rw [bind_masked processor now]
  refine (Logged.maskedBy_bind masked (fun after => ?_) _).symm
  exact (process_bind_masked mask after (through after) text).symm

end Processor

namespace Action

/-- An action does the same to a processor whose moments are masked. -/
theorem run_masked (action : Action) (now : Moment) (processor : Processor) :
    action.run Moment.epoch processor.masked =
      (action.run now processor).maskedBy (Prod.map Processor.masked Answer.masked) := by
  have answered (after : Processor) (result : Except TemplateError String) :
      Prod.map Processor.masked Answer.masked (after, .ofResult result) =
        (after.masked, .ofResult (result.mapError TemplateError.masked)) := by
    rw [Prod.map_apply, Answer.masked_ofResult]
  cases action with
  | copy destination => rfl
  | identify => rfl
  | inspect => rfl
  | bind pairs => rfl
  | bindJson value =>
      simp only [run, Processor.setContextJson]
      cases Bindings.ofJson? value <;> rfl
  | process text => exact processor.process_bind_masked _ (answered processor) text
  | bindAndProcess pairs text => exact processor.bind_process_masked _ now _ answered text
  | bindJsonAndProcess value text =>
      simp only [run, Processor.setContextJson]
      cases Bindings.ofJson? value with
      | none => rfl
      | some bindings => exact processor.bind_process_masked _ now bindings answered text

end Action

namespace Engine

theorem process_masked (engine : Engine) (now : Moment) (text : String)
    (pairs : List (String × Json)) :
    engine.masked.process Moment.epoch text pairs =
      (engine.process now text pairs).maskedBy
        (Prod.map masked (Except.mapError TemplateError.masked)) :=
  engine.processor.bind_process_masked _ now _ (fun _ _ => rfl) text

theorem processJson_masked (engine : Engine) (now : Moment) (text : String) (value : Json) :
    engine.masked.processJson Moment.epoch text value =
      (engine.processJson now text value).maskedBy
        (Prod.map masked (Except.mapError TemplateError.masked)) := by
  simp only [processJson, Processor.setContextJson]
  cases Bindings.ofJson? value with
  | none => rfl
  | some bindings =>
      exact engine.processor.bind_process_masked _ now bindings (fun _ _ => rfl) text

end Engine

/-! ## Steps and runs -/

namespace Desk

theorem masked_put (desk : Desk) (name : String) (processor : Processor) :
    (desk.put name processor).masked = desk.masked.put name processor.masked := by
  simp only [put, masked, Dictionary.map_insert]

theorem get?_processors_masked (desk : Desk) (name : String) :
    desk.masked.processors.get? name = (desk.processors.get? name).map Processor.masked :=
  Dictionary.get?_map Processor.masked desk.processors name

theorem masked_putNew (desk : Desk) (name idPrefix : String) (now : Moment) (id : Option String) :
    Prod.map masked Answer.masked
        (desk.putNew name (Processor.create (.choose idPrefix now id))) =
      desk.masked.putNew name (Processor.create (.choose idPrefix Moment.epoch id)) := by
  rw [← TemplateId.masked_choose idPrefix now, putNew, putNew, Prod.map_apply, masked_put]
  rfl

/-- Rendering through the engine goes through masking with the engine put back on the desk. -/
theorem engineBack_masked (desk : Desk) (logged : Logged Engine.Outcome) :
    (do
        let (engine, result) ←
          logged.maskedBy (Prod.map Engine.masked (Except.mapError TemplateError.masked))
        return ({ desk.masked with engine }, .ofResult result)) =
      (do
        let (engine, result) ← logged
        return ({ desk with engine }, .ofResult result) : Logged (Desk × Answer)).maskedBy
          (Prod.map masked Answer.masked) := by
  refine (Logged.maskedBy_bind _ (fun outcome => ?_) _).symm
  rw [Logged.maskedBy_pure, Prod.map_apply, Answer.masked_ofResult]
  rfl

end Desk

namespace Step

/-- A step does the same at a desk whose moments are masked. -/
theorem run_masked (step : Step) (now : Moment) (desk : Desk) :
    step.run Moment.epoch desk.masked =
      (step.run now desk).maskedBy (Prod.map Desk.masked Answer.masked) := by
  cases step with
  | replaceEngine idPrefix => rfl
  | create name id idPrefix =>
      exact congrArg pure (desk.masked_putNew name idPrefix now id).symm
  | createByEngine name id =>
      exact congrArg pure (desk.masked_putNew name desk.engine.idPrefix now id).symm
  | use name action =>
      simp only [run, Desk.get?_processors_masked]
      cases desk.processors.get? name with
      | none => rfl
      | some processor =>
          simp only [Option.map_some, action.run_masked now]
          refine (Logged.maskedBy_bind _ (fun outcome => ?_) _).symm
          rw [Logged.maskedBy_pure, Prod.map_apply, Desk.masked_put]
          rfl
  | processByEngine text pairs =>
      have processed := desk.engine.process_masked now text pairs
      rw [run, run, show desk.masked.engine = desk.engine.masked from rfl, processed]
      exact desk.engineBack_masked _
  | processJsonByEngine text value =>
      have processed := desk.engine.processJson_masked now text value
      rw [run, run, show desk.masked.engine = desk.engine.masked from rfl, processed]
      exact desk.engineBack_masked _

end Step

namespace Session

/-- Steps that are all taken at the start of 1970. -/
def atEpoch (steps : List Step) : List (Moment × Step) :=
  steps.map (Moment.epoch, ·)

/-- A run does the same from a desk whose moments are masked. -/
theorem run_masked (desk : Desk) (steps : List (Moment × Step)) :
    run desk.masked (atEpoch (steps.map Prod.snd)) =
      Prod.map (List.map Reply.masked) Desk.masked (run desk steps) := by
  induction steps generalizing desk with
  | nil => rfl
  | cons head steps induction =>
      obtain ⟨now, step⟩ := head
      have masked := step.run_masked now desk
      have here : reply desk.masked Moment.epoch step = (reply desk now step).masked := by
        rw [reply, masked]
        rfl
      have after : (step.run Moment.epoch desk.masked).value.1 =
          (step.run now desk).value.1.masked := by
        rw [masked]
        rfl
      simp only [atEpoch, List.map_cons, run_cons, here, after] at induction ⊢
      rw [induction]
      rfl

/-- Runs of the same steps at other moments differ in nothing but their moments. -/
theorem masked_replies_eq {desk other : Desk} {steps others : List (Moment × Step)}
    (sameDesk : desk.masked = other.masked) (sameSteps : steps.map Prod.snd = others.map Prod.snd) :
    (run desk steps).1.map Reply.masked = (run other others).1.map Reply.masked := by
  have first := congrArg Prod.fst (run_masked desk steps)
  have second := congrArg Prod.fst (run_masked other others)
  rw [sameDesk, sameSteps] at first
  exact first.symm.trans second

end Session
end Stencil
