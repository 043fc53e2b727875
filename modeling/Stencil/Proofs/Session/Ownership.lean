import Stencil.Proofs.Session.Places

/-!
# Owners of contexts

The identifier of a processor stands twice: in the processor and in the context that was last bound
to it.  The two are always the same, since only creation and copying put another processor at a
place, and a binding takes over the identifier that is there.
-/

namespace Stencil

namespace Processor

/-- Whether the context, if there is one, is the processor's own. -/
def Owned (processor : Processor) : Prop :=
  ∀ context, processor.context = some context → context.owner = processor.id

theorem owned_create (id : TemplateId) : (create id).Owned := by
  intro context none
  cases none

/-- A binding is made under the processor's own identifier. -/
theorem Owned.rebound {processor : Processor} (owned : processor.Owned) (now : Moment)
    (binding : Option Bindings) : (processor.rebound now binding).Owned := by
  cases binding with
  | none => exact owned
  | some bindings =>
      rintro context bound
      obtain rfl := Option.some.inj bound
      rfl

end Processor

namespace Engine

variable (engine : Engine) (now : Moment) (text : String)

theorem processor_process (pairs : List (String × Json)) :
    (engine.process now text pairs).value.1.processor =
      engine.processor.rebound now (some (Dictionary.ofPairs pairs)) := rfl

theorem processor_processJson (value : Json) :
    (engine.processJson now text value).value.1.processor =
      engine.processor.rebound now (Bindings.ofJson? value) := by
  simp only [processJson, Processor.setContextJson]
  cases Bindings.ofJson? value <;> rfl

end Engine

namespace Desk

variable {desk : Desk} {place : Place} {name : String}

theorem at?_put_self (desk : Desk) (name : String) (processor : Processor) :
    (desk.put name processor).at? (.named name) = some processor :=
  (desk.at?_put name processor _).trans (if_pos rfl)

theorem at?_put_of_ne (elsewhere : place ≠ .named name) (processor : Processor) :
    (desk.put name processor).at? place = desk.at? place :=
  (desk.at?_put name processor place).trans (if_neg elsewhere)

theorem at?_withEngine_of_ne (elsewhere : place ≠ .engine) (engine : Engine) :
    { desk with engine }.at? place = desk.at? place :=
  (desk.at?_withEngine engine place).trans (if_neg elsewhere)

end Desk

namespace Step

/-- The places at which the step puts another processor, one that it creates or a copy. -/
def renewed : Step → List Place
  | replaceEngine _ => [.engine]
  | create name _ _ => [.named name]
  | createByEngine name _ => [.named name]
  | use _ (.copy destination) => [.named destination]
  | _ => []

/-- Only copying puts a processor under another name. -/
theorem use_cases (name : String) (action : Action) :
    (∃ destination, action = .copy destination) ∨
      (action.destination name = name ∧ (use name action).renewed = []) := by
  cases action with
  | copy destination => exact .inl ⟨destination, rfl⟩
  | _ => exact .inr ⟨rfl, rfl⟩

variable {desk : Desk} {place : Place} {step : Step}

/-- A copy is the original, with its identifier and its context. -/
theorem at?_run_copy {name : String} {original : Processor}
    (found : desk.at? (.named name) = some original) (destination : String) (now : Moment) :
    ((use name (.copy destination)).run now desk).value.1.at? (.named destination) =
      some original := by
  rw [run_use_of_some found]
  exact desk.at?_put_self destination original

/-- At all other places a processor stays as it is, but for the variables that are bound to it. -/
theorem at?_run_of_not_mem (kept : place ∉ step.renewed) (now : Moment) :
    ∃ binding, (step.run now desk).value.1.at? place =
      (desk.at? place).map fun processor => processor.rebound now binding := by
  have unchanged : desk.at? place =
      (desk.at? place).map fun processor => processor.rebound now none := by
    simp
  cases step with
  | replaceEngine idPrefix =>
      have elsewhere : place ≠ .engine := List.ne_of_not_mem_cons kept
      exact ⟨none, (Desk.at?_withEngine_of_ne elsewhere _).trans unchanged⟩
  | create name id idPrefix =>
      have elsewhere : place ≠ .named name := List.ne_of_not_mem_cons kept
      exact ⟨none, (Desk.at?_put_of_ne elsewhere _).trans unchanged⟩
  | createByEngine name id =>
      have elsewhere : place ≠ .named name := List.ne_of_not_mem_cons kept
      exact ⟨none, (Desk.at?_put_of_ne elsewhere _).trans unchanged⟩
  | use name action =>
      cases found : desk.processors.get? name with
      | none =>
          rw [run_use_of_none found]
          exact ⟨none, unchanged⟩
      | some processor =>
          rw [run_use_of_some found]
          by_cases here : place = .named (action.destination name)
          · rcases use_cases name action with ⟨destination, rfl⟩ | ⟨same, -⟩
            · exact absurd (here ▸ List.mem_singleton_self place) kept
            · refine ⟨action.binding?, ?_⟩
              rw [here, same, Desk.at?_put_self, Desk.at?, found, Option.map_some]
          · exact ⟨none, (Desk.at?_put_of_ne here _).trans unchanged⟩
  | processByEngine text pairs =>
      by_cases here : place = .engine
      · subst here
        exact ⟨_, congrArg some (desk.engine.processor_process now text pairs)⟩
      · exact ⟨none, (Desk.at?_withEngine_of_ne here _).trans unchanged⟩
  | processJsonByEngine text value =>
      by_cases here : place = .engine
      · subst here
        exact ⟨_, congrArg some (desk.engine.processor_processJson now text value)⟩
      · exact ⟨none, (Desk.at?_withEngine_of_ne here _).trans unchanged⟩

/-- What is put at a place was created without a context, or was at some place before. -/
theorem at?_run_of_mem (isRenewed : place ∈ step.renewed) (now : Moment) :
    (∃ id, (step.run now desk).value.1.at? place = some (Processor.create id)) ∨
      ∃ source, (step.run now desk).value.1.at? place = desk.at? source := by
  cases step with
  | replaceEngine idPrefix =>
      obtain rfl := List.mem_singleton.1 isRenewed
      exact .inl ⟨_, rfl⟩
  | create name id idPrefix =>
      obtain rfl := List.mem_singleton.1 isRenewed
      exact .inl ⟨_, desk.at?_put_self name _⟩
  | createByEngine name id =>
      obtain rfl := List.mem_singleton.1 isRenewed
      exact .inl ⟨_, desk.at?_put_self name _⟩
  | use name action =>
      right
      rcases use_cases name action with ⟨destination, rfl⟩ | ⟨-, none⟩
      · obtain rfl := List.mem_singleton.1 isRenewed
        cases found : desk.processors.get? name with
        | none => exact ⟨_, by rw [run_use_of_none found]; rfl⟩
        | some original =>
            exact ⟨.named name, (at?_run_copy found destination now).trans found.symm⟩
      · rw [none] at isRenewed
        cases isRenewed
  | processByEngine text pairs => cases isRenewed
  | processJsonByEngine text value => cases isRenewed

end Step

namespace Desk

/-- Whether every context on the desk is its processor's own. -/
def Owned (desk : Desk) : Prop :=
  ∀ place processor, desk.at? place = some processor → processor.Owned

theorem owned_start (now : Moment) : (start now).Owned := by
  intro place processor found
  cases place with
  | named name => cases found
  | engine =>
      obtain rfl := Option.some.inj found
      exact Processor.owned_create _

variable {desk : Desk}

/-- A step leaves every context with its owner. -/
theorem Owned.step (owned : desk.Owned) (now : Moment) (step : Step) :
    (step.run now desk).value.1.Owned := by
  intro place processor found
  by_cases isRenewed : place ∈ step.renewed
  · rcases Step.at?_run_of_mem isRenewed now with ⟨id, created⟩ | ⟨source, copied⟩
    · obtain rfl := Option.some.inj (created.symm.trans found)
      exact Processor.owned_create id
    · exact owned source processor (copied.symm.trans found)
  · obtain ⟨binding, same⟩ := Step.at?_run_of_not_mem isRenewed now
    obtain ⟨before, foundBefore, rfl⟩ := Option.map_eq_some_iff.1 (same.symm.trans found)
    exact (owned place before foundBefore).rebound now binding

/-- A run leaves every context with its owner. -/
theorem Owned.run (owned : desk.Owned) (steps : List (Moment × Step)) :
    (Session.run desk steps).2.Owned := by
  induction steps generalizing desk with
  | nil => exact owned
  | cons head steps induction =>
      obtain ⟨now, step⟩ := head
      exact induction (owned.step now step)

/-- A run that puts no other processor at a place leaves the identifier there as it is. -/
theorem id_run {place : Place} {processor : Processor} (found : desk.at? place = some processor)
    {steps : List (Moment × Step)} (kept : ∀ step ∈ steps, place ∉ step.2.renewed) :
    ∃ after, (Session.run desk steps).2.at? place = some after ∧ after.id = processor.id := by
  induction steps generalizing desk processor with
  | nil => exact ⟨processor, found, rfl⟩
  | cons head steps induction =>
      obtain ⟨now, step⟩ := head
      obtain ⟨here, later⟩ := List.forall_mem_cons.1 kept
      obtain ⟨binding, same⟩ := Step.at?_run_of_not_mem here now
      rw [found] at same
      obtain ⟨after, foundAfter, sameId⟩ := induction same later
      exact ⟨after, foundAfter, sameId.trans (processor.id_rebound now binding)⟩

end Desk

namespace Session

/-- Whatever steps have been taken, every context is that of the processor which holds it.  A
processor is created without a context, with the caller's identifier or a made one, a copy has that
of its original, and no later step changes it. -/
theorem contexts_belong_to_their_processors (start : Moment) (steps : List (Moment × Step)) :
    let desk := (run (Desk.start start) steps).2
    (∀ place processor context, desk.at? place = some processor →
      processor.context = some context → context.owner = processor.id) ∧
    (∀ place processor later, desk.at? place = some processor →
      (∀ step ∈ later, place ∉ step.2.renewed) →
        ∃ after, (run desk later).2.at? place = some after ∧ after.id = processor.id) ∧
    (∀ now name text idPrefix,
      ((Step.create name (some text) idPrefix).run now desk).value.1.at? (.named name) =
          some ⟨.given text, none⟩ ∧
        ((Step.createByEngine name (some text)).run now desk).value.1.at? (.named name) =
          some ⟨.given text, none⟩ ∧
        ((Step.create name none idPrefix).run now desk).value.1.at? (.named name) =
          some ⟨.generated idPrefix now, none⟩ ∧
        ((Step.createByEngine name none).run now desk).value.1.at? (.named name) =
          some ⟨.generated desk.engine.idPrefix now, none⟩ ∧
        ((Step.replaceEngine idPrefix).run now desk).value.1.at? .engine =
          some ⟨.generated idPrefix now, none⟩) ∧
    ∀ now name destination original, desk.at? (.named name) = some original →
      ((Step.use name (.copy destination)).run now desk).value.1.at? (.named destination) =
        some original := by
  intro desk
  have owned : desk.Owned := (Desk.owned_start start).run steps
  refine ⟨?_, ?_, ?_, ?_⟩
  · intro place processor context found bound
    exact owned place processor found context bound
  · intro place processor later found kept
    exact Desk.id_run found kept
  · intro now name text idPrefix
    exact ⟨desk.at?_put_self name _, desk.at?_put_self name _, desk.at?_put_self name _,
      desk.at?_put_self name _, rfl⟩
  · intro now name destination original found
    exact Step.at?_run_copy found destination now

/-- A bound processor is copied and replaced by another of the same name, and the binding of the
copy fails. -/
def replacedSteps : List (Moment × Step) :=
  [(⟨1, 0, 0⟩, .create "first" (some "greeting") "template"),
    (⟨2, 0, 0⟩, .use "first" (.bind [("name", .string "Ada")])),
    (⟨3, 0, 0⟩, .use "first" (.copy "second")),
    (⟨4, 0, 0⟩, .createByEngine "first" none),
    (⟨5, 0, 0⟩, .use "second" (.bindJson (.array [])))]

/-- The copy keeps the identifier of its original, in its context as well, and the processor that
took the original's name has another and no context. -/
theorem contexts_belong_to_their_processors_replaced :
    let desk := (run (Desk.start ⟨0, 0, 0⟩) replacedSteps).2
    ∃ copy context, desk.at? (.named "second") = some copy ∧ copy.context = some context ∧
      copy.id = .given "greeting" ∧ context.owner = copy.id ∧
      desk.at? (.named "first") = some ⟨.generated "template" ⟨4, 0, 0⟩, none⟩ ∧
      ∃ after, (run desk [(⟨6, 0, 0⟩, .use "second" (.bindJson (.object []))),
          (⟨7, 0, 0⟩, .use "second" (.copy "first"))]).2.at? (.named "second") = some after ∧
        after.id = copy.id := by
  intro desk
  obtain ⟨owners, kept, -, -⟩ := contexts_belong_to_their_processors ⟨0, 0, 0⟩ replacedSteps
  have found : desk.at? (.named "second") = some
      ⟨.given "greeting", some ⟨.ofPairs [("name", .string "Ada")], ⟨2, 0, 0⟩,
        .given "greeting"⟩⟩ := rfl
  refine ⟨_, _, found, rfl, rfl, owners _ _ _ found rfl, rfl, kept _ _ _ found ?_⟩
  decide

end Session
end Stencil
