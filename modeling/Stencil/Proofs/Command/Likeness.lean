import Stencil.Proofs.Command.Render
import Stencil.Proofs.Session.OneShot

/-!
# Commands that write the same

Scripts are alike when they write the same bytes and end alike, whatever they record.  The moment
and the prefix of identifiers reach only the identifiers, which are recorded and never written, so
they leave a command alike.
-/

namespace Stencil
namespace Script

variable {α β γ δ : Type}

/-- The same failure, or two results that are related. -/
inductive EndsAlike (related : α → β → Prop) :
    Except CommandError α → Except CommandError β → Prop where
  | failed (error : CommandError) : EndsAlike related (.error error) (.error error)
  | ended {first : α} {second : β} (both : related first second) :
    EndsAlike related (.ok first) (.ok second)

/-- Whether two scripts write the same and end alike. -/
structure Alike (related : α → β → Prop) (first : Script α) (second : Script β) : Prop where
  /-- They write the same bytes. -/
  bytes_eq : bytesOf first.acts = bytesOf second.acts
  /-- They end alike. -/
  ends : EndsAlike related first.result second.result

namespace Alike

variable {related : α → β → Prop}

theorem pure {first : α} {second : β} (both : related first second) :
    Alike related (Pure.pure first : Script α) (Pure.pure second : Script β) where
  bytes_eq := rfl
  ends := .ended both

theorem ofLogged {first : Logged α} {second : Logged β} (both : related first.value second.value) :
    Alike related (Performer.ofLogged first : Script α) (Performer.ofLogged second : Script β) := by
  rw [ofLogged_eq, ofLogged_eq]
  exact ⟨by rw [bytesOf_map_record, bytesOf_map_record], .ended both⟩

/-- Alike scripts stay alike when they go on alike. -/
theorem bind {later : γ → δ → Prop} {first : Script α} {second : Script β}
    (alike : Alike related first second) {next : α → Script γ} {otherNext : β → Script δ}
    (goOn : ∀ value other, related value other → Alike later (next value) (otherNext other)) :
    Alike later (first >>= next) (second >>= otherNext) := by
  obtain ⟨acts, result⟩ := first
  obtain ⟨otherActs, otherResult⟩ := second
  obtain ⟨bytes_eq, ends⟩ := alike
  cases ends with
  | failed error => exact ⟨bytes_eq, .failed error⟩
  | @ended value other both =>
      have after := goOn value other both
      refine ⟨?_, after.ends⟩
      change bytesOf (acts ++ (next value).acts) = bytesOf (otherActs ++ (otherNext other).acts)
      rw [bytesOf_append, bytesOf_append, after.bytes_eq]
      exact congrArg (· ++ _) bytes_eq

theorem refl (script : Script α) : Alike Eq script script := by
  refine ⟨rfl, ?_⟩
  cases script.result with
  | error error => exact .failed error
  | ok value => exact .ended rfl

/-- Scripts go on alike after the same script. -/
theorem bind_refl {later : γ → δ → Prop} (script : Script α) {next : α → Script γ}
    {otherNext : α → Script δ} (goOn : ∀ value, Alike later (next value) (otherNext value)) :
    Alike later (script >>= next) (script >>= otherNext) := by
  refine (refl script).bind ?_
  rintro value _ rfl
  exact goOn value

theorem eq_iff {first second : Script α} :
    Alike Eq first second ↔
      first.play.written = second.play.written ∧ first.play.result = second.play.result := by
  constructor
  · rintro ⟨bytes_eq, ends⟩
    refine ⟨bytes_eq, ?_⟩
    change first.result = second.result
    generalize first.result = result at ends
    generalize second.result = other at ends
    cases ends with
    | failed error => rfl
    | ended both => rw [both]
  · rintro ⟨bytes_eq, sameResult⟩
    refine ⟨bytes_eq, ?_⟩
    have ends := (refl second).ends
    rwa [← show first.result = second.result from sameResult] at ends ⊢

end Alike
end Script

namespace Command

open Script

theorem demoRendering_alike (engine other : Engine) (now otherNow : Moment) :
    Alike (fun _ _ => True) (demoRendering engine now) (demoRendering other otherNow) := by
  apply Alike.bind_refl
  intro _
  refine Alike.bind
    (show Alike (fun first second => first.2 = second.2) _ _ from Alike.ofLogged ?_) ?_
  · rw [engine.result_process, other.result_process]
  rintro ⟨engine, result⟩ ⟨other, _⟩ rfl
  refine .bind_refl (Performer.ofResult result) fun text => ?_
  refine .bind_refl _ fun _ => .bind_refl _ fun _ => ?_
  exact Alike.pure trivial

theorem demoStory_alike (engine other : Engine) (now otherNow : Moment) :
    Alike Eq (demoStory engine now) (demoStory other otherNow) := by
  apply Alike.bind_refl
  intro _
  apply Alike.bind_refl
  intro valid
  cases valid with
  | false => exact Alike.refl (Performer.writeLine "Invalid template!")
  | true =>
      -- The two processors differ in their moments, but they render alike.
      refine Alike.bind (show Alike (fun first second =>
        ∀ text, (first.process text).value = (second.process text).value) _ _ from
        Alike.ofLogged fun text => ?_) ?_
      · rw [Processor.setContext, Processor.setContext, Processor.value_process_bind,
          Processor.value_process_bind]
      intro processor otherProcessor same
      refine Alike.bind (Alike.ofLogged (same _)) ?_
      rintro result _ rfl
      exact Alike.refl _

theorem performDemo_alike (idPrefix otherPrefix : String) (now otherNow : Moment) :
    Alike Eq (performDemo idPrefix now) (performDemo otherPrefix otherNow) := by
  have toured : Alike Eq
      (do
        let engine ← demoRendering (Engine.create idPrefix now) now
        demoValidation
        demoNames
        demoStory engine now)
      (do
        let engine ← demoRendering (Engine.create otherPrefix otherNow) otherNow
        demoValidation
        demoNames
        demoStory engine otherNow) := by
    refine (demoRendering_alike _ _ now otherNow).bind fun engine other _ => ?_
    refine .bind_refl _ fun _ => .bind_refl _ fun _ => ?_
    exact demoStory_alike engine other now otherNow
  refine Alike.bind (show Alike Eq _ _ from .bind_refl _ fun _ => toured) ?_
  rintro _ _ rfl
  exact Alike.refl _

/-- Neither the moment nor the prefix of identifiers has a part in what a command writes and in how
it ends. -/
theorem script_alike (command : Command) (idPrefix otherPrefix : String) (now otherNow : Moment) :
    Alike Eq (command.script idPrefix now) (command.script otherPrefix otherNow) := by
  cases command with
  | render template assignments id =>
      obtain ⟨written, ended⟩ := play_performRender idPrefix now template assignments id
      obtain ⟨otherWritten, otherEnded⟩ :=
        play_performRender otherPrefix otherNow template assignments id
      rw [Alike.eq_iff]
      exact ⟨written.trans otherWritten.symm, ended.trans otherEnded.symm⟩
  | validate template => exact Alike.refl _
  | names template => exact Alike.refl _
  | demo => exact performDemo_alike idPrefix otherPrefix now otherNow

end Command
end Stencil
