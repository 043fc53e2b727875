import Mathlib.Data.Set.Defs
import Stencil.Proofs.Session.Runs

/-!
# Places of processors

The processors of a desk are kept at places, one under each name and one inside the engine.  A step
uses few of them.  It leaves the others as they are, and they have no part in what it answers.
-/

namespace Stencil

/-- Where a processor is kept. -/
inductive Place where
  /-- Under a name. -/
  | named (name : String)
  /-- Inside the engine. -/
  | engine
deriving DecidableEq, Repr

namespace Step

/-- The places of the processors that the step creates, copies, replaces or uses.  Creation through
the engine does not use the engine's own processor. -/
def places : Step → List Place
  | replaceEngine _ => [.engine]
  | create name _ _ => [.named name]
  | createByEngine name _ => [.named name]
  | use name action => [.named name, .named (action.destination name)]
  | processByEngine _ _ => [.engine]
  | processJsonByEngine _ _ => [.engine]

/-- Whether the step replaces the engine. -/
def replacesEngine : Step → Bool
  | replaceEngine _ => true
  | _ => false

end Step

namespace Desk

/-- The processor at a place, if there is one. -/
def at? (desk : Desk) : Place → Option Processor
  | .named name => desk.processors.get? name
  | .engine => some desk.engine.processor

/-- Whether two desks have the same processors at some places and make identifiers alike. -/
structure Agree (places : Set Place) (desk other : Desk) : Prop where
  /-- Both engines make identifiers with the same prefix. -/
  idPrefix_eq : desk.engine.idPrefix = other.engine.idPrefix
  /-- The processors at the places are the same. -/
  at_eq : ∀ place ∈ places, desk.at? place = other.at? place

theorem at?_put (desk : Desk) (name : String) (processor : Processor) (place : Place) :
    (desk.put name processor).at? place =
      if place = .named name then some processor else desk.at? place := by
  cases place with
  | named other => simp [at?, Dictionary.get?_insert]
  | engine => simp [at?, put]

theorem at?_withEngine (desk : Desk) (engine : Engine) (place : Place) :
    { desk with engine }.at? place =
      if place = .engine then some engine.processor else desk.at? place := by
  cases place <;> rfl

namespace Agree

variable {places : Set Place} {desk other : Desk}

theorem refl (places : Set Place) (desk : Desk) : Agree places desk desk where
  idPrefix_eq := rfl
  at_eq := fun _ _ => rfl

theorem engine_eq (agree : Agree places desk other) (member : .engine ∈ places) :
    desk.engine = other.engine := by
  have sameProcessor := Option.some.inj (agree.at_eq .engine member)
  cases first : desk.engine with
  | mk processor idPrefix =>
      cases second : other.engine with
      | mk otherProcessor otherPrefix =>
          have samePrefix := agree.idPrefix_eq
          simp only [first, second] at sameProcessor samePrefix
          rw [sameProcessor, samePrefix]

/-- The same processor may be put under a name of both desks. -/
theorem put (agree : Agree places desk other) (name : String) (processor : Processor) :
    Agree places (desk.put name processor) (other.put name processor) where
  idPrefix_eq := agree.idPrefix_eq
  at_eq := fun place member => by
    rw [at?_put, at?_put, agree.at_eq place member]

/-- Any processor may be put under a name of one desk that is none of the places. -/
theorem put_elsewhere (agree : Agree places desk other) {name : String}
    (elsewhere : .named name ∉ places) (processor : Processor) :
    Agree places (desk.put name processor) other where
  idPrefix_eq := agree.idPrefix_eq
  at_eq := fun place member => by
    rw [at?_put, if_neg (ne_of_mem_of_not_mem member elsewhere), agree.at_eq place member]

/-- The same engine may be put on both desks. -/
theorem withEngine (agree : Agree places desk other) (engine : Engine) :
    Agree places { desk with engine } { other with engine } where
  idPrefix_eq := rfl
  at_eq := fun place member => by
    rw [at?_withEngine desk, at?_withEngine other, agree.at_eq place member]

/-- An engine of the same prefix may be put on one desk if its processor is at none of the
places. -/
theorem withEngine_elsewhere (agree : Agree places desk other) (elsewhere : .engine ∉ places)
    {engine : Engine} (samePrefix : engine.idPrefix = desk.engine.idPrefix) :
    Agree places { desk with engine } other where
  idPrefix_eq := samePrefix.trans agree.idPrefix_eq
  at_eq := fun place member => by
    rw [at?_withEngine, if_neg (ne_of_mem_of_not_mem member elsewhere), agree.at_eq place member]

/-- A step that uses none of the places leaves the processors there as they are. -/
theorem step_elsewhere (agree : Agree places desk other) {step : Step}
    (elsewhere : ∀ place ∈ step.places, place ∉ places) (keeps : step.replacesEngine = false)
    (now : Moment) : Agree places (step.run now desk).value.1 other := by
  cases step with
  | replaceEngine idPrefix => exact nomatch keeps
  | create name id idPrefix => exact agree.put_elsewhere (elsewhere _ (by simp [Step.places])) _
  | createByEngine name id => exact agree.put_elsewhere (elsewhere _ (by simp [Step.places])) _
  | use name action =>
      cases found : desk.processors.get? name with
      | none =>
          rw [Step.run_use_of_none found]
          exact agree
      | some processor =>
          rw [Step.run_use_of_some found]
          exact agree.put_elsewhere (elsewhere _ (by simp [Step.places])) _
  | processByEngine text pairs =>
      exact agree.withEngine_elsewhere (elsewhere _ (by simp [Step.places])) rfl
  | processJsonByEngine text value =>
      exact agree.withEngine_elsewhere (elsewhere _ (by simp [Step.places]))
        (desk.engine.idPrefix_processJson now text value)

/-- A step that uses some of the places answers the same at both desks, and the processors at the
places stay the same. -/
theorem step_inside (agree : Agree places desk other) {step : Step}
    (inside : ∀ place ∈ step.places, place ∈ places) (now : Moment) :
    Session.reply desk now step = Session.reply other now step ∧
      Agree places (step.run now desk).value.1 (step.run now other).value.1 := by
  cases step with
  | replaceEngine idPrefix => exact ⟨rfl, agree.withEngine _⟩
  | create name id idPrefix => exact ⟨rfl, agree.put name _⟩
  | createByEngine name id =>
      have same : desk.engine.createProcessor now id = other.engine.createProcessor now id := by
        rw [Engine.createProcessor, Engine.createProcessor, agree.idPrefix_eq]
      simp only [Session.reply, Step.run, same]
      exact ⟨rfl, agree.put name _⟩
  | use name action =>
      have same : desk.processors.get? name = other.processors.get? name :=
        agree.at_eq _ (inside (.named name) (by simp [Step.places]))
      cases found : other.processors.get? name with
      | none =>
          rw [Session.reply, Session.reply, Step.run_use_of_none found,
            Step.run_use_of_none (same.trans found)]
          exact ⟨rfl, agree⟩
      | some processor =>
          rw [Session.reply, Session.reply, Step.run_use_of_some found,
            Step.run_use_of_some (same.trans found)]
          exact ⟨rfl, agree.put _ _⟩
  | processByEngine text pairs =>
      have same := agree.engine_eq (inside .engine (by simp [Step.places]))
      simp only [Session.reply, Step.run, same]
      exact ⟨rfl, agree.withEngine _⟩
  | processJsonByEngine text value =>
      have same := agree.engine_eq (inside .engine (by simp [Step.places]))
      simp only [Session.reply, Step.run, same]
      exact ⟨rfl, agree.withEngine _⟩

end Agree
end Desk
end Stencil
