import Stencil.Proofs.Session.Runs
import Stencil.Proofs.Template.Rendering

/-!
# Rendering in one go

The engine keeps the variables of the last call, but every call that renders binds its own before.
So what it answers depends on the call alone, not on what was done before.
-/

namespace Stencil

namespace Engine

/-- What the engine renders with pairs. -/
theorem result_process (engine : Engine) (now : Moment) (text : String)
    (pairs : List (String × Json)) :
    (engine.process now text pairs).value.2 =
      Template.substitute text (Dictionary.ofPairs pairs) :=
  engine.processor.value_process_bind now _ text

/-- What the engine renders with a JSON value. -/
theorem result_processJson (engine : Engine) (now : Moment) (text : String) (value : Json) :
    (engine.processJson now text value).value.2 = Template.substituteJson text value := by
  simp only [processJson, Processor.setContextJson, Template.substituteJson]
  cases Bindings.ofJson? value with
  | none => rfl
  | some bindings => exact engine.processor.value_process_bind now bindings text

end Engine

namespace Step

/-- What the step renders in one go through the engine, if it does. -/
def oneShot? : Step → Option (Except TemplateError String)
  | processByEngine text pairs => some (Template.substitute text (Dictionary.ofPairs pairs))
  | processJsonByEngine text value => some (Template.substituteJson text value)
  | _ => none

theorem answer_oneShot {step : Step} {result : Except TemplateError String}
    (oneShot : step.oneShot? = some result) (now : Moment) (desk : Desk) :
    (step.run now desk).value.2 = .ofResult result := by
  cases step with
  | processByEngine text pairs =>
      obtain rfl := Option.some.inj oneShot
      exact congrArg Answer.ofResult (desk.engine.result_process now text pairs)
  | processJsonByEngine text value =>
      obtain rfl := Option.some.inj oneShot
      exact congrArg Answer.ofResult (desk.engine.result_processJson now text value)
  | _ => exact nomatch oneShot

end Step

namespace Template

theorem substituteJson_object {fields : List (String × Json)} {bindings : Bindings}
    (lasts : ∀ name, bindings.get? name = Entries.last? fields name) (text : String) :
    substituteJson text (.object fields) = substitute text bindings := by
  rw [Dictionary.eq_ofPairs_iff.2 lasts]
  rfl

theorem substituteJson_of_ne_object {value : Json} (different : ∀ fields, value ≠ .object fields)
    (text : String) : substituteJson text value = .error .invalidVariables := by
  cases value with
  | object fields => exact absurd rfl (different fields)
  | _ => rfl

theorem substituteJson_ne_contextNotSet (text : String) (value : Json) (owner : TemplateId) :
    substituteJson text value ≠ .error (.contextNotSet owner) := by
  rw [substituteJson]
  cases Bindings.ofJson? value with
  | none => simp
  | some bindings => exact substitute_ne_contextNotSet text bindings owner

end Template

namespace Session

/-- The answer to a step that is taken between others. -/
def answerBetween (start : Moment) (before : List (Moment × Step)) (now : Moment) (step : Step)
    (after : List (Moment × Step)) : Option Answer :=
  (replies start (before ++ (now, step) :: after))[before.length]?.map Logged.value

theorem answerBetween_oneShot {step : Step} {result : Except TemplateError String}
    (oneShot : step.oneShot? = some result) (start : Moment) (before : List (Moment × Step))
    (now : Moment) (after : List (Moment × Step)) :
    answerBetween start before now step after = some (.ofResult result) := by
  rw [answerBetween, getElem?_replies, Option.map_some, reply, Step.answer_oneShot oneShot]

/-- Whatever was done before, the engine renders with the variables of the call and with no
others.  It never lacks a context. -/
theorem one_shot_is_history_free (start now : Moment) (before after : List (Moment × Step))
    (text : String) (pairs : List (String × Json)) (value : Json) :
    (∀ bindings : Bindings, (∀ name, bindings.get? name = Entries.last? pairs name) →
      answerBetween start before now (.processByEngine text pairs) after =
        some (.ofResult (Template.substitute text bindings))) ∧
    ((∀ fields, value ≠ .object fields) →
      answerBetween start before now (.processJsonByEngine text value) after =
        some (.failure .invalidVariables)) ∧
    (∀ (fields : List (String × Json)) (bindings : Bindings), value = .object fields →
      (∀ name, bindings.get? name = Entries.last? fields name) →
        answerBetween start before now (.processJsonByEngine text value) after =
          some (.ofResult (Template.substitute text bindings))) ∧
    ∀ step ∈ [Step.processByEngine text pairs, .processJsonByEngine text value],
      (∀ owner, answerBetween start before now step after ≠
        some (.failure (.contextNotSet owner))) ∧
      ∀ (otherStart otherNow : Moment) (otherBefore otherAfter : List (Moment × Step)),
        answerBetween otherStart otherBefore otherNow step otherAfter =
          answerBetween start before now step after := by
  refine ⟨?_, ?_, ?_, ?_⟩
  · intro bindings lasts
    rw [Dictionary.eq_ofPairs_iff.2 lasts]
    exact answerBetween_oneShot rfl start before now after
  · intro different
    have failed : (Step.processJsonByEngine text value).oneShot? =
        some (.error .invalidVariables) :=
      congrArg some (Template.substituteJson_of_ne_object different text)
    exact answerBetween_oneShot failed start before now after
  · rintro fields bindings rfl lasts
    have rendered : (Step.processJsonByEngine text (.object fields)).oneShot? =
        some (Template.substitute text bindings) :=
      congrArg some (Template.substituteJson_object lasts text)
    exact answerBetween_oneShot rendered start before now after
  · intro step member
    obtain ⟨result, oneShot, bound⟩ : ∃ result, step.oneShot? = some result ∧
        ∀ owner, result ≠ .error (.contextNotSet owner) := by
      simp only [List.mem_cons, List.not_mem_nil, or_false] at member
      rcases member with rfl | rfl
      · exact ⟨_, rfl, Template.substitute_ne_contextNotSet text _⟩
      · exact ⟨_, rfl, Template.substituteJson_ne_contextNotSet text value⟩
    refine ⟨fun owner => ?_, fun otherStart otherNow otherBefore otherAfter => ?_⟩
    · rw [answerBetween_oneShot oneShot]
      cases result with
      | ok output => simp [Answer.ofResult]
      | error error => simpa [Answer.ofResult] using bound owner
    · rw [answerBetween_oneShot oneShot, answerBetween_oneShot oneShot]

/-- Calls that bind and then render or fail, and one that does not bind. -/
def earlierCalls : List (Moment × Step) :=
  [(⟨1, 0, 0⟩, .createByEngine "first" none),
    (⟨2, 0, 0⟩, .processByEngine "{a}" [("a", .string "1"), ("b", .string "2")]),
    (⟨3, 0, 0⟩, .processJsonByEngine "\x7bb" (.object [("a", .null), ("b", .null)])),
    (⟨4, 0, 0⟩, .processJsonByEngine "{b}" (.array []))]

/-- The variables of earlier calls are not there any more. -/
theorem one_shot_is_history_free_unbound :
    (∀ name, (Dictionary.ofPairs [("a", Json.string "{b}")]).get? name =
      Entries.last? [("a", Json.null), ("a", .string "{b}")] name) ∧
      answerBetween ⟨0, 0, 0⟩ earlierCalls ⟨5, 0, 0⟩
          (.processByEngine "{a}{b}" [("a", .null), ("a", .string "{b}")]) [] =
        some (.failure (.missingVariable "b")) ∧
      answerBetween ⟨0, 0, 0⟩ earlierCalls ⟨5, 0, 0⟩
          (.processJsonByEngine "<{a}>" (.object [("a", .null), ("a", .string "{b}")])) [] =
        some (.text "<{b}>") ∧
      answerBetween ⟨0, 0, 0⟩ earlierCalls ⟨5, 0, 0⟩ (.processJsonByEngine "\x7bb" .null) [] =
        some (.failure .invalidVariables) := by
  have lasts (name : String) : (Dictionary.ofPairs [("a", Json.string "{b}")]).get? name =
      Entries.last? [("a", Json.null), ("a", .string "{b}")] name := by
    rw [Dictionary.get?_ofPairs]
    by_cases same : name = "a" <;> simp [Entries.last?, Entries.get?_cons, same]
  have forgotten := one_shot_is_history_free ⟨0, 0, 0⟩ ⟨5, 0, 0⟩ earlierCalls []
  refine ⟨lasts, ?_, ?_, ?_⟩
  · exact (forgotten "{a}{b}" _ .null).1 _ lasts
  · exact (forgotten "<{a}>" [] (.object [("a", .null), ("a", .string "{b}")])).2.2.1 _ _ rfl lasts
  · exact (forgotten "\x7bb" [] .null).2.1 (by simp)

end Session
end Stencil
