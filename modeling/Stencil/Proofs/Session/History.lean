import Mathlib.Data.Option.Basic
import Stencil.Proofs.Session.Runs
import Stencil.Proofs.Template.Rendering

/-!
# Histories of processors

The history of a processor is what has been done with it since it was created and, if it is a copy,
with its original before.  Of the bindings in its history a processor keeps the last one, and that
one decides what it renders.
-/

namespace Stencil

/-- What has been done with a processor, or with its original before it was copied. -/
structure History where
  /-- The identifier with which the processor or its original was created. -/
  id : TemplateId
  /-- The actions since then, in order. -/
  actions : List Action

namespace History

/-- The history of a processor that was just created. -/
def start (id : TemplateId) : History where
  id := id
  actions := []

/-- The history with one more action. -/
def followedBy (history : History) (action : Action) : History :=
  { history with actions := history.actions ++ [action] }

/-- The variables of the bindings that succeeded, in order. -/
def bindings (history : History) : List Bindings :=
  history.actions.filterMap Action.binding?

theorem getLast?_bindings_followedBy (history : History) (action : Action) :
    (history.followedBy action).bindings.getLast? =
      action.binding?.or history.bindings.getLast? := by
  simp only [bindings, followedBy, List.filterMap_append, List.getLast?_append]
  cases binding : action.binding? <;> simp [binding]

end History

/-- The histories of the processors of a session. -/
structure Chronicle where
  /-- The prefix of the identifiers that the engine makes. -/
  idPrefix : String
  /-- The history of the processor under a name, if there is one. -/
  history? : String → Option History

namespace Chronicle

/-- The chronicle before the first step. -/
def start : Chronicle where
  idPrefix := TemplateId.defaultPrefix
  history? := fun _ => none

/-- The chronicle with another history under a name. -/
def put (chronicle : Chronicle) (name : String) (history : History) : Chronicle :=
  { chronicle with
    history? := fun other => if other = name then some history else chronicle.history? other }

/-- The chronicle after one more step. -/
def add (chronicle : Chronicle) : Moment × Step → Chronicle
  | (_, .replaceEngine idPrefix) => { chronicle with idPrefix }
  | (now, .create name id idPrefix) => chronicle.put name (.start (.choose idPrefix now id))
  | (now, .createByEngine name id) =>
    chronicle.put name (.start (.choose chronicle.idPrefix now id))
  | (_, .use name action) =>
    match chronicle.history? name with
    | none => chronicle
    | some history => chronicle.put (action.destination name) (history.followedBy action)
  | (_, .processByEngine ..) => chronicle
  | (_, .processJsonByEngine ..) => chronicle

/-- The chronicle of a list of steps. -/
def ofSteps (steps : List (Moment × Step)) : Chronicle :=
  steps.foldl add start

end Chronicle

/-- Whether a processor is what its history makes of it. -/
structure Processor.Follows (processor : Processor) (history : History) : Prop where
  /-- The identifier is that of the creation. -/
  id_eq : processor.id = history.id
  /-- The variables are those of the last binding that succeeded. -/
  bound_eq : processor.bound? = history.bindings.getLast?

theorem Processor.follows_create (id : TemplateId) : (create id).Follows (.start id) :=
  ⟨rfl, rfl⟩

/-- An action keeps a processor and its history together. -/
theorem Processor.Follows.rebound {processor : Processor} {history : History}
    (follows : processor.Follows history) (now : Moment) (action : Action) :
    (processor.rebound now action.binding?).Follows (history.followedBy action) where
  id_eq := by
    rw [id_rebound]
    exact follows.id_eq
  bound_eq := by
    rw [bound?_rebound, History.getLast?_bindings_followedBy, follows.bound_eq]

/-- Whether the processors of a desk are what a chronicle makes of them. -/
structure Desk.Follows (desk : Desk) (chronicle : Chronicle) : Prop where
  /-- The engine has the prefix of the chronicle. -/
  idPrefix_eq : desk.engine.idPrefix = chronicle.idPrefix
  /-- Under each name there is a processor with its history, or neither. -/
  processors : ∀ name,
    Option.Rel Processor.Follows (desk.processors.get? name) (chronicle.history? name)

namespace Desk

theorem follows_start (now : Moment) : (start now).Follows .start where
  idPrefix_eq := rfl
  processors := fun _ => .none

variable {desk : Desk} {chronicle : Chronicle}

theorem Follows.put (follows : desk.Follows chronicle) (name : String) {processor : Processor}
    {history : History} (both : processor.Follows history) :
    (desk.put name processor).Follows (chronicle.put name history) where
  idPrefix_eq := follows.idPrefix_eq
  processors := fun other => by
    rw [processors_put, Dictionary.get?_insert, Chronicle.put]
    by_cases same : other = name
    · simp only [same, if_true]
      exact .some both
    · simp only [same, if_false]
      exact follows.processors other

/-- A step keeps the desk and the chronicle together. -/
theorem Follows.step (follows : desk.Follows chronicle) (now : Moment) (step : Step) :
    (step.run now desk).value.1.Follows (chronicle.add (now, step)) := by
  cases step with
  | replaceEngine idPrefix => exact ⟨rfl, follows.processors⟩
  | create name id idPrefix => exact follows.put name (Processor.follows_create _)
  | createByEngine name id =>
      rw [Chronicle.add, ← follows.idPrefix_eq]
      exact follows.put name (Processor.follows_create _)
  | use name action =>
      have related := follows.processors name
      generalize found : desk.processors.get? name = processor? at related
      generalize known : chronicle.history? name = history? at related
      cases related with
      | none =>
          rw [Step.run_use_of_none found]
          simp only [Chronicle.add, known]
          exact follows
      | some both =>
          rw [Step.run_use_of_some found]
          simp only [Chronicle.add, known]
          exact follows.put (action.destination name) (both.rebound now action)
  | processByEngine text pairs => exact ⟨follows.idPrefix_eq, follows.processors⟩
  | processJsonByEngine text value =>
      refine ⟨?_, follows.processors⟩
      exact (desk.engine.idPrefix_processJson now text value).trans follows.idPrefix_eq

/-- A run keeps the desk and the chronicle together. -/
theorem Follows.run (follows : desk.Follows chronicle) (steps : List (Moment × Step)) :
    (Session.run desk steps).2.Follows (steps.foldl Chronicle.add chronicle) := by
  induction steps generalizing desk chronicle with
  | nil => exact follows
  | cons head steps induction =>
      obtain ⟨now, step⟩ := head
      exact induction (follows.step now step)

end Desk

namespace Session

/-- A fresh desk follows its chronicle through every run. -/
theorem follows_run (start : Moment) (steps : List (Moment × Step)) :
    (run (Desk.start start) steps).2.Follows (.ofSteps steps) :=
  (Desk.follows_start start).run steps

/-- What a processor answers when it renders a text is decided by its history alone. -/
theorem answer_of_follows {processor : Processor} {history : History}
    (follows : processor.Follows history) (text : String) :
    (Answer.ofResult (processor.process text).value = .failure (.contextNotSet history.id) ↔
        history.bindings = []) ∧
      ∀ bindings, history.bindings.getLast? = some bindings →
        Answer.ofResult (processor.process text).value =
          .ofResult (Template.substitute text bindings) := by
  rw [processor.value_process, follows.bound_eq, follows.id_eq]
  cases last : history.bindings.getLast? with
  | none =>
      have empty : history.bindings = [] := List.getLast?_eq_none_iff.1 last
      simp [empty, Answer.ofResult]
  | some bindings =>
      have nonempty : history.bindings ≠ [] := by
        intro empty
        simp [empty] at last
      have bound : Answer.ofResult (Template.substitute text bindings) ≠
          .failure (.contextNotSet history.id) := by
        cases result : Template.substitute text bindings with
        | ok output => simp [Answer.ofResult]
        | error error =>
            have different := Template.substitute_ne_contextNotSet text bindings history.id
            rw [result] at different
            simpa [Answer.ofResult] using different
      simp [nonempty, bound]

/-- The last binding that succeeded decides every rendering.  Without one there is no context.  An
action that binds nothing, whether it fails or not, makes no difference to the later replies. -/
theorem last_binding_decides (start now : Moment) (before after : List (Moment × Step))
    (name : String) (action : Action) :
    (∀ history text, (Chronicle.ofSteps before).history? name = some history →
      action.rendered? = some text →
        ∃ answer,
          (replies start (before ++ (now, .use name action) :: after))[before.length]?.map
              Logged.value = some answer ∧
            (answer = .failure (.contextNotSet history.id) ↔
              (history.followedBy action).bindings = []) ∧
            ∀ bindings, (history.followedBy action).bindings.getLast? = some bindings →
              answer = .ofResult (Template.substitute text bindings)) ∧
      (action.binding? = none → action.destination name = name →
        (replies start (before ++ (now, .use name action) :: after)).eraseIdx before.length =
          replies start (before ++ after)) := by
  constructor
  · intro history text known rendered
    have related := (follows_run start before).processors name
    rw [known] at related
    generalize found :
      (run (Desk.start start) before).2.processors.get? name = processor? at related
    cases related with
    | some follows =>
        refine ⟨_, ?_, answer_of_follows (follows.rebound now action) text⟩
        rw [getElem?_replies, Option.map_some, reply, Step.run_use_of_some found,
          Action.answer_run rendered]
  · intro bindsNothing copiesNothing
    have length : (replies start before).length = before.length := length_run _ _
    rw [replies_append_cons, Step.desk_run_use bindsNothing copiesNothing, ← length,
      List.eraseIdx_append_of_length_le (Nat.le_refl _), Nat.sub_self, List.eraseIdx_zero,
      List.tail_cons, replies, replies, run_append]

/-- A processor is bound and copied, then binding the copy fails and the original is bound again. -/
def copiedSteps : List (Moment × Step) :=
  [(⟨0, 0, 0⟩, .create "first" (some "greeting") "template"),
    (⟨1, 0, 0⟩, .use "first" (.bind [("name", .string "Ada"), ("name", .string "{x}")])),
    (⟨2, 0, 0⟩, .use "first" (.copy "second")),
    (⟨3, 0, 0⟩, .use "second" (.bindJson .null)),
    (⟨4, 0, 0⟩, .use "first" (.bind [("name", .string "Eve")]))]

/-- The copy renders with the last binding of its original before the copy. -/
theorem last_binding_decides_copied :
    (∃ history, (Chronicle.ofSteps copiedSteps).history? "second" = some history ∧
      history.bindings = [Dictionary.ofPairs [("name", .string "{x}")]]) ∧
      (Action.process "Hi {name}").rendered? = some "Hi {name}" ∧
      (replies ⟨0, 0, 0⟩
          (copiedSteps ++ [(⟨5, 0, 0⟩, .use "second" (.process "Hi {name}"))]))[5]?.map
        Logged.value = some (.text "Hi {x}") := by
  obtain ⟨answer, answered, -, decided⟩ :=
    (last_binding_decides ⟨0, 0, 0⟩ ⟨5, 0, 0⟩ copiedSteps [] "second" (.process "Hi {name}")).1
      _ _ rfl rfl
  refine ⟨⟨_, rfl, rfl⟩, rfl, ?_⟩
  rw [show copiedSteps.length = 5 from rfl, decided _ rfl] at answered
  exact answered

end Session
end Stencil
