import Stencil.Proofs.Session.History

/-!
# The account of a session

The events of a session can be told from its steps and their answers.  A step that binds variables
records it once, under the identifier of the processor, unless its answer says that it could not.  A
step that answers with a rendered text records that once, after the binding.  Nothing else is
recorded.
-/

namespace Stencil

namespace Answer

/-- Whether the answer says that no variables were bound. -/
def deniesBinding : Answer → Bool
  | failure .invalidVariables => true
  | unknownName => true
  | _ => false

end Answer

namespace Action

/-- The pairs whose values the action offers for binding. -/
def offered? : Action → Option (List (String × Json))
  | bind pairs => some pairs
  | bindJson value => some value.fields
  | bindAndProcess pairs _ => some pairs
  | bindJsonAndProcess value _ => some value.fields
  | _ => none

/-- The text that the action is to render. -/
def text? : Action → Option String
  | process text => some text
  | bindAndProcess _ text => some text
  | bindJsonAndProcess _ text => some text
  | _ => none

/-- The binding that an answer tells of: the owner and the number of different names. -/
def bindingAccount (owner : TemplateId) (action : Action) (answer : Answer) : List Event :=
  match action.offered? with
  | none => []
  | some pairs =>
    if answer.deniesBinding then []
    else [.contextSet owner (pairs.map Prod.fst).dedup.length]

/-- The rendering that an answer tells of: the owner and the numbers of bytes in the text that was
rendered and in what came of it. -/
def renderingAccount (owner : TemplateId) (action : Action) (answer : Answer) : List Event :=
  match action.text?, answer with
  | some text, .text output =>
    [.processed owner (Text.bytes text.toList).length (Text.bytes output.toList).length]
  | _, _ => []

/-- What an action on the processor of an owner records, told from the answer. -/
def account (owner : TemplateId) (action : Action) (answer : Answer) : List Event :=
  action.bindingAccount owner answer ++ action.renderingAccount owner answer

end Action

namespace Processor

theorem events_process (processor : Processor) (text : String) :
    (processor.process text).events =
      (Action.process text).renderingAccount processor.id
        (.ofResult (processor.process text).value) := by
  cases bound : processor.context with
  | none => simp [process, bound, Answer.ofResult, Action.renderingAccount]
  | some context =>
      simp only [process, bound]
      cases Template.substitute text context.bindings with
      | error error => rfl
      | ok output =>
          simp [Answer.ofResult, Action.renderingAccount, Action.text?, Text.length_bytes_toList]

end Processor

namespace Action

variable (now : Moment) (processor : Processor)

theorem deniesBinding_process_bind (bindings : Bindings) (text : String) :
    (Answer.ofResult ((processor.bind now bindings).value.process text).value).deniesBinding =
      false := by
  rw [processor.value_process_bind]
  have bound := Template.substitute_ne_invalidVariables text bindings
  cases result : Template.substitute text bindings with
  | ok output => rfl
  | error error =>
      cases error with
      | invalidVariables => exact absurd result bound
      | _ => rfl

/-- Binding and then rendering records both, the binding even if the rendering fails. -/
theorem events_bind_process (pairs : List (String × Json)) (text : String) :
    ((bindAndProcess pairs text).run now processor).events =
      (bindAndProcess pairs text).account processor.id
        ((bindAndProcess pairs text).run now processor).value.2 := by
  let bound := (processor.setContext now pairs).value
  have answered : ((bindAndProcess pairs text).run now processor).value.2 =
      .ofResult (bound.process text).value := rfl
  have recorded : ((bindAndProcess pairs text).run now processor).events =
      .contextSet processor.id (Dictionary.ofPairs pairs).size :: (bound.process text).events := by
    change [Event.contextSet processor.id (Dictionary.ofPairs pairs).size] ++
      ((bound.process text).events ++ []) = _
    rw [List.append_nil, List.singleton_append]
  have succeeded := deniesBinding_process_bind now processor (Dictionary.ofPairs pairs) text
  rw [recorded, answered, bound.events_process, Dictionary.size_ofPairs, account, bindingAccount]
  simp only [offered?, bound, Processor.setContext, succeeded]
  rfl

/-- What an action records is told from its answer. -/
theorem events_run (action : Action) :
    (action.run now processor).events =
      action.account processor.id (action.run now processor).value.2 := by
  cases action with
  | bind pairs =>
      change [Event.contextSet processor.id (Dictionary.ofPairs pairs).size] = _
      rw [Dictionary.size_ofPairs]
      rfl
  | bindJson value =>
      cases value with
      | object fields =>
          change [Event.contextSet processor.id (Dictionary.ofPairs fields).size] = _
          rw [Dictionary.size_ofPairs]
          rfl
      | _ => rfl
  | process text =>
      change (processor.process text).events ++ [] = _
      rw [List.append_nil, processor.events_process]
      rfl
  | bindAndProcess pairs text => exact events_bind_process now processor pairs text
  | bindJsonAndProcess value text =>
      cases value with
      | object fields => exact events_bind_process now processor fields text
      | _ => rfl
  | _ => rfl

end Action

namespace Session

/-- Rendering in one go is binding and rendering with the processor inside the engine. -/
theorem reply_processByEngine (desk : Desk) (now : Moment) (text : String)
    (pairs : List (String × Json)) :
    reply desk now (.processByEngine text pairs) =
      ⟨((Action.bindAndProcess pairs text).run now desk.engine.processor).events,
        ((Action.bindAndProcess pairs text).run now desk.engine.processor).value.2⟩ := by
  change Logged.mk (((Action.bindAndProcess pairs text).run now desk.engine.processor).events ++ [])
    _ = _
  rw [List.append_nil]
  rfl

end Session

/-- What is known of a session from its steps alone: the histories of its processors and the
identifier of the processor inside the engine. -/
structure Ledger where
  /-- The histories of the named processors. -/
  chronicle : Chronicle
  /-- The identifier of the processor inside the engine. -/
  engineId : TemplateId

namespace Ledger

/-- What is known before the first step. -/
def start (now : Moment) : Ledger where
  chronicle := .start
  engineId := .generated TemplateId.defaultPrefix now

/-- What is known after one more step.  Only a new engine has another processor inside. -/
def add (ledger : Ledger) (step : Moment × Step) : Ledger where
  chronicle := ledger.chronicle.add step
  engineId :=
    match step with
    | (now, .replaceEngine idPrefix) => .generated idPrefix now
    | _ => ledger.engineId

/-- What a step records, told from the answer. -/
def account (ledger : Ledger) (step : Step) (answer : Answer) : List Event :=
  match step with
  | .use name action =>
    match ledger.chronicle.history? name with
    | none => []
    | some history => action.account history.id answer
  | .processByEngine text pairs =>
    (Action.bindAndProcess pairs text).account ledger.engineId answer
  | .processJsonByEngine text value =>
    (Action.bindJsonAndProcess value text).account ledger.engineId answer
  | _ => []

/-- What the steps of a session record, told from their answers. -/
def accounts (ledger : Ledger) : List (Moment × Step) → List Answer → List (List Event)
  | step :: steps, answer :: answers =>
    ledger.account step.2 answer :: (ledger.add step).accounts steps answers
  | _, _ => []

end Ledger

/-- Whether a ledger is about a desk. -/
structure Desk.Tallies (desk : Desk) (ledger : Ledger) : Prop where
  /-- The processors of the desk are what their histories make of them. -/
  follows : desk.Follows ledger.chronicle
  /-- The engine's own processor has the identifier of the ledger. -/
  engineId_eq : desk.engine.processor.id = ledger.engineId

namespace Desk

theorem tallies_start (now : Moment) : (start now).Tallies (.start now) where
  follows := follows_start now
  engineId_eq := rfl

variable {desk : Desk} {ledger : Ledger}

/-- A step keeps the desk and the ledger together. -/
theorem Tallies.step (tallies : desk.Tallies ledger) (now : Moment) (step : Step) :
    (step.run now desk).value.1.Tallies (ledger.add (now, step)) where
  follows := tallies.follows.step now step
  engineId_eq := by
    cases step with
    | replaceEngine idPrefix => rfl
    | create name id idPrefix => exact tallies.engineId_eq
    | createByEngine name id => exact tallies.engineId_eq
    | use name action =>
        cases found : desk.processors.get? name with
        | none =>
            rw [Step.run_use_of_none found]
            exact tallies.engineId_eq
        | some processor =>
            rw [Step.run_use_of_some found]
            exact tallies.engineId_eq
    | processByEngine text pairs => exact tallies.engineId_eq
    | processJsonByEngine text value =>
        cases value with
        | object fields => exact tallies.engineId_eq
        | _ => exact tallies.engineId_eq

/-- What a step records is told from its answer. -/
theorem Tallies.events (tallies : desk.Tallies ledger) (now : Moment) (step : Step) :
    (Session.reply desk now step).events =
      ledger.account step (Session.reply desk now step).value := by
  cases step with
  | use name action =>
      have related := tallies.follows.processors name
      generalize found : desk.processors.get? name = processor? at related
      generalize known : ledger.chronicle.history? name = history? at related
      cases related with
      | none =>
          rw [Session.reply, Step.run_use_of_none found, Ledger.account, known]
          rfl
      | some follows =>
          simp only [Session.reply, Step.run_use_of_some found, Ledger.account, known]
          rw [← follows.id_eq]
          exact action.events_run now _
  | processByEngine text pairs =>
      rw [Ledger.account, ← tallies.engineId_eq, Session.reply_processByEngine]
      exact Action.events_run now desk.engine.processor (.bindAndProcess pairs text)
  | processJsonByEngine text value =>
      rw [Ledger.account, ← tallies.engineId_eq]
      cases value with
      | object fields =>
          have same : Session.reply desk now (.processJsonByEngine text (.object fields)) =
              Session.reply desk now (.processByEngine text fields) := rfl
          rw [same, Session.reply_processByEngine]
          exact Action.events_run now desk.engine.processor (.bindAndProcess fields text)
      | _ => rfl
  | _ => rfl

/-- What a run records is told from its answers. -/
theorem Tallies.run (tallies : desk.Tallies ledger) (steps : List (Moment × Step)) :
    (Session.run desk steps).1.map Logged.events =
      ledger.accounts steps ((Session.run desk steps).1.map Logged.value) := by
  induction steps generalizing desk ledger with
  | nil => rfl
  | cons head steps induction =>
      obtain ⟨now, step⟩ := head
      rw [Session.run_cons, List.map_cons, List.map_cons, Ledger.accounts, tallies.events now step,
        induction (tallies.step now step)]

end Desk

namespace Session

/-- The events of a session are exactly those that its steps and their answers tell of, step by
step. -/
theorem events_tell_answers (start : Moment) (steps : List (Moment × Step)) :
    (replies start steps).map Logged.events =
      (Ledger.start start).accounts steps ((replies start steps).map Logged.value) :=
  (Desk.tallies_start start).run steps

-- A name that is bound twice counts once, and the binding is recorded where the rendering fails.
example :
    let steps : List (Moment × Step) :=
      [(⟨0, 0, 1⟩, .processByEngine "{b}" [("a", .null), ("a", .null)]),
        (⟨0, 0, 2⟩, .processByEngine "é{a}" [("a", .string "b")])]
    let owner : TemplateId := .generated "template" ⟨0, 0, 0⟩
    (replies ⟨0, 0, 0⟩ steps).map Logged.events =
      [[.contextSet owner 1], [.contextSet owner 1, .processed owner 5 3]] := by
  decide

end Session
end Stencil
