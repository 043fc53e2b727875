import Stencil.Command.Run

/-!
# Commands at an output

A command can also be told to an output itself.  There a failed write could be caught or passed over
and the next one made.  No command does so: what it does there is what its script comes to, and this
follows from each write that it makes.
-/

namespace Stencil

/-! ## Maps between performers -/

/-- A map between performers that keeps whatever they are told. -/
structure Performer.Hom (m n : Type → Type) [Monad m] [Performer m] [Monad n] [Performer n] where
  /-- The map. -/
  map {α : Type} : m α → n α
  map_pure {α : Type} (value : α) : map (pure value) = pure value
  map_bind {α β : Type} (first : m α) (next : α → m β) :
    map (first >>= next) = map first >>= fun value => map (next value)
  map_record (event : Event) : map (Recorder.record event) = Recorder.record event
  map_write (text : String) : map (Performer.write text) = Performer.write text
  map_fail {α : Type} (error : CommandError) :
    map (Performer.fail error : m α) = Performer.fail error

attribute [simp] Performer.Hom.map_pure Performer.Hom.map_bind Performer.Hom.map_record
  Performer.Hom.map_write Performer.Hom.map_fail

variable {m n : Type → Type} [Monad m] [Performer m] [Monad n] [Performer n]

namespace Performer.Hom

variable {α β : Type}

@[simp]
theorem map_writeLine (hom : Hom m n) (text : String) :
    hom.map (writeLine text) = writeLine text :=
  hom.map_write (text ++ "\n")

@[simp]
theorem map_recordAll (hom : Hom m n) (events : List Event) :
    hom.map (recordAll events) = recordAll events := by
  induction events with
  | nil => exact hom.map_pure ()
  | cons event events induction => simp [recordAll, induction]

@[simp]
theorem map_ofLogged (hom : Hom m n) (logged : Logged α) :
    hom.map (ofLogged logged) = ofLogged logged := by
  simp [ofLogged]

@[simp]
theorem map_ofResult (hom : Hom m n) (result : Except TemplateError α) :
    hom.map (ofResult result) = ofResult result := by
  cases result with
  | error error => exact hom.map_fail (.template error)
  | ok value => exact hom.map_pure value

@[simp]
theorem map_announce (hom : Hom m n) (message : String) (function : α → m β) (argument : α) :
    hom.map (announce message function argument) =
      announce message (fun argument => hom.map (function argument)) argument := by
  simp [announce]

end Performer.Hom

namespace Command

open Performer

theorem map_performRender (hom : Hom m n) (idPrefix : String) (now : Moment) (template : String)
    (assignments : List String) (id : Option String) :
    hom.map (performRender idPrefix now template assignments id) =
      performRender idPrefix now template assignments id := by
  rw [performRender, performRender]
  cases Assignment.parseAll assignments with
  | error error => exact hom.map_fail (.argument error)
  | ok pairs => simp

theorem map_performValidate (hom : Hom m n) (template : String) :
    hom.map (performValidate template) = performValidate template := by
  simp only [performValidate, Hom.map_bind, Hom.map_ofLogged]
  refine congrArg _ (funext fun valid => ?_)
  cases valid <;> simp

theorem map_writeLines (hom : Hom m n) (lines : List String) :
    hom.map (writeLines lines) = writeLines lines := by
  induction lines with
  | nil => exact hom.map_pure ()
  | cons line lines induction => simp [writeLines, induction]

theorem map_performNames (hom : Hom m n) (template : String) :
    hom.map (performNames template) = performNames template := by
  simp [performNames, map_writeLines]

theorem map_demoStory (hom : Hom m n) (engine : Engine) (now : Moment) :
    hom.map (demoStory engine now) = demoStory engine now := by
  simp only [demoStory, Hom.map_bind, Hom.map_writeLine, Hom.map_ofLogged]
  refine congrArg _ (funext fun _ => congrArg _ (funext fun valid => ?_))
  cases valid <;> simp

theorem map_performDemo (hom : Hom m n) (idPrefix : String) (now : Moment) :
    hom.map (performDemo idPrefix now) = performDemo idPrefix now := by
  simp [performDemo, demoRendering, demoValidation, demoNames, map_demoStory]

/-- Every command does the same to every performer. -/
theorem map_perform (hom : Hom m n) (command : Command) (idPrefix : String) (now : Moment) :
    hom.map (command.perform idPrefix now) = command.perform idPrefix now := by
  cases command with
  | render template assignments id =>
      exact map_performRender hom idPrefix now template assignments id
  | validate template => exact map_performValidate hom template
  | names template => exact map_performNames hom template
  | demo => exact map_performDemo hom idPrefix now

end Command

/-! ## Outputs with limited room -/

/-- An output with limited room, and the record of what happened. -/
structure Sink where
  /-- How many bytes the output can still take. -/
  room : Nat
  /-- The bytes that it has taken. -/
  taken : List UInt8
  /-- What was recorded. -/
  recorded : List Event

/-- What is done to a sink.  A failure leaves the sink as it is then, and could be caught. -/
abbrev Offer := EStateM CommandError Sink

instance : Performer Offer where
  record event sink := .ok () { sink with recorded := sink.recorded ++ [event] }
  write text sink :=
    let form := Text.bytes text.toList
    if form.length ≤ sink.room then
      .ok () { sink with room := sink.room - form.length, taken := sink.taken ++ form }
    else
      .error .outputFull { sink with room := 0, taken := sink.taken ++ form.take sink.room }
  fail := throw

/-- The sink after a playback. -/
def Sink.after {α : Type} (sink : Sink) (playback : Playback α) : Sink where
  room := sink.room - playback.written.length
  taken := sink.taken ++ playback.written
  recorded := sink.recorded ++ playback.events

theorem Sink.run_record (event : Event) (sink : Sink) :
    (Recorder.record event : Offer Unit).run sink =
      .ok () { sink with recorded := sink.recorded ++ [event] } := rfl

/-- A text for which there is room is taken. -/
theorem Sink.run_write_of_le {text : String} {sink : Sink}
    (fits : (Text.bytes text.toList).length ≤ sink.room) :
    (Performer.write text : Offer Unit).run sink =
      .ok () { sink with
        room := sink.room - (Text.bytes text.toList).length
        taken := sink.taken ++ Text.bytes text.toList } :=
  if_pos fits

/-- Of a text that is too long the first bytes are taken, and the write fails. -/
theorem Sink.run_write_of_lt {text : String} {sink : Sink}
    (full : sink.room < (Text.bytes text.toList).length) :
    (Performer.write text : Offer Unit).run sink =
      .error .outputFull { sink with
        room := 0
        taken := sink.taken ++ (Text.bytes text.toList).take sink.room } :=
  if_neg (Nat.not_le_of_lt full)

/-- How a playback ends at a sink. -/
def Playback.endAt {α : Type} (playback : Playback α) (sink : Sink) :
    EStateM.Result CommandError Sink α :=
  match playback.result with
  | .ok value => .ok value (sink.after playback)
  | .error error => .error error (sink.after playback)

namespace Playback

variable {α : Type} (playback : Playback α) (sink : Sink)

theorem endAt_afterEvent (event : Event) :
    (playback.afterEvent event).endAt sink =
      playback.endAt { sink with recorded := sink.recorded ++ [event] } := by
  simp [endAt, afterEvent, Sink.after]

theorem endAt_afterBytes (form : List UInt8) :
    (playback.afterBytes form).endAt sink =
      playback.endAt
        { sink with room := sink.room - form.length, taken := sink.taken ++ form } := by
  simp [endAt, afterBytes, Sink.after, Nat.sub_sub]

end Playback

namespace Script

variable {α β : Type}

/-- Does acts to a sink, and then ends with a result. -/
def offerActs (result : Except CommandError α) : List Act → Offer α
  | [] =>
    match result with
    | .ok value => pure value
    | .error error => throw error
  | .record event :: acts => do
    Recorder.record event
    offerActs result acts
  | .write text :: acts => do
    Performer.write text
    offerActs result acts

theorem offerActs_ok_bind (value : α) (acts : List Act) (next : α → Script β) :
    offerActs (.ok value) acts >>= (fun value => offerActs (next value).result (next value).acts) =
      offerActs (next value).result (acts ++ (next value).acts) := by
  induction acts with
  | nil => rfl
  | cons act acts induction =>
      cases act with
      | record event => rw [List.cons_append, offerActs, offerActs, bind_assoc, induction]
      | write text => rw [List.cons_append, offerActs, offerActs, bind_assoc, induction]

/-- A failure is passed on: nothing is done after it. -/
theorem offerActs_error_bind (error : CommandError) (acts : List Act) (next : α → Offer β) :
    offerActs (.error error) acts >>= next = offerActs (.error error) acts := by
  induction acts with
  | nil => rfl
  | cons act acts induction =>
      cases act with
      | record event => rw [offerActs, offerActs, bind_assoc, induction]
      | write text => rw [offerActs, offerActs, bind_assoc, induction]

/-- To do to a sink what a script says. -/
def toOffer : Performer.Hom Script Offer where
  map script := offerActs script.result script.acts
  map_pure _ := rfl
  map_bind first next := by
    obtain ⟨acts, result⟩ := first
    cases result with
    | error error => exact (offerActs_error_bind error acts _).symm
    | ok value => exact (offerActs_ok_bind value acts next).symm
  map_record _ := rfl
  map_write text := bind_pure (Performer.write text : Offer Unit)
  map_fail _ := rfl

/-- What acts come to at a sink is what they come to when they are played. -/
theorem run_offerActs (result : Except CommandError α) (acts : List Act) (sink : Sink) :
    (offerActs result acts).run sink = (playActs result sink.room acts).endAt sink := by
  induction acts generalizing sink with
  | nil =>
      rw [playActs, Playback.endAt, Sink.after, List.append_nil, List.append_nil]
      cases result <;> rfl
  | cons act acts induction =>
      cases act with
      | record event =>
          rw [offerActs, EStateM.run_bind, Sink.run_record]
          simp only [induction, playActs, Playback.endAt_afterEvent]
      | write text =>
          rw [offerActs, EStateM.run_bind, playActs]
          by_cases fits : (Text.bytes text.toList).length ≤ sink.room
          · rw [Sink.run_write_of_le fits]
            simp only [induction, fits, if_true, Playback.endAt_afterBytes]
          · have full := Nat.lt_of_not_le fits
            have filled : min sink.room (Text.bytes text.toList).length = sink.room :=
              Nat.min_eq_left (Nat.le_of_lt full)
            rw [Sink.run_write_of_lt full]
            simp only [fits, if_false]
            simp [Playback.endAt, Sink.after, filled]

end Script

namespace Command

/-- What a command does to a sink is what its script comes to there. -/
theorem run_perform (command : Command) (idPrefix : String) (now : Moment) (sink : Sink) :
    (command.perform idPrefix now : Offer Verdict).run sink =
      ((command.script idPrefix now).playWithin sink.room).endAt sink := by
  have told := command.map_perform Script.toOffer idPrefix now
  rw [← told]
  exact Script.run_offerActs _ _ sink

end Command
end Stencil
