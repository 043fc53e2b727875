import Stencil.Command.Assignment
import Stencil.Logged
import Stencil.Template.Substitution
import Stencil.Text.Utf8

/-!
# Scripts

A command is told to a performer, which can record events, write texts and fail.  One performer only
notes what it is told, as a script: writes and events in their order, and how the command ends.  A
script is played to an output that may have room for a limited number of bytes.  The first write
that does not fit fills the output, ends the script and fails it.
-/

namespace Stencil

/-- The ways in which a command fails. -/
inductive CommandError where
  /-- A template could not be processed. -/
  | template (error : TemplateError)
  /-- An argument is no assignment. -/
  | argument (error : ArgumentError)
  /-- The output has no room left. -/
  | outputFull
deriving DecidableEq, Repr

namespace CommandError

/-- What went wrong, in words. -/
def message : CommandError → String
  | template error => "Template error: " ++ error.message
  | argument error => "Invalid argument: " ++ error.message
  | outputFull => "I/O error: sink full"

end CommandError

/-- Computations that can record events, write texts and fail. -/
class Performer (m : Type → Type) extends Recorder m where
  /-- Writes a text, and fails if the output does not take all of it. -/
  write : String → m Unit
  /-- Fails. -/
  fail {α : Type} : CommandError → m α

namespace Performer

variable {m : Type → Type} [Monad m] [Performer m] {α : Type}

/-- Writes a text and ends the line. -/
def writeLine (text : String) : m Unit :=
  write (text ++ "\n")

/-- Records events one after the other. -/
def recordAll : List Event → m Unit
  | [] => return ()
  | event :: events => do
    Recorder.record event
    recordAll events

/-- Records the events of a logged result. -/
def ofLogged (logged : Logged α) : m α := do
  recordAll logged.events
  return logged.value

/-- The rendered text, or the failure of the command. -/
def ofResult : Except TemplateError α → m α
  | .ok value => return value
  | .error error => fail (.template error)

end Performer

/-- One thing that a command does. -/
inductive Act where
  /-- Records an event. -/
  | record (event : Event)
  /-- Writes a text. -/
  | write (text : String)
deriving DecidableEq, Repr

/-- What a command does, and how it ends. -/
structure Script (α : Type) where
  /-- What is done, in order. -/
  acts : List Act
  /-- The result, or why there is none. -/
  result : Except CommandError α

namespace Script

variable {α β : Type}

/-- Continues with the result, if there is one. -/
protected def bind (script : Script α) (next : α → Script β) : Script β :=
  match script.result with
  | .error error => ⟨script.acts, .error error⟩
  | .ok value => ⟨script.acts ++ (next value).acts, (next value).result⟩

instance : Monad Script where
  pure value := ⟨[], .ok value⟩
  bind := Script.bind

instance : Performer Script where
  record event := ⟨[.record event], .ok ()⟩
  write text := ⟨[.write text], .ok ()⟩
  fail error := ⟨[], .error error⟩

end Script

/-- What came of playing a script. -/
structure Playback (α : Type) where
  /-- The bytes that the output has taken. -/
  written : List UInt8
  /-- What was recorded. -/
  events : List Event
  /-- The result, or why there is none. -/
  result : Except CommandError α

namespace Playback

variable {α : Type}

/-- The playback with an event before all others. -/
def afterEvent (event : Event) (playback : Playback α) : Playback α :=
  { playback with events := event :: playback.events }

/-- The playback with bytes before all others. -/
def afterBytes (form : List UInt8) (playback : Playback α) : Playback α :=
  { playback with written := form ++ playback.written }

end Playback

namespace Script

variable {α : Type}

/-- Plays acts to an output with room for `room` bytes, and then ends with `result`. -/
def playActs (result : Except CommandError α) : (room : Nat) → List Act → Playback α
  | _, [] => ⟨[], [], result⟩
  | room, .record event :: acts => (playActs result room acts).afterEvent event
  | room, .write text :: acts =>
    let form := Text.bytes text.toList
    if form.length ≤ room then (playActs result (room - form.length) acts).afterBytes form
    else ⟨form.take room, [], .error .outputFull⟩

/-- Plays a script to an output with room for `room` bytes. -/
def playWithin (script : Script α) (room : Nat) : Playback α :=
  playActs script.result room script.acts

/-- The events among acts. -/
def eventsOf (acts : List Act) : List Event :=
  acts.filterMap fun
    | .record event => some event
    | .write _ => none

/-- The bytes that acts write. -/
def bytesOf (acts : List Act) : List UInt8 :=
  acts.flatMap fun
    | .record _ => []
    | .write text => Text.bytes text.toList

/-- Plays a script to an output that takes everything. -/
def play (script : Script α) : Playback α where
  written := bytesOf script.acts
  events := eventsOf script.acts
  result := script.result

end Script
end Stencil
