import Stencil.Proofs.Command.Script
import Stencil.Proofs.Command.Sink
import Stencil.Settings.Basic

/-!
# Outputs with limited room

An output with room for some bytes takes the first bytes that a command writes, however the writes
are cut.  If these are not all of them, the command fails for want of room and does nothing more.
-/

namespace Stencil
namespace Script

variable {α : Type}

/-- What acts come to when every write is cut into its bytes. -/
def stream (acts : List Act) : List (Event ⊕ UInt8) :=
  acts.flatMap fun
    | .record event => [.inl event]
    | .write text => (Text.bytes text.toList).map .inr

/-- Plays events and single bytes to an output that takes `room` bytes and refuses the next. -/
def playStream (result : Except CommandError α) : (room : Nat) → List (Event ⊕ UInt8) → Playback α
  | _, [] => ⟨[], [], result⟩
  | room, .inl event :: rest => (playStream result room rest).afterEvent event
  | 0, .inr _ :: _ => ⟨[], [], .error .outputFull⟩
  | room + 1, .inr byte :: rest => (playStream result room rest).afterBytes [byte]

@[simp]
theorem stream_cons_record (event : Event) (acts : List Act) :
    stream (.record event :: acts) = .inl event :: stream acts := rfl

@[simp]
theorem stream_cons_write (text : String) (acts : List Act) :
    stream (.write text :: acts) = (Text.bytes text.toList).map .inr ++ stream acts := rfl

theorem filterMap_getRight?_stream (acts : List Act) :
    (stream acts).filterMap Sum.getRight? = bytesOf acts := by
  induction acts with
  | nil => rfl
  | cons act acts induction =>
      cases act with
      | record event => exact induction
      | write text =>
          have written : ((Text.bytes text.toList).map Sum.inr).filterMap
              (Sum.getRight? : Event ⊕ UInt8 → Option UInt8) = Text.bytes text.toList :=
            List.filterMap_map.trans List.filterMap_some
          rw [stream_cons_write, List.filterMap_append, written, induction]
          rfl

theorem filterMap_getLeft?_stream (acts : List Act) :
    (stream acts).filterMap Sum.getLeft? = eventsOf acts := by
  induction acts with
  | nil => rfl
  | cons act acts induction =>
      cases act with
      | record event => exact congrArg (event :: ·) induction
      | write text =>
          have silent : ((Text.bytes text.toList).map Sum.inr).filterMap
              (Sum.getLeft? : Event ⊕ UInt8 → Option Event) = [] := by
            simp
          rw [stream_cons_write, List.filterMap_append, silent, induction]
          rfl

/-- A stretch of bytes is taken whole, or as far as there is room for it. -/
theorem playStream_bytes (result : Except CommandError α) (room : Nat) (form : List UInt8)
    (rest : List (Event ⊕ UInt8)) :
    playStream result room (form.map .inr ++ rest) =
      if form.length ≤ room then (playStream result (room - form.length) rest).afterBytes form
      else ⟨form.take room, [], .error .outputFull⟩ := by
  induction form generalizing room with
  | nil => simp [Playback.afterBytes]
  | cons byte form induction =>
      cases room with
      | zero => simp [playStream]
      | succ room =>
          rw [List.map_cons, List.cons_append, playStream, induction, List.length_cons,
            Nat.add_sub_add_right]
          by_cases fits : form.length ≤ room
          · rw [if_pos fits, if_pos (Nat.succ_le_succ fits)]
            rfl
          · have tooLong : ¬ form.length + 1 ≤ room + 1 := by omega
            rw [if_neg fits, if_neg tooLong]
            rfl

/-- It makes no difference whether a write is offered whole or byte by byte. -/
theorem playActs_eq_playStream (result : Except CommandError α) (room : Nat) (acts : List Act) :
    playActs result room acts = playStream result room (stream acts) := by
  induction acts generalizing room with
  | nil => rfl
  | cons act acts induction =>
      cases act with
      | record event => rw [playActs, stream_cons_record, playStream, induction]
      | write text =>
          rw [playActs, stream_cons_write, playStream_bytes]
          simp only [induction]

theorem playStream_of_le {result : Except CommandError α} {room : Nat}
    {rest : List (Event ⊕ UInt8)} (fits : (rest.filterMap Sum.getRight?).length ≤ room) :
    playStream result room rest =
      ⟨rest.filterMap Sum.getRight?, rest.filterMap Sum.getLeft?, result⟩ := by
  induction rest generalizing room with
  | nil => rfl
  | cons head rest induction =>
      cases head with
      | inl event =>
          rw [playStream, induction fits]
          rfl
      | inr byte =>
          cases room with
          | zero => simp at fits
          | succ room =>
              have restFits : (rest.filterMap Sum.getRight?).length ≤ room :=
                Nat.le_of_succ_le_succ fits
              rw [playStream, induction restFits]
              rfl

theorem playStream_of_lt (result : Except CommandError α) {room : Nat}
    {rest : List (Event ⊕ UInt8)} (full : room < (rest.filterMap Sum.getRight?).length) :
    ∃ recorded, recorded <+: rest.filterMap Sum.getLeft? ∧
      playStream result room rest =
        ⟨(rest.filterMap Sum.getRight?).take room, recorded, .error .outputFull⟩ := by
  induction rest generalizing room with
  | nil => simp at full
  | cons head rest induction =>
      cases head with
      | inl event =>
          obtain ⟨recorded, before, played⟩ := induction full
          refine ⟨event :: recorded, (List.prefix_cons_inj event).2 before, ?_⟩
          rw [playStream, played]
          rfl
      | inr byte =>
          cases room with
          | zero => exact ⟨[], List.nil_prefix, rfl⟩
          | succ room =>
              have restFull : room < (rest.filterMap Sum.getRight?).length :=
                Nat.lt_of_succ_lt_succ full
              obtain ⟨recorded, before, played⟩ := induction restFull
              refine ⟨recorded, before, ?_⟩
              rw [playStream, played]
              rfl

/-- An output with room for everything takes everything. -/
theorem playWithin_of_le {script : Script α} {room : Nat}
    (fits : script.play.written.length ≤ room) : script.playWithin room = script.play := by
  have streamFits : ((stream script.acts).filterMap Sum.getRight?).length ≤ room := by
    rw [filterMap_getRight?_stream]
    exact fits
  rw [playWithin, playActs_eq_playStream, playStream_of_le streamFits, filterMap_getRight?_stream,
    filterMap_getLeft?_stream, play]

/-- An output that is too small is filled, and the script fails on the way. -/
theorem playWithin_of_lt {script : Script α} {room : Nat}
    (full : room < script.play.written.length) :
    ∃ recorded, recorded <+: script.play.events ∧
      script.playWithin room =
        ⟨script.play.written.take room, recorded, .error .outputFull⟩ := by
  have streamFull : room < ((stream script.acts).filterMap Sum.getRight?).length := by
    rw [filterMap_getRight?_stream]
    exact full
  have played := playStream_of_lt script.result streamFull
  rw [filterMap_getRight?_stream, filterMap_getLeft?_stream, ← playActs_eq_playStream] at played
  exact played

end Script

namespace Command

/-- An output with limited room takes the first bytes that a command writes without a limit.  If
there is room for all of them, the limit makes no difference.  Otherwise the command fails for want
of room, with the events up to there.  It makes no difference how the writes are cut.  The same comes
of telling the command to the output itself, where a failed write could be passed over. -/
theorem limited_output_takes_first_bytes (command : Command) (settings : Settings) (now : Moment)
    (room : Nat) :
    let script := command.script settings.template.idPrefix now
    (script.play.written.length ≤ room → script.playWithin room = script.play) ∧
      (room < script.play.written.length →
        (script.playWithin room).result = .error .outputFull ∧
          (script.playWithin room).written = script.play.written.take room ∧
          (script.playWithin room).events <+: script.play.events) ∧
      script.playWithin room =
        Script.playStream script.result room (Script.stream script.acts) ∧
      ∀ taken recorded,
        (command.perform settings.template.idPrefix now : Offer Verdict).run
            ⟨room, taken, recorded⟩ =
          (script.playWithin room).endAt ⟨room, taken, recorded⟩ := by
  intro script
  refine ⟨Script.playWithin_of_le, ?_, Script.playActs_eq_playStream _ _ _, ?_⟩
  · intro full
    obtain ⟨recorded, before, played⟩ := Script.playWithin_of_lt full
    rw [played]
    exact ⟨rfl, rfl, before⟩
  · intro taken recorded
    exact command.run_perform settings.template.idPrefix now ⟨room, taken, recorded⟩

/-- Room may end inside a line, and inside a character. -/
theorem limited_output_takes_first_bytes_of_two_lines :
    let script := (Command.names "{é}{b}").script "template" ⟨0, 0, 0⟩
    script.play.written.length ≤ 5 ∧ script.playWithin 5 = script.play ∧
      3 < script.play.written.length ∧ (script.playWithin 3).written = [0x62, 0x0A, 0xC3] ∧
      (script.playWithin 3).result = .error .outputFull := by
  intro script
  have fits : script.play.written.length ≤ 5 := by decide
  have full : 3 < script.play.written.length := by decide
  have whole := (limited_output_takes_first_bytes (.names "{é}{b}") {} ⟨0, 0, 0⟩ 5).1 fits
  obtain ⟨failed, taken, -⟩ :=
    (limited_output_takes_first_bytes (.names "{é}{b}") {} ⟨0, 0, 0⟩ 3).2.1 full
  exact ⟨fits, whole, full, taken.trans (by decide), failed⟩

end Command
end Stencil
