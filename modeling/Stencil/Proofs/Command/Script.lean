import Stencil.Command.Script

/-!
# Laws of scripts

What a script plays is put together from what its parts play.
-/

namespace Stencil
namespace Playback

variable {α β : Type}

/-- Plays on with the result, if there is one. -/
def andThen (playback : Playback α) (next : α → Playback β) : Playback β :=
  match playback.result with
  | .error error => ⟨playback.written, playback.events, .error error⟩
  | .ok value =>
    ⟨playback.written ++ (next value).written, playback.events ++ (next value).events,
      (next value).result⟩

@[simp]
theorem andThen_error (written : List UInt8) (events : List Event) (error : CommandError)
    (next : α → Playback β) :
    andThen ⟨written, events, .error error⟩ next = ⟨written, events, .error error⟩ := rfl

@[simp]
theorem andThen_ok (written : List UInt8) (events : List Event) (value : α)
    (next : α → Playback β) :
    andThen ⟨written, events, .ok value⟩ next =
      ⟨written ++ (next value).written, events ++ (next value).events, (next value).result⟩ := rfl

end Playback

namespace Script

variable {α β : Type}

theorem eventsOf_append (before after : List Act) :
    eventsOf (before ++ after) = eventsOf before ++ eventsOf after :=
  List.filterMap_append

theorem bytesOf_append (before after : List Act) :
    bytesOf (before ++ after) = bytesOf before ++ bytesOf after :=
  List.flatMap_append

theorem play_bind (script : Script α) (next : α → Script β) :
    (script >>= next).play = script.play.andThen fun value => (next value).play := by
  obtain ⟨acts, result⟩ := script
  cases result with
  | error error => rfl
  | ok value =>
      change play ⟨acts ++ (next value).acts, (next value).result⟩ = _
      simp only [play, Playback.andThen, eventsOf_append, bytesOf_append]

@[simp]
theorem play_pure (value : α) : (pure value : Script α).play = ⟨[], [], .ok value⟩ := rfl

@[simp]
theorem play_fail (error : CommandError) :
    (Performer.fail error : Script α).play = ⟨[], [], .error error⟩ := rfl

theorem recordAll_eq (events : List Event) :
    (Performer.recordAll events : Script Unit) = ⟨events.map .record, .ok ()⟩ := by
  induction events with
  | nil => rfl
  | cons event events induction =>
      rw [Performer.recordAll, induction]
      rfl

theorem ofLogged_eq (logged : Logged α) :
    (Performer.ofLogged logged : Script α) = ⟨logged.events.map .record, .ok logged.value⟩ := by
  rw [Performer.ofLogged, recordAll_eq]
  change (⟨logged.events.map .record ++ [], .ok logged.value⟩ : Script α) = _
  rw [List.append_nil]

theorem eventsOf_map_record (events : List Event) : eventsOf (events.map .record) = events :=
  List.filterMap_map.trans List.filterMap_some

theorem bytesOf_map_record (events : List Event) : bytesOf (events.map .record) = [] := by
  simp [bytesOf, List.flatMap_map]

@[simp]
theorem play_ofLogged (logged : Logged α) :
    (Performer.ofLogged logged : Script α).play = ⟨[], logged.events, .ok logged.value⟩ := by
  rw [ofLogged_eq, play, eventsOf_map_record, bytesOf_map_record]

@[simp]
theorem play_writeLine (text : String) :
    (Performer.writeLine text : Script Unit).play =
      ⟨Text.bytes (text ++ "\n").toList, [], .ok ()⟩ := by
  simp [Performer.writeLine, Performer.write, play, bytesOf, eventsOf]

end Script
end Stencil
