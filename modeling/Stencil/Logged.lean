import Stencil.Event

/-!
# Logged results

A logged result is a value together with the events that happened on the way to it, in order.
-/

namespace Stencil

/-- A value and the events that led to it. -/
structure Logged (α : Type) where
  /-- What happened, in order. -/
  events : List Event
  /-- The result. -/
  value : α
deriving Repr

namespace Logged

variable {α β : Type}

/-- A value to which no event leads. -/
protected def pure (value : α) : Logged α where
  events := []
  value := value

/-- Continues with the value, after its events. -/
protected def bind (logged : Logged α) (next : α → Logged β) : Logged β where
  events := logged.events ++ (next logged.value).events
  value := (next logged.value).value

instance : Monad Logged where
  pure := Logged.pure
  bind := Logged.bind

/-- Records one event. -/
def emit (event : Event) : Logged Unit where
  events := [event]
  value := ()

@[simp]
theorem events_pure (value : α) : (pure value : Logged α).events = [] := rfl

@[simp]
theorem value_pure (value : α) : (pure value : Logged α).value = value := rfl

@[simp]
theorem events_bind (logged : Logged α) (next : α → Logged β) :
    (logged >>= next).events = logged.events ++ (next logged.value).events := rfl

@[simp]
theorem value_bind (logged : Logged α) (next : α → Logged β) :
    (logged >>= next).value = (next logged.value).value := rfl

@[simp]
theorem events_emit (event : Event) : (emit event).events = [event] := rfl

end Logged

/-- Computations that can record events. -/
class Recorder (m : Type → Type) where
  /-- Records one event. -/
  record : Event → m Unit

instance : Recorder Logged where
  record := Logged.emit

/-- Announces every call of a function by a message.  Announced functions can be announced again,
and then the outer message comes first. -/
def announce {m : Type → Type} [Monad m] [Recorder m] {α β : Type} (message : String)
    (function : α → m β) (argument : α) : m β := do
  Recorder.record (.announced message)
  function argument

/-- Announces every call of a function by several messages, the last of them outermost. -/
def announceAll {m : Type → Type} [Monad m] [Recorder m] {α β : Type} (messages : List String)
    (function : α → m β) : α → m β :=
  messages.foldl (fun announced message => announce message announced) function

end Stencil
