import Stencil.Logged

/-!
# Announced functions

A function that is announced by several messages still does what it did: it is called once for each
call, after the messages, of which the outermost comes first.  A function may keep a state of its
own from call to call, and the messages leave that state alone.
-/

namespace Stencil

/-! ## Any kind of computation -/

section

variable {m : Type → Type} [Monad m] [Recorder m] {α β : Type}

/-- Records one message after the other and then goes on. -/
def announcing (messages : List String) (next : m β) : m β :=
  messages.foldr (fun message rest => Recorder.record (.announced message) >>= fun _ => rest) next

theorem announceAll_append (messages others : List String) (function : α → m β) :
    announceAll (messages ++ others) function =
      announceAll others (announceAll messages function) := by
  simp only [announceAll, List.foldl_append]

/-- Between the messages nothing happens, and after them comes one call of the function. -/
theorem announceAll_eq_announcing (messages : List String) (function : α → m β) (argument : α) :
    announceAll messages function argument = announcing messages.reverse (function argument) := by
  induction messages generalizing function with
  | nil => rfl
  | cons message messages induction =>
      have inner : announceAll (message :: messages) function =
          announceAll messages (announce message function) :=
        announceAll_append [message] messages function
      rw [inner, induction, List.reverse_cons, announcing, announcing, List.foldr_append]
      rfl

end

variable {α β σ : Type}

namespace Logged

/-- A result to which other events led first. -/
def after (logged : Logged β) (earlier : List Event) : Logged β where
  events := earlier ++ logged.events
  value := logged.value

end Logged

theorem announcing_eq_after (messages : List String) (next : Logged β) :
    announcing messages next = next.after (messages.map .announced) := by
  induction messages with
  | nil => rfl
  | cons message messages induction =>
      change Logged.bind ⟨[.announced message], ()⟩ (fun _ => announcing messages next) = _
      rw [induction]
      rfl

/-! ## Functions with a state of their own -/

instance : Recorder (StateT σ Logged) where
  record event := StateT.lift (Logged.emit event)

/-- The messages leave the state alone. -/
theorem announcing_apply (messages : List String) (next : StateT σ Logged β) (state : σ) :
    announcing messages next state = announcing messages (next state) := by
  induction messages with
  | nil => rfl
  | cons message messages induction =>
      exact congrArg (Logged.bind ⟨[.announced message], ()⟩) (funext fun _ => induction)

/-- What comes of calling a function with one argument after the other: the result of each call with
the events of this call, and the state in which the function is left. -/
def calls (function : α → StateT σ Logged β) : σ → List α → List (Logged β) × σ
  | state, [] => ([], state)
  | state, argument :: arguments =>
    let outcome := function argument state
    let (replies, last) := calls function outcome.value.2 arguments
    (⟨outcome.events, outcome.value.1⟩ :: replies, last)

/-- A function that notes every argument with which it is called. -/
def noting (function : α → Logged β) (argument : α) : StateT (List α) Logged β := fun noted =>
  ⟨(function argument).events, (function argument).value, noted ++ [argument]⟩

/-- Calls one after the other differ from those without the messages in the messages only. -/
theorem calls_announceAll (messages : List String) (function : α → StateT σ Logged β) (state : σ)
    (arguments : List α) :
    calls (announceAll messages function) state arguments =
      ((calls function state arguments).1.map (·.after (messages.reverse.map .announced)),
        (calls function state arguments).2) := by
  induction arguments generalizing state with
  | nil => rfl
  | cons argument arguments induction =>
      simp only [calls, announceAll_eq_announcing, announcing_apply, announcing_eq_after,
        Logged.after, induction, List.map_cons]

theorem calls_noting (function : α → Logged β) (noted arguments : List α) :
    calls (noting function) noted arguments = (arguments.map function, noted ++ arguments) := by
  induction arguments generalizing noted with
  | nil => simp [calls]
  | cons argument arguments induction => simp [calls, noting, induction]

/-- Announcing a function by any number of messages adds these messages to the events of each call,
the last one first and all of them as information, and changes nothing else.  The function runs once
for each call, returns what it returns, and is left in the state in which it would be left. -/
theorem announcements_only_add_messages (messages : List String) :
    (∀ (function : α → Logged β) (argument : α),
      announceAll messages function argument =
        ⟨messages.reverse.map .announced ++ (function argument).events,
          (function argument).value⟩) ∧
    (∀ (function : α → StateT σ Logged β) (state : σ) (arguments : List α),
      calls (announceAll messages function) state arguments =
        ((calls function state arguments).1.map fun reply =>
            ⟨messages.reverse.map .announced ++ reply.events, reply.value⟩,
          (calls function state arguments).2)) ∧
    (∀ (function : α → Logged β) (arguments : List α),
      calls (announceAll messages (noting function)) [] arguments =
        (arguments.map fun argument =>
            ⟨messages.reverse.map .announced ++ (function argument).events,
              (function argument).value⟩,
          arguments)) ∧
    (messages.reverse.map Event.announced).map (fun event => (event.level, event.message)) =
      messages.reverse.map fun message => (.info, message) := by
  refine ⟨?_, calls_announceAll messages, ?_, ?_⟩
  · intro function argument
    rw [announceAll_eq_announcing, announcing_eq_after]
    rfl
  · intro function arguments
    rw [calls_announceAll, calls_noting, List.map_map, List.nil_append]
    rfl
  · rw [List.map_map]
    rfl

/-- Two messages around a function that records an event of its own and is called twice. -/
example :
    calls (announceAll ["inner", "outer"]
        (noting fun size : Nat => ⟨[.unbalanced size 0], size + 1⟩)) [] [5, 7] =
      ([⟨[.announced "outer", .announced "inner", .unbalanced 5 0], 6⟩,
        ⟨[.announced "outer", .announced "inner", .unbalanced 7 0], 8⟩], [5, 7]) := by
  rfl

end Stencil
