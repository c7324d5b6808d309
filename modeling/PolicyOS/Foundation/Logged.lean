import PolicyOS.Foundation.Checked

/-!
# Computations with a log

A computation that notes events as it goes, and ends in a value or an error. What was noted
before an error stays noted.
-/

namespace PolicyOS.Foundation

/-- What a computation noted, and how it ended. -/
structure Logged (Event Error α : Type) where
  events : List Event
  outcome : Except Error α

namespace Logged

variable {Event Error : Type} {α β : Type}

instance : Monad (Logged Event Error) where
  pure value := ⟨[], .ok value⟩
  bind first next :=
    match first.outcome with
    | .ok value => ⟨first.events ++ (next value).events, (next value).outcome⟩
    | .error error => ⟨first.events, .error error⟩

/-- A computation that notes nothing. -/
def silent (outcome : Except Error α) : Logged Event Error α := ⟨[], outcome⟩

/-- Note one event. -/
def note (event : Event) : Logged Event Error Unit := ⟨[event], .ok ()⟩

@[simp] theorem events_pure (value : α) : (pure value : Logged Event Error α).events = [] := rfl

@[simp] theorem outcome_pure (value : α) :
    (pure value : Logged Event Error α).outcome = .ok value := rfl

@[simp] theorem events_silent (outcome : Except Error α) :
    (silent outcome : Logged Event Error α).events = [] := rfl

@[simp] theorem outcome_silent (outcome : Except Error α) :
    (silent outcome : Logged Event Error α).outcome = outcome := rfl

@[simp] theorem events_note (event : Event) :
    (note event : Logged Event Error Unit).events = [event] := rfl

@[simp] theorem outcome_note (event : Event) :
    (note event : Logged Event Error Unit).outcome = .ok () := rfl

variable {first : Logged Event Error α} {next : α → Logged Event Error β}

/-- A sequence notes what its head notes, and what its tail notes on the value of the head. -/
@[simp] theorem mem_events_bind {event : Event} :
    event ∈ (first >>= next).events ↔
      event ∈ first.events ∨ ∃ value, first.outcome = .ok value ∧ event ∈ (next value).events := by
  obtain ⟨events, outcome⟩ := first
  cases outcome <;> simp [Bind.bind]

theorem events_bind_of_ok {value : α} (ended : first.outcome = .ok value) :
    (first >>= next).events = first.events ++ (next value).events := by
  obtain ⟨events, outcome⟩ := first
  subst ended
  rfl

theorem events_bind_of_error {error : Error} (ended : first.outcome = .error error) :
    (first >>= next).events = first.events := by
  obtain ⟨events, outcome⟩ := first
  subst ended
  rfl

/-- A sequence ends in a value exactly if its head does, and its tail on that value. -/
@[simp] theorem outcome_bind_eq_ok {value : β} :
    (first >>= next).outcome = .ok value ↔
      ∃ middle, first.outcome = .ok middle ∧ (next middle).outcome = .ok value := by
  obtain ⟨events, outcome⟩ := first
  cases outcome <;> simp [Bind.bind]

/-! ### The first event -/

/-- Nothing is noted before an event. -/
def StartsWith (event : Event) (computation : Logged Event Error α) : Prop :=
  computation.events = [] ∨ ∃ later, computation.events = event :: later

theorem StartsWith.silent_bind {event : Event} {outcome : Except Error α}
    (starts : ∀ value, StartsWith event (next value)) :
    StartsWith event (silent outcome >>= next) := by
  cases outcome with
  | ok value => exact starts value
  | error => exact .inl rfl

theorem StartsWith.note_bind {event : Event} {next : Unit → Logged Event Error β} :
    StartsWith event (note event >>= next) := .inr ⟨_, rfl⟩

end Logged

end PolicyOS.Foundation
