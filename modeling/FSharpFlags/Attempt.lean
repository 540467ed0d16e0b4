import FSharpFlags.Event
import FSharpFlags.Failure

/-!
# Attempts

The result of an operation that may fail, together with the events on the way to it. Events are
only ever added at the end and outlive a failure, so the events of a sequence of attempts are the
concatenation of theirs, up to the first one that fails.
-/

namespace FSharpFlags

theorem bind_eq_ok_iff {ε α β : Type} {x : Except ε α} {f : α → Except ε β} {b : β} :
    x >>= f = .ok b ↔ ∃ a, x = .ok a ∧ f a = .ok b := by
  cases x <;> simp [bind, Except.bind]

/-- An outcome and the events on the way to it. -/
structure Attempt (α : Type) where
  /-- The result or the reason why there is none. -/
  outcome : Except Failure α
  /-- What happened, in order. -/
  events : List Event

namespace Attempt

variable {α β γ : Type}

/-- Continues a successful attempt. -/
def bind (x : Attempt α) (f : α → Attempt β) : Attempt β :=
  match x.outcome with
  | .error failure => ⟨.error failure, x.events⟩
  | .ok a => ⟨(f a).outcome, x.events ++ (f a).events⟩

instance : Monad Attempt where
  pure a := ⟨.ok a, []⟩
  bind := bind

/-- Notes an event. -/
def note (e : Event) : Attempt Unit := ⟨.ok (), [e]⟩

/-- An outcome without events. -/
def ofExcept (outcome : Except Failure α) : Attempt α := ⟨outcome, []⟩

instance : MonadLift (Except Failure) Attempt where
  monadLift := ofExcept

@[ext] theorem ext {x y : Attempt α} (outcome : x.outcome = y.outcome)
    (events : x.events = y.events) : x = y := by
  cases x
  cases y
  simp_all

@[simp] theorem outcome_pure (a : α) : (pure a : Attempt α).outcome = .ok a := rfl

@[simp] theorem events_pure (a : α) : (pure a : Attempt α).events = [] := rfl

@[simp] theorem outcome_note (e : Event) : (note e).outcome = .ok () := rfl

@[simp] theorem events_note (e : Event) : (note e).events = [e] := rfl

@[simp] theorem outcome_ofExcept (x : Except Failure α) : (ofExcept x).outcome = x := rfl

@[simp] theorem events_ofExcept (x : Except Failure α) : (ofExcept x).events = [] := rfl

@[simp] theorem outcome_bind (x : Attempt α) (f : α → Attempt β) :
    (x >>= f).outcome = x.outcome.bind fun a ↦ (f a).outcome := by
  show (bind x f).outcome = _
  unfold bind
  cases x.outcome <;> rfl

theorem bind_of_ok {x : Attempt α} {a : α} (h : x.outcome = .ok a) (f : α → Attempt β) :
    x >>= f = ⟨(f a).outcome, x.events ++ (f a).events⟩ := by
  show bind x f = _
  simp [bind, h]

theorem bind_of_error {x : Attempt α} {failure : Failure} (h : x.outcome = .error failure)
    (f : α → Attempt β) : x >>= f = ⟨.error failure, x.events⟩ := by
  show bind x f = _
  simp [bind, h]

theorem outcome_bind_eq_ok_iff {x : Attempt α} {f : α → Attempt β} {b : β} :
    (x >>= f).outcome = .ok b ↔ ∃ a, x.outcome = .ok a ∧ (f a).outcome = .ok b := by
  rw [outcome_bind]
  cases x.outcome <;> simp [Except.bind]

theorem events_bind_of_ok {x : Attempt α} {a : α} (h : x.outcome = .ok a) (f : α → Attempt β) :
    (x >>= f).events = x.events ++ (f a).events := by
  rw [bind_of_ok h]

instance : LawfulMonad Attempt := LawfulMonad.mk' Attempt
  (by
    intro α x
    show bind x _ = x
    rcases x with ⟨_ | a, es⟩ <;> simp [bind])
  (by
    intro α β x f
    show bind ⟨.ok x, []⟩ f = f x
    simp [bind])
  (by
    intro α β γ x f g
    show bind (bind x f) g = bind x fun a ↦ bind (f a) g
    rcases x with ⟨_ | a, es⟩
    · rfl
    · cases h : (f a).outcome <;> simp [bind, h])

end Attempt

end FSharpFlags
