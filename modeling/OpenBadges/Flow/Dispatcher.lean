import OpenBadges.Flow.Outcome
import OpenBadges.Flow.Wiring

/-!
# Dispatching actions

A dispatcher holds the state and the wiring of the stores. Dispatching an action
runs every handler once, in the run order of the wiring; each sees the state as
the one before it left it.
-/

namespace OpenBadges

/-- What a store does with an action: the state after it, and the outcome. -/
abbrev Handler (σ α ε : Type) := σ → α → σ × Outcome ε

variable {σ α ε : Type}

/-- Runs handlers one after another. -/
def Handler.runAll : List (Handler σ α ε) → Handler σ α ε
  | [], s, _ => (s, .unchanged)
  | h :: hs, s, a =>
    let (s₁, o₁) := h s a
    let (s₂, o₂) := runAll hs s₁ a
    (s₂, o₁ ++ o₂)

/-- The state of an application and the stores that handle its actions. -/
structure Dispatcher (σ α ε : Type) where
  /-- The state of all stores. -/
  state : σ
  /-- The stores and the order they run in. -/
  wiring : Wiring (Handler σ α ε) := {}

namespace Dispatcher

/-- Runs every handler for an action. -/
def dispatch (d : Dispatcher σ α ε) (a : α) : Dispatcher σ α ε × Outcome ε :=
  let (s, o) := Handler.runAll d.wiring.handlers d.state a
  ({ d with state := s }, o)

/-- Dispatches actions one after another. -/
def dispatchAll (d : Dispatcher σ α ε) : List α → Dispatcher σ α ε × Outcome ε
  | [] => (d, .unchanged)
  | a :: as =>
    let (d, o) := d.dispatch a
    let (d, os) := dispatchAll d as
    (d, o ++ os)

@[simp] theorem dispatchAll_singleton (d : Dispatcher σ α ε) (a : α) :
    d.dispatchAll [a] = d.dispatch a := by
  simp [dispatchAll]

theorem dispatchAll_append (as bs : List α) : ∀ d : Dispatcher σ α ε,
    d.dispatchAll (as ++ bs) =
      (((d.dispatchAll as).1.dispatchAll bs).1,
        (d.dispatchAll as).2 ++ ((d.dispatchAll as).1.dispatchAll bs).2) := by
  induction as with
  | nil =>
    intro d
    simp [dispatchAll]
  | cons a as ih =>
    intro d
    simp only [List.cons_append, dispatchAll, ih (d.dispatch a).1, Outcome.append_assoc]

theorem dispatchAll_snoc (as : List α) (a : α) (d : Dispatcher σ α ε) :
    d.dispatchAll (as ++ [a]) =
      (((d.dispatchAll as).1.dispatch a).1,
        (d.dispatchAll as).2 ++ ((d.dispatchAll as).1.dispatch a).2) := by
  rw [dispatchAll_append, dispatchAll_singleton]

end Dispatcher

end OpenBadges
