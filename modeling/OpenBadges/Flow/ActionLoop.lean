import OpenBadges.Flow.Audience
import OpenBadges.Flow.Crew
import OpenBadges.Flow.Dispatcher

/-!
# The action loop

Actions wait in one queue and are dispatched one at a time, first in, first out.
The events of a dispatch go to the audience; each of its effects becomes a task,
and what the task comes to is an action at the end of the queue. So dispatches
never nest.

The loop is idle when the queue is empty and no task is left. It gets there in
*rounds*: a round dispatches all that is queued and then finishes all tasks.
-/

namespace OpenBadges

/-- An action that was dispatched, and what came of it. -/
structure Handled (α ε : Type) where
  action : α
  /-- What handling it led to. -/
  outcome : Outcome ε

/-- A dispatcher, its audience, and the work to do. -/
structure ActionLoop (σ α ε : Type) where
  dispatcher : Dispatcher σ α ε
  audience : Audience := {}
  /-- The actions to dispatch, first the next. -/
  queue : List α := []
  tasks : TaskPool ε := {}

/-- Carries an effect out in a world, which may change. The result is an action. -/
abbrev Performer (ω ε α : Type) := ω → ε → α × ω

/-- Carries several effects out, one after another. -/
def Performer.performAll {ω ε α : Type} (perform : Performer ω ε α) : ω → List ε → List α × ω
  | world, [] => ([], world)
  | world, e :: es =>
    let (a, world) := perform world e
    let (as, world) := performAll perform world es
    (a :: as, world)

namespace ActionLoop

variable {σ α ε ω : Type}

/-- Puts an action at the end of the queue. -/
def enqueue (l : ActionLoop σ α ε) (a : α) : ActionLoop σ α ε := { l with queue := l.queue ++ [a] }

/-- Dispatches an action out of turn. -/
def process (l : ActionLoop σ α ε) (a : α) : Handled α ε × ActionLoop σ α ε :=
  let (d, o) := l.dispatcher.dispatch a
  (⟨a, o⟩, { l with
    dispatcher := d
    audience := l.audience.emitAll o.events
    tasks := l.tasks.spawnAll o.effects })

/-- Dispatches actions one after another. -/
def processAll (l : ActionLoop σ α ε) : List α → List (Handled α ε) × ActionLoop σ α ε
  | [] => ([], l)
  | a :: as =>
    let (h, l) := l.process a
    let (hs, l) := processAll l as
    (h :: hs, l)

/-- Dispatches all that is queued. -/
def drain (l : ActionLoop σ α ε) : List (Handled α ε) × ActionLoop σ α ε :=
  { l with queue := [] }.processAll l.queue

def finishTasks (l : ActionLoop σ α ε) (perform : Performer ω ε α) (world : ω) :
    ω × ActionLoop σ α ε :=
  let (effects, tasks) := l.tasks.advance
  let (actions, world) := perform.performAll world effects
  (world, { l with tasks := tasks, queue := l.queue ++ actions })

/-- What a run of the loop leaves behind. -/
structure Run (σ α ε ω : Type) where
  /-- The actions that were dispatched. -/
  handled : List (Handled α ε)
  /-- The world in which the effects were carried out. -/
  world : ω
  loop : ActionLoop σ α ε

/-- The events that a run emitted. -/
def Run.events (r : Run σ α ε ω) : List EventName := r.handled.flatMap (·.outcome.events)

/-- Runs until the loop is idle, or for the given number of rounds. -/
def run (perform : Performer ω ε α) :
    (rounds : Nat) → ω → ActionLoop σ α ε → Run σ α ε ω
  | 0, world, l => ⟨[], world, l⟩
  | rounds + 1, world, l =>
    let (handled, l) := l.drain
    let (world, l) := l.finishTasks perform world
    if l.queue.isEmpty then ⟨handled, world, l⟩
    else
      let rest := run perform rounds world l
      { rest with handled := handled ++ rest.handled }

end ActionLoop

end OpenBadges
