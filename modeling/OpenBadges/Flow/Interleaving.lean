import OpenBadges.Flow.ActionLoop

/-!
# The loop beside its tasks

`ActionLoop.run` gives every task its turn when the queue is empty. Here the tasks
run beside the loop, and their steps may come between any two steps of it, also in
the middle of a dispatch, when some of its effects have been handled and others
have not.

The loop goes around as follows. It reads the count of tasks in flight, dispatches
all that is queued, and goes around again if that was anything. Otherwise it has
finished if the count that it read was zero, and if not it waits: for an action,
which it then dispatches, or for some time.

A task that has come to a result puts it into the queue and then, as a step of its
own, takes itself off the count. A task may also break down; it leaves no result
and is off the count as well.

What is done about an effect and what a task comes to is not for the loop to
decide; it is the `Conduct` of the world around it.
-/

namespace OpenBadges.Interleaving

variable {σ α ε : Type}

/-! ## Tasks and the handler of effects -/

/-- How far a task has come. -/
inductive TaskPhase (α ε : Type) where
  /-- It carries an effect out. -/
  | working (effect : ε)
  /-- It has come to a result, which is not in the queue yet. -/
  | holding (result : α)
  /-- Its result is in the queue. -/
  | delivered (result : α)
  /-- It has taken itself off the count. -/
  | gone (result : α)
  /-- It broke down, and is off the count. -/
  | broken

namespace TaskPhase

/-- Whether the task is on the count of those in flight. -/
def counts : TaskPhase α ε → Bool
  | working _ | holding _ | delivered _ => true
  | gone _ | broken => false

/-- What the task has come to. -/
def result? : TaskPhase α ε → Option α
  | holding a | delivered a | gone a => some a
  | working _ | broken => none

/-- What the task has put into the queue. -/
def delivery? : TaskPhase α ε → Option α
  | delivered a | gone a => some a
  | working _ | holding _ | broken => none

end TaskPhase

/-- One thing that is done about an effect. -/
inductive Deed (α ε : Type) where
  /-- A task starts, which is to carry an effect out. -/
  | start (effect : ε)
  /-- An action goes straight into the queue. -/
  | queue (action : α)

/-- What effects lead to. -/
structure Conduct (α ε : Type) where
  /-- What may be done about an effect, one deed after another. -/
  handles : ε → List (Deed α ε) → Prop
  /-- What a task that carries an effect out may come to. -/
  answers : ε → α → Prop

/-! ## Configurations -/

/-- Where the loop is. -/
inductive LoopPhase (α ε : Type) where
  /-- About to read the count. -/
  | reading
  /-- Between two dispatches, with the count that was read and whether anything was dispatched
  since. -/
  | draining (count : Int) (dispatched : Bool)
  /-- In the middle of a dispatch, with what is left to do about one effect and the effects after
  it. The loop goes on draining if it has a count to go on with. -/
  | dispatching (action : α) (deeds : List (Deed α ε)) (effects : List ε) (count : Option Int)
  /-- Waiting for an action or for the end of a short time. -/
  | waiting
  | idle

/-- Where the loop is when a dispatch is over. -/
def LoopPhase.resumed : Option Int → LoopPhase α ε
  | some n => draining n true
  | none => reading

/-- Something to note about a dispatch. -/
inductive Mark (α : Type) where
  | begins (action : α)
  | ends (action : α)

/-- The action whose dispatch begins here. -/
def Mark.begun? : Mark α → Option α
  | begins a => some a
  | ends _ => none

/-- The loop, the queue and the tasks at one moment, and what has happened until then. -/
structure Config (σ α ε : Type) where
  dispatcher : Dispatcher σ α ε
  audience : Audience
  /-- The actions that are queued, first the next. -/
  queue : List α
  /-- The count of tasks in flight. -/
  inFlight : Int
  /-- All tasks that were ever started, in order. -/
  tasks : List (TaskPhase α ε)
  phase : LoopPhase α ε := .reading
  /-- Every action that was ever in the queue, in order. -/
  queued : List α
  /-- Those of them that are not the result of a task. -/
  enqueued : List α
  /-- Where dispatches began and ended. -/
  log : List (Mark α) := []

namespace Config

/-- A loop that starts to run. -/
def ofLoop (l : ActionLoop σ α ε) : Config σ α ε where
  dispatcher := l.dispatcher
  audience := l.audience
  queue := l.queue
  inFlight := l.tasks.inFlight
  tasks := (l.tasks.ready ++ l.tasks.parked).map fun t => .working t.work
  queued := l.queue
  enqueued := l.queue

/-- The actions that were dispatched, in order, with the one that is being dispatched. -/
def dispatched (c : Config σ α ε) : List α := c.log.filterMap Mark.begun?

/-- Puts an action at the end of the queue. -/
def enqueue (c : Config σ α ε) (a : α) : Config σ α ε :=
  { c with queue := c.queue ++ [a], queued := c.queued ++ [a] }

/-- Runs the handlers of an action, with `rest` left in the queue, and emits the events. -/
def begin (c : Config σ α ε) (a : α) (rest : List α) (count : Option Int) : Config σ α ε :=
  let (d, o) := c.dispatcher.dispatch a
  { c with
    dispatcher := d
    audience := c.audience.emitAll o.events
    queue := rest
    phase := .dispatching a [] o.effects count
    log := c.log ++ [.begins a] }

/-- Does one thing about an effect. -/
def perform (c : Config σ α ε) : Deed α ε → Config σ α ε
  | .start e => { c with tasks := c.tasks ++ [.working e], inFlight := c.inFlight + 1 }
  | .queue a => { c.enqueue a with enqueued := c.enqueued ++ [a] }

end Config

/-! ## Steps -/

/-- One step of the loop or of a task. -/
inductive Step (conduct : Conduct α ε) : Config σ α ε → Config σ α ε → Prop where
  /-- The loop reads the count. -/
  | read {c : Config σ α ε} :
      c.phase = .reading → Step conduct c { c with phase := .draining c.inFlight false }
  /-- The loop begins to dispatch a queued action. -/
  | take {c : Config σ α ε} {n : Int} {b : Bool} {a : α} {rest : List α} :
      c.phase = .draining n b → c.queue = a :: rest → Step conduct c (c.begin a rest (some n))
  /-- The loop has dispatched something and goes around. -/
  | again {c : Config σ α ε} {n : Int} :
      c.phase = .draining n true → c.queue = [] → Step conduct c { c with phase := .reading }
  /-- There was nothing to dispatch and no task when the loop looked. -/
  | finish {c : Config σ α ε} :
      c.phase = .draining 0 false → c.queue = [] → Step conduct c { c with phase := .idle }
  /-- There was nothing to dispatch, but there were tasks when the loop looked. -/
  | wait {c : Config σ α ε} {n : Int} :
      c.phase = .draining n false → c.queue = [] → n ≠ 0 →
      Step conduct c { c with phase := .waiting }
  /-- An action arrives while the loop waits. -/
  | receive {c : Config σ α ε} {a : α} {rest : List α} :
      c.phase = .waiting → c.queue = a :: rest → Step conduct c (c.begin a rest none)
  /-- The loop has waited long enough. -/
  | timeout {c : Config σ α ε} :
      c.phase = .waiting → Step conduct c { c with phase := .reading }
  /-- The next effect of the dispatch is handed out. -/
  | handOut {c : Config σ α ε} {a : α} {e : ε} {es : List ε} {ds : List (Deed α ε)}
      {n : Option Int} :
      c.phase = .dispatching a [] (e :: es) n → conduct.handles e ds →
      Step conduct c { c with phase := .dispatching a ds es n }
  /-- One thing is done about it. -/
  | deed {c : Config σ α ε} {a : α} {es : List ε} {d : Deed α ε} {ds : List (Deed α ε)}
      {n : Option Int} :
      c.phase = .dispatching a (d :: ds) es n →
      Step conduct c { c.perform d with phase := .dispatching a ds es n }
  /-- The dispatch is over. -/
  | done {c : Config σ α ε} {a : α} {n : Option Int} :
      c.phase = .dispatching a [] [] n →
      Step conduct c { c with phase := .resumed n, log := c.log ++ [.ends a] }
  /-- A task comes to a result. -/
  | resolve {c : Config σ α ε} {e : ε} {a : α} {before after : List (TaskPhase α ε)} :
      c.tasks = before ++ .working e :: after → conduct.answers e a →
      Step conduct c { c with tasks := before ++ .holding a :: after }
  /-- A task puts its result into the queue. -/
  | deliver {c : Config σ α ε} {a : α} {before after : List (TaskPhase α ε)} :
      c.tasks = before ++ TaskPhase.holding a :: after →
      Step conduct c ({ c with tasks := before ++ TaskPhase.delivered a :: after }.enqueue a)
  /-- A task that has delivered takes itself off the count. -/
  | leave {c : Config σ α ε} {a : α} {before after : List (TaskPhase α ε)} :
      c.tasks = before ++ .delivered a :: after →
      Step conduct c
        { c with tasks := before ++ .gone a :: after, inFlight := c.inFlight - 1 }
  | breakDown {c : Config σ α ε} {e : ε} {before after : List (TaskPhase α ε)} :
      c.tasks = before ++ .working e :: after →
      Step conduct c { c with tasks := before ++ .broken :: after, inFlight := c.inFlight - 1 }

/-- Any number of steps. -/
inductive Steps (conduct : Conduct α ε) : Config σ α ε → Config σ α ε → Prop where
  | refl {c : Config σ α ε} : Steps conduct c c
  | tail {c d e : Config σ α ε} : Steps conduct c d → Step conduct d e → Steps conduct c e

/-- First some steps and then some more. -/
theorem Steps.trans {conduct : Conduct α ε} {c d e : Config σ α ε} (h : Steps conduct c d)
    (h' : Steps conduct d e) : Steps conduct c e := by
  induction h' with
  | refl => exact h
  | tail _ hstep ih => exact ih.tail hstep

end OpenBadges.Interleaving
