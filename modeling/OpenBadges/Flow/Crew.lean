/-!
# Mailboxes and tasks

What runs beside the application: tasks that finish at their turns, and mailboxes
for what they send.
-/

namespace OpenBadges

/-!
## Mailboxes

A queue with many senders and one reader. The reader may leave; nothing that is
sent after that arrives.
-/

/-- What waits for a reader, first the oldest. -/
structure Mailbox (α : Type) where
  /-- Whether there still is a reader. -/
  live : Bool := true
  /-- What has not been read. -/
  waiting : List α := []
deriving DecidableEq, Repr

namespace Mailbox

variable {α : Type}

/-- The mailbox with one thing more. -/
def deliver (m : Mailbox α) (a : α) : Mailbox α :=
  if m.live then { m with waiting := m.waiting ++ [a] } else m

/-- The mailbox with several things more. -/
def deliverAll (m : Mailbox α) (as : List α) : Mailbox α := as.foldl deliver m

/-- The mailbox when all has been read. -/
def emptied (m : Mailbox α) : Mailbox α := { m with waiting := [] }

/-- The mailbox when its reader has left. -/
def closed (_ : Mailbox α) : Mailbox α := { live := false }

end Mailbox

/-!
## Tasks in flight

A task is some work that finishes at its turn. Tasks take their turns in the
order in which they became ready. A task may be held back by a gate of some
name: a turn that comes while the gate is shut is lost, and the task becomes
ready again when the gate opens. Nothing cancels a task.
-/

/-- Work to finish, and the gate that holds it back. -/
structure Task (ω : Type) where
  work : ω
  /-- The name of the shut gate, if there is one. -/
  gate : Option String := none
deriving DecidableEq, Repr

/-- The tasks that have not finished. -/
structure TaskPool (ω : Type) where
  /-- The tasks that wait for their turn, in order. -/
  ready : List (Task ω) := []
  /-- The tasks that lost their turn and wait for their gate. -/
  parked : List (Task ω) := []
deriving DecidableEq, Repr

namespace TaskPool

variable {ω : Type}

/-- The number of tasks that have not finished. -/
def inFlight (p : TaskPool ω) : Nat := p.ready.length + p.parked.length

/-- Whether every task has finished. -/
def isIdle (p : TaskPool ω) : Bool := p.inFlight = 0

def spawn (p : TaskPool ω) (work : ω) : TaskPool ω := { p with ready := p.ready ++ [{ work := work }] }

def spawnAll (p : TaskPool ω) (works : List ω) : TaskPool ω := works.foldl spawn p

/-- Whether the gate holds a task back. -/
def holds (gate : String) (t : Task ω) : Bool := t.gate = some gate

/-- Whether some task waits behind the gate. -/
def hasGate (p : TaskPool ω) (gate : String) : Bool :=
  p.ready.any (holds gate) || p.parked.any (holds gate)

/-- The task with its gate open. -/
def freed (t : Task ω) : Task ω := { t with gate := none }

/-- The tasks that wait for their turn once the gate is open; none gives up its place. -/
def readyWithout (p : TaskPool ω) (gate : String) : List (Task ω) :=
  p.ready.map fun t => if holds gate t then freed t else t

/-- The tasks that the gate alone kept from becoming ready again. -/
def wokenBy (p : TaskPool ω) (gate : String) : List (Task ω) :=
  (p.parked.filter (holds gate)).map freed

/-- The tasks that stay parked when the gate opens. -/
def parkedWithout (p : TaskPool ω) (gate : String) : List (Task ω) :=
  p.parked.filter fun t => !holds gate t

def release (p : TaskPool ω) (gate : String) : TaskPool ω :=
  ⟨p.readyWithout gate ++ p.wokenBy gate, p.parkedWithout gate⟩

/-- Starts a task behind a gate; a gate that had this name before opens first. -/
def spawnHeld (p : TaskPool ω) (gate : String) (work : ω) : TaskPool ω :=
  { p.release gate with ready := (p.release gate).ready ++ [{ work := work, gate := some gate }] }

/-- Gives every ready task its turn; also the finished work, in order. -/
def advance (p : TaskPool ω) : List ω × TaskPool ω :=
  ((p.ready.filter fun t => t.gate.isNone).map Task.work,
    ⟨[], p.parked ++ p.ready.filter fun t => t.gate.isSome⟩)

end TaskPool

/-!
## Tasks that report

Tasks whose results go to one mailbox, in the order in which the tasks finish.
A task runs to its end whether or not anybody is left to read the result.
-/

/-- Tasks and the mailbox for their results. -/
structure Crew (α : Type) where
  /-- The tasks that have not finished. -/
  tasks : TaskPool α := {}
  results : Mailbox α := {}

namespace Crew

variable {α : Type}

/-- Lets every task that can finish do so. -/
def advance (c : Crew α) : Crew α :=
  let (finished, tasks) := c.tasks.advance
  ⟨tasks, c.results.deliverAll finished⟩

/-- Puts something into the mailbox without a task. -/
def send (c : Crew α) (a : α) : Crew α := { c with results := c.results.deliver a }

/-- The crew when all results have been read. -/
def emptied (c : Crew α) : Crew α := { c with results := c.results.emptied }

/-- The crew when nobody reads its results any more. -/
def closed (c : Crew α) : Crew α := { c with results := c.results.closed }

end Crew

end OpenBadges
