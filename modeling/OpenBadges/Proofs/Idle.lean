import Mathlib.Data.List.Perm.Basic
import OpenBadges.Flow.Script
import OpenBadges.Proofs.Rounds

/-!
# Idle means done

The loop stops when it has read that no task is in flight and has then found the
queue empty. Between the two the tasks go on, and so it might seem that something
could slip through. Nothing does, and that hangs on two orders: the loop reads the
count before it looks into the queue, and a task puts its result into the queue
before it takes itself off the count. So a task that the count does not show has
nothing left to say, and what it had to say is in the queue by then.

`Orderly` is what holds at every moment, whatever comes between what. Its heart is
`quiet`: while the loop has read zero and dispatched nothing since, no task is on
the count, so that nothing can be put into the queue any more.
-/

namespace OpenBadges

namespace Interleaving

variable {σ α ε : Type} {conduct : Conduct α ε}

/-! ## What holds at every moment -/

/-- How many tasks have not taken themselves off the count. -/
def Config.counting (c : Config σ α ε) : Nat := c.tasks.countP TaskPhase.counts

/-- Dispatches of some actions, each over before the next begins. -/
def inTurn (as : List α) : List (Mark α) := as.flatMap fun a => [.begins a, .ends a]

namespace LoopPhase

/-- The dispatch that is not over. -/
def unfinished : LoopPhase α ε → List (Mark α)
  | dispatching a _ _ _ => [.begins a]
  | reading | draining _ _ | waiting | idle => []

/-- The loop has read that there is no task, and has dispatched nothing since. -/
def SeesNoTask : LoopPhase α ε → Prop
  | draining n b => n = 0 ∧ b = false
  | idle => True
  | reading | dispatching _ _ _ _ | waiting => False

@[simp] theorem unfinished_resumed (n : Option Int) :
    (resumed n : LoopPhase α ε).unfinished = [] := by
  cases n <;> rfl

theorem not_seesNoTask_resumed (n : Option Int) : ¬(resumed n : LoopPhase α ε).SeesNoTask := by
  cases n <;> simp [resumed, SeesNoTask]

end LoopPhase

/-- What holds of a loop that has started as `l`. -/
structure Orderly (l : ActionLoop σ α ε) (c : Config σ α ε) : Prop where
  /-- The count is right. -/
  counted : c.inFlight = c.counting
  /-- What has been queued is dispatched in this order, each once. -/
  inOrder : c.queued = c.dispatched ++ c.queue
  /-- A dispatch is over before the next begins. -/
  nested : ∃ past, c.log = inTurn past ++ c.phase.unfinished
  /-- The stores have seen these actions and no others. -/
  state : c.dispatcher = (l.dispatcher.dispatchAll c.dispatched).1
  /-- Whatever has been queued is a result that was delivered, or no result. -/
  accounted : c.queued.Perm (c.enqueued ++ c.tasks.filterMap TaskPhase.delivery?)
  /-- What was in the queue at first is no result. -/
  initial : l.queue <+: c.enqueued
  /-- If the loop sees no task, there is none. -/
  quiet : c.phase.SeesNoTask → c.counting = 0
  /-- A loop at rest has emptied the queue. -/
  emptied : c.phase = .idle → c.queue = []

/-- When the loop starts, its tasks are at work. -/
theorem working_ofLoop {l : ActionLoop σ α ε} {t : TaskPhase α ε} (h : t ∈ (Config.ofLoop l).tasks) :
    ∃ e, t = .working e := by
  obtain ⟨t', _, rfl⟩ := List.mem_map.mp h
  exact ⟨t'.work, rfl⟩

theorem orderly_ofLoop (l : ActionLoop σ α ε) : Orderly l (.ofLoop l) where
  counted := by
    have hall : (Config.ofLoop l).counting = (Config.ofLoop l).tasks.length :=
      List.countP_eq_length.mpr fun t ht => by
        obtain ⟨e, rfl⟩ := working_ofLoop ht
        rfl
    rw [hall]
    simp [Config.ofLoop, TaskPool.inFlight]
  inOrder := rfl
  nested := ⟨[], rfl⟩
  state := rfl
  accounted := by
    have hnone : (Config.ofLoop l).tasks.filterMap TaskPhase.delivery? = [] :=
      List.filterMap_eq_nil_iff.mpr fun t ht => by
        obtain ⟨e, rfl⟩ := working_ofLoop ht
        rfl
    rw [hnone, List.append_nil]
    exact .refl _
  initial := List.prefix_refl _
  quiet := fun h => h.elim
  emptied := fun h => absurd h (by simp [Config.ofLoop])

/-! ## Steps of the loop -/

variable {l : ActionLoop σ α ε} {c d : Config σ α ε}

/-- The loop goes elsewhere, without beginning or ending a dispatch. -/
theorem orderly_phase (h : Orderly l c) {phase : LoopPhase α ε}
    (hsame : phase.unfinished = c.phase.unfinished)
    (hquiet : phase.SeesNoTask → c.counting = 0) (hemptied : phase = .idle → c.queue = []) :
    Orderly l { c with phase := phase } where
  counted := h.counted
  inOrder := h.inOrder
  nested := by
    rw [hsame]
    exact h.nested
  state := h.state
  accounted := h.accounted
  initial := h.initial
  quiet := hquiet
  emptied := hemptied

theorem orderly_begin (h : Orderly l c) {a : α} {rest : List α} (n : Option Int)
    (hover : c.phase.unfinished = []) (hqueue : c.queue = a :: rest) :
    Orderly l (c.begin a rest n) := by
  have hdispatched : (c.begin a rest n).dispatched = c.dispatched ++ [a] := by
    simp [Config.begin, Config.dispatched, Mark.begun?]
  constructor
  case counted => exact h.counted
  case inOrder =>
    rw [hdispatched, List.append_assoc]
    exact h.inOrder.trans (by rw [hqueue]; rfl)
  case nested =>
    obtain ⟨past, hlog⟩ := h.nested
    rw [hover, List.append_nil] at hlog
    exact ⟨past, congrArg (· ++ [Mark.begins a]) hlog⟩
  case state =>
    rw [hdispatched, Dispatcher.dispatchAll_snoc, ← h.state]
    rfl
  case accounted => exact h.accounted
  case initial => exact h.initial
  case quiet => exact fun hsees => hsees.elim
  case emptied => exact fun hidle => absurd hidle (by simp [Config.begin])

theorem orderly_deed (h : Orderly l c) {a : α} {es : List ε} {d : Deed α ε} {ds : List (Deed α ε)}
    {n : Option Int} (hphase : c.phase = .dispatching a (d :: ds) es n) :
    Orderly l { c.perform d with phase := .dispatching a ds es n } := by
  have hsame : (LoopPhase.dispatching a ds es n).unfinished = c.phase.unfinished := by
    rw [hphase]
    rfl
  cases d with
  | start e =>
      refine ⟨?_, h.inOrder, ?_, h.state, ?_, h.initial, fun hsees => hsees.elim, by simp⟩
      · simp [Config.perform, Config.counting, TaskPhase.counts, h.counted]
      · rw [hsame]
        exact h.nested
      · simpa [Config.perform, List.filterMap_cons, TaskPhase.delivery?] using h.accounted
  | queue b =>
      refine ⟨h.counted, ?_, ?_, h.state, ?_, ?_, fun hsees => hsees.elim, by simp⟩
      · have hdispatched := congrArg (· ++ [b]) h.inOrder
        rw [List.append_assoc] at hdispatched
        exact hdispatched
      · rw [hsame]
        exact h.nested
      · -- the new action is the last of both, but for the results of tasks
        have hmore := h.accounted.append_right [b]
        have hswap : (c.tasks.filterMap TaskPhase.delivery? ++ [b]).Perm
            ([b] ++ c.tasks.filterMap TaskPhase.delivery?) := List.perm_append_comm
        rw [List.append_assoc] at hmore
        have hlast := hmore.trans (hswap.append_left c.enqueued)
        rw [← List.append_assoc] at hlast
        exact hlast
      · exact h.initial.trans (List.prefix_append _ _)

theorem orderly_done (h : Orderly l c) {a : α} {n : Option Int}
    (hphase : c.phase = .dispatching a [] [] n) :
    Orderly l { c with phase := .resumed n, log := c.log ++ [.ends a] } := by
  have hdispatched : (c.log ++ [Mark.ends a]).filterMap Mark.begun? = c.dispatched := by
    simp [Config.dispatched, Mark.begun?]
  obtain ⟨past, hlog⟩ := h.nested
  rw [hphase] at hlog
  refine ⟨h.counted, ?_, ⟨past ++ [a], ?_⟩, ?_, h.accounted, h.initial, ?_, ?_⟩
  · rw [Config.dispatched, hdispatched]
    exact h.inOrder
  · rw [hlog, LoopPhase.unfinished_resumed]
    simp [LoopPhase.unfinished, inTurn]
  · rw [Config.dispatched, hdispatched]
    exact h.state
  · exact fun hsees => absurd hsees (LoopPhase.not_seesNoTask_resumed n)
  · intro hidle
    dsimp only at hidle
    exact absurd (hidle ▸ trivial : (LoopPhase.resumed n : LoopPhase α ε).SeesNoTask)
      (LoopPhase.not_seesNoTask_resumed n)

/-! ## Steps of tasks -/

theorem counting_of_tasks {before after : List (TaskPhase α ε)} {t : TaskPhase α ε}
    (h : c.tasks = before ++ t :: after) :
    c.counting = before.countP TaskPhase.counts + after.countP TaskPhase.counts +
      if t.counts then 1 else 0 := by
  rw [Config.counting, h, List.countP_append, List.countP_cons]
  omega

/-- A task that is on the count keeps the loop from coming to rest. -/
theorem not_seesNoTask (h : Orderly l c) {before after : List (TaskPhase α ε)} {t : TaskPhase α ε}
    (htasks : c.tasks = before ++ t :: after) (ht : t.counts = true) : ¬c.phase.SeesNoTask := by
  intro hsees
  have hnone := h.quiet hsees
  rw [counting_of_tasks htasks, ht] at hnone
  simp at hnone

theorem filterMap_delivery (before after : List (TaskPhase α ε)) (t : TaskPhase α ε) :
    (before ++ t :: after).filterMap TaskPhase.delivery? =
      before.filterMap TaskPhase.delivery? ++ t.delivery?.toList ++
        after.filterMap TaskPhase.delivery? := by
  rw [List.filterMap_append, List.filterMap_cons, List.append_assoc]
  cases t.delivery? <;> rfl

/-- **A task takes itself off the count when it has delivered, and no sooner.** -/
theorem orderly_task (h : Orderly l c) {before after : List (TaskPhase α ε)} {t : TaskPhase α ε}
    (t' : TaskPhase α ε) (sent : List α) (off : Int) (htasks : c.tasks = before ++ t :: after)
    (ht : t.counts = true)
    (hsent : t'.delivery?.toList = t.delivery?.toList ++ sent)
    (hoff : off = if t'.counts then 0 else 1) :
    Orderly l { c with
      tasks := before ++ t' :: after
      inFlight := c.inFlight - off
      queue := c.queue ++ sent
      queued := c.queued ++ sent } := by
  have hbusy := not_seesNoTask h htasks ht
  constructor
  case counted =>
    have hbefore := counting_of_tasks htasks
    have hafter := counting_of_tasks (c := { c with tasks := before ++ t' :: after }) rfl
    have hcount := h.counted
    rw [ht, if_pos rfl] at hbefore
    dsimp only [Config.counting] at hbefore hafter hcount ⊢
    rw [hafter, hcount, hbefore, hoff]
    split <;> simp
  case inOrder =>
    have hqueued := congrArg (· ++ sent) h.inOrder
    rw [List.append_assoc] at hqueued
    exact hqueued
  case nested => exact h.nested
  case state => exact h.state
  case accounted =>
    have hqueued := h.accounted
    rw [htasks, filterMap_delivery] at hqueued
    dsimp only
    rw [filterMap_delivery, hsent]
    -- what is sent is the last in the queue, and goes to its task in the middle
    have hmove : (after.filterMap TaskPhase.delivery? ++ sent).Perm
        (sent ++ after.filterMap TaskPhase.delivery?) := List.perm_append_comm
    refine (hqueued.append_right sent).trans ?_
    simp only [List.append_assoc]
    exact (((hmove.append_left _).append_left _).append_left _)
  case initial => exact h.initial
  case quiet => exact fun hsees => absurd hsees hbusy
  case emptied =>
    intro hidle
    have hphase : c.phase = .idle := hidle
    rw [hphase] at hbusy
    exact absurd trivial hbusy

/-! ## Whole runs -/

/-- **Preserved by every step.** -/
theorem orderly_step (h : Orderly l c) (hs : Step conduct c d) : Orderly l d := by
  cases hs with
  | read hphase =>
      refine orderly_phase h (by rw [hphase]; rfl) (fun hsees => ?_) (by simp)
      have hcount := h.counted
      rw [hsees.1] at hcount
      exact_mod_cast hcount.symm
  | take hphase hqueue => exact orderly_begin h _ (by rw [hphase]; rfl) hqueue
  | again hphase hqueue => exact orderly_phase h (by rw [hphase]; rfl) False.elim (by simp)
  | finish hphase hqueue =>
      refine orderly_phase h (by rw [hphase]; rfl) (fun _ => h.quiet ?_) fun _ => hqueue
      rw [hphase]
      exact ⟨rfl, rfl⟩
  | wait hphase hqueue hcount => exact orderly_phase h (by rw [hphase]; rfl) False.elim (by simp)
  | receive hphase hqueue => exact orderly_begin h _ (by rw [hphase]; rfl) hqueue
  | timeout hphase => exact orderly_phase h (by rw [hphase]; rfl) False.elim (by simp)
  | handOut hphase hhandles => exact orderly_phase h (by rw [hphase]; rfl) False.elim (by simp)
  | deed hphase => exact orderly_deed h hphase
  | done hphase => exact orderly_done h hphase
  | @resolve e a before after htasks hanswer =>
      simpa using orderly_task h (.holding a) [] 0 htasks rfl rfl rfl
  | @deliver a before after htasks =>
      simpa [Config.enqueue] using orderly_task h (.delivered a) [a] 0 htasks rfl rfl rfl
  | @leave a before after htasks => simpa using orderly_task h (.gone a) [] 1 htasks rfl rfl rfl
  | breakDown htasks => simpa using orderly_task h .broken [] 1 htasks rfl rfl rfl

theorem orderly_steps (h : Steps conduct (.ofLoop l) c) : Orderly l c := by
  induction h with
  | refl => exact orderly_ofLoop l
  | tail _ hs ih => exact orderly_step ih hs

/-- A task that is off the count has put into the queue what it has come to. -/
theorem result?_eq_delivery? {t : TaskPhase α ε} (h : t.counts = false) : t.result? = t.delivery? := by
  cases t with
  | working e => exact absurd h (by simp [TaskPhase.counts])
  | holding a => exact absurd h (by simp [TaskPhase.counts])
  | delivered a => rfl
  | gone a => rfl
  | broken => rfl

/--
**Idle means done.**

However the steps of the loop and of its tasks come between one another, the count
is that of the tasks that have not taken themselves off it, and what is queued is
dispatched once, in order, one dispatch after another. When the loop comes to rest
the queue is empty, no task is on the count, and everything has been dispatched that
was in the queue at first or was put there since, and everything that a task has
come to.
-/
theorem done_of_idle (h : Steps conduct (.ofLoop l) c) :
    c.inFlight = c.counting ∧
    c.queued = c.dispatched ++ c.queue ∧
    (∃ past, c.log = inTurn past ++ c.phase.unfinished) ∧
    c.dispatcher = (l.dispatcher.dispatchAll c.dispatched).1 ∧
    (c.phase = .idle →
      c.queue = [] ∧ (∀ t ∈ c.tasks, t.counts = false) ∧ l.queue <+: c.enqueued ∧
        c.dispatched.Perm (c.enqueued ++ c.tasks.filterMap TaskPhase.result?)) := by
  have horderly := orderly_steps h
  refine ⟨horderly.counted, horderly.inOrder, horderly.nested, horderly.state, fun hidle => ?_⟩
  have hqueue := horderly.emptied hidle
  have hnone : ∀ t ∈ c.tasks, t.counts = false := by
    have hcounting := horderly.quiet (by rw [hidle]; trivial)
    intro t ht
    exact Bool.eq_false_iff.mpr (List.countP_eq_zero.mp hcounting t ht)
  have hresults : c.tasks.filterMap TaskPhase.result? = c.tasks.filterMap TaskPhase.delivery? :=
    List.filterMap_congr fun t ht => result?_eq_delivery? (hnone t ht)
  have hall : c.queued = c.dispatched := by
    rw [horderly.inOrder, hqueue, List.append_nil]
  refine ⟨hqueue, hnone, horderly.initial, ?_⟩
  rw [hresults, ← hall]
  exact horderly.accounted

/-- A loop in which one action asks for two things at once. -/
def askingTwice : ActionLoop Unit String String :=
  { Script.loop ((∅ : Dict (Outcome String)).insert "ask" { effects := ["one", "two"] }) with
    queue := ["ask"] }

/-- It comes to rest when both answers have been dispatched. -/
theorem done_of_idle_askingTwice :
    ∃ c, Steps (conductOf Script.perform) (.ofLoop askingTwice) c ∧ c.phase = .idle ∧
      c.dispatched = ["ask", "one", "two"] ∧ c.inFlight = c.counting ∧ c.queue = [] ∧
      (∀ t ∈ c.tasks, t.counts = false) ∧
      c.dispatched.Perm (c.enqueued ++ c.tasks.filterMap TaskPhase.result?) := by
  have hworks : askingTwice.tasks = .ungated [] := rfl
  obtain ⟨c, hsteps, hidle, _, _, hdispatched⟩ :=
    exists_steps_run Script.perform hworks 2 () rfl rfl
  obtain ⟨hcount, _, _, _, hrest⟩ := done_of_idle hsteps
  obtain ⟨hqueue, hnone, _, hall⟩ := hrest hidle
  exact ⟨c, hsteps, hidle, hdispatched, hcount, hqueue, hnone, hall⟩

end Interleaving

end OpenBadges
