import Mathlib.Algebra.Order.Ring.Int
import OpenBadges.Flow.Interleaving

/-!
# A run in rounds is one of the interleavings

`ActionLoop.run` goes about its work in rounds: it dispatches all that is queued,
then lets every task finish, one after another, and starts again. Beside a loop
that its tasks may interrupt anywhere, this is just one way for things to go. It is
a possible one, which is shown here: whatever a run does can be done in steps, and
if it leaves nothing to do the loop comes to rest in the same state
(`exists_steps_run`).

So what holds however the steps of the loop and of its tasks interleave holds of a
run in rounds too.
-/

namespace OpenBadges

/-! ## Tasks that nothing holds back -/

namespace TaskPool

variable {ω : Type}

/-- Tasks that wait for nothing but their turn. -/
def ungated (works : List ω) : TaskPool ω := ⟨works.map fun w => { work := w }, []⟩

theorem spawnAll_ungated (works new : List ω) :
    (ungated works).spawnAll new = ungated (works ++ new) := by
  induction new generalizing works with
  | nil => simp [spawnAll]
  | cons w new ih =>
    have hspawn : (ungated works).spawn w = ungated (works ++ [w]) := by simp [spawn, ungated]
    have hrest := ih (works ++ [w])
    rw [List.append_assoc] at hrest
    rw [spawnAll, List.foldl_cons, hspawn]
    exact hrest

theorem advance_ungated (works : List ω) : (ungated works).advance = (works, ungated []) := by
  have hall : (works.map fun w => ({ work := w } : Task ω)).filter (·.gate.isNone) =
      works.map fun w => { work := w } := List.filter_eq_self.mpr (by simp)
  have hnone : (works.map fun w => ({ work := w } : Task ω)).filter (·.gate.isSome) = [] :=
    List.filter_eq_nil_iff.mpr (by simp)
  have hback : (works.map fun w => ({ work := w } : Task ω)).map Task.work = works := by
    simp [Function.comp_def]
  simp only [advance, ungated, hall, hnone, hback, List.append_nil, List.map_nil]

@[simp] theorem inFlight_ungated (works : List ω) : (ungated works).inFlight = works.length := by
  simp [ungated, inFlight]

end TaskPool

namespace Interleaving

variable {σ α ε ω : Type}

/-- Each effect becomes a task, which comes to what the performer makes of it in some world. -/
def conductOf (perform : Performer ω ε α) : Conduct α ε where
  handles e ds := ds = [.start e]
  answers e a := ∃ world, (perform world e).1 = a

variable (perform : Performer ω ε α)

/-! ## One dispatch -/

/-- The effects of a dispatch become tasks one after another, and then it is over. -/
theorem steps_handOut (a : α) (n : Option Int) (es : List ε) : ∀ c : Config σ α ε,
    c.phase = .dispatching a [] es n →
    Steps (conductOf perform) c
      { c with
        tasks := c.tasks ++ es.map .working
        inFlight := c.inFlight + es.length
        phase := .resumed n
        log := c.log ++ [.ends a] } := by
  induction es with
  | nil =>
    intro c hphase
    have hdone : Steps (conductOf perform) c _ := Steps.refl.tail (.done hphase)
    simpa using hdone
  | cons e es ih =>
    intro c hphase
    let handed : Config σ α ε := { c with phase := .dispatching a [.start e] es n }
    let started : Config σ α ε :=
      { handed.perform (.start e) with phase := .dispatching a [] es n }
    have hstarted : Steps (conductOf perform) c started :=
      (Steps.refl.tail (.handOut hphase rfl)).tail (.deed (c := handed) rfl)
    have hrest := hstarted.trans (ih started rfl)
    have htasks : started.tasks ++ es.map .working = c.tasks ++ (e :: es).map .working := by
      simp [started, handed, Config.perform]
    have hcount : started.inFlight + es.length = c.inFlight + (e :: es).length := by
      simp only [started, handed, Config.perform, List.length_cons, Nat.cast_succ]
      omega
    rw [htasks, hcount] at hrest
    exact hrest

/-! ## A loop and the configurations that show it -/

/-- What a loop works with is what is found in the configuration. -/
structure Shows (c : Config σ α ε) (l : ActionLoop σ α ε) : Prop where
  dispatcher : c.dispatcher = l.dispatcher
  audience : c.audience = l.audience
  queue : c.queue = l.queue
  /-- The tasks of the loop are the last that were started, and those before them have left. -/
  tasks : ∃ past works, l.tasks = .ungated works ∧ c.tasks = past ++ works.map .working ∧
    ∀ t ∈ past, ∃ a, t = .gone a
  inFlight : c.inFlight = l.tasks.inFlight

theorem shows_ofLoop {l : ActionLoop σ α ε} {works : List ε} (h : l.tasks = .ungated works) :
    Shows (.ofLoop l) l where
  dispatcher := rfl
  audience := rfl
  queue := rfl
  tasks := ⟨[], works, h, by simp [Config.ofLoop, h, TaskPool.ungated], by simp⟩
  inFlight := rfl

/-- **A dispatch of the loop, in steps.** -/
theorem steps_process {c : Config σ α ε} {l : ActionLoop σ α ε} {n : Int} {b : Bool} {a : α}
    {rest : List α} (hphase : c.phase = .draining n b)
    (h : Shows c { l with queue := a :: rest }) :
    ∃ c', Steps (conductOf perform) c c' ∧ c'.phase = .draining n true ∧
      Shows c' { (l.process a).2 with queue := rest } ∧
      c'.dispatched = c.dispatched ++ [a] := by
  obtain ⟨past, works, hworks, htasks, hgone⟩ := h.tasks
  let o := (l.dispatcher.dispatch a).2
  have hbegin : c.begin a rest (some n) =
      { c with
        dispatcher := (l.dispatcher.dispatch a).1
        audience := l.audience.emitAll o.events
        queue := rest
        phase := .dispatching a [] o.effects (some n)
        log := c.log ++ [.begins a] } := by
    rw [Config.begin, h.dispatcher, h.audience]
  have hsteps := (Steps.refl.tail (Step.take hphase h.queue)).trans
    (steps_handOut perform a (some n) o.effects _ (by rw [hbegin]))
  rw [hbegin] at hsteps
  refine ⟨_, hsteps, rfl, ⟨rfl, rfl, rfl, ?_, ?_⟩, ?_⟩
  · refine ⟨past, works ++ o.effects, ?_, ?_, hgone⟩
    · have hspawned := TaskPool.spawnAll_ungated works o.effects
      rw [← hworks] at hspawned
      exact hspawned
    · rw [htasks, List.map_append, List.append_assoc]
  · have hspawned := congrArg TaskPool.inFlight (TaskPool.spawnAll_ungated works o.effects)
    rw [← hworks, TaskPool.inFlight_ungated, List.length_append] at hspawned
    have hcount := h.inFlight
    rw [hworks, TaskPool.inFlight_ungated] at hcount
    have hpool : (l.process a).2.tasks.inFlight = works.length + o.effects.length := hspawned
    dsimp only
    rw [hpool, hcount, Nat.cast_add]
  · simp [Config.dispatched, Mark.begun?]

/-! ## One round -/

theorem queue_processAll (as : List α) : ∀ l : ActionLoop σ α ε,
    (l.processAll as).2.queue = l.queue := by
  induction as with
  | nil => intro l; rfl
  | cons a as ih => intro l; exact ih (l.process a).2

theorem steps_processAll (n : Int) (as : List α) :
    ∀ (l : ActionLoop σ α ε) (b : Bool) (c : Config σ α ε), l.queue = [] →
    c.phase = .draining n b → Shows c { l with queue := as } →
    ∃ c', Steps (conductOf perform) c c' ∧ c'.phase = .draining n (b || !as.isEmpty) ∧
      Shows c' (l.processAll as).2 ∧
      c'.dispatched = c.dispatched ++ (l.processAll as).1.map (·.action) := by
  induction as with
  | nil =>
    intro l b c hqueue hphase hshows
    refine ⟨c, .refl, by simpa using hphase, ?_, by simp [ActionLoop.processAll]⟩
    rw [← hqueue] at hshows
    exact hshows
  | cons a as ih =>
    intro l b c hqueue hphase hshows
    obtain ⟨d, hd, hdphase, hdshows, hdone⟩ := steps_process perform hphase hshows
    obtain ⟨c', hc', hphase', hshows', hall⟩ := ih (l.process a).2 true d hqueue hdphase hdshows
    refine ⟨c', hd.trans hc', by simpa using hphase', hshows', ?_⟩
    rw [hall, hdone]
    simp [ActionLoop.processAll, ActionLoop.process]

/-- **All that is queued is dispatched, in steps.** -/
theorem steps_drain {c : Config σ α ε} {l : ActionLoop σ α ε} (hphase : c.phase = .reading)
    (h : Shows c l) :
    ∃ c', Steps (conductOf perform) c c' ∧ c'.phase = .reading ∧ Shows c' l.drain.2 ∧
      c'.dispatched = c.dispatched ++ l.drain.1.map (·.action) := by
  let looked : Config σ α ε := { c with phase := .draining c.inFlight false }
  have hlooked : Shows looked { ({ l with queue := [] } : ActionLoop σ α ε) with queue := l.queue } :=
    ⟨h.dispatcher, h.audience, h.queue, h.tasks, h.inFlight⟩
  obtain ⟨d, hd, hdphase, hdshows, hdone⟩ :=
    steps_processAll perform c.inFlight l.queue { l with queue := [] } false looked rfl
      rfl hlooked
  cases hqueue : l.queue with
  | nil =>
      -- with nothing to dispatch the loop might come to rest, so it does not even look
      refine ⟨c, .refl, hphase, ?_, ?_⟩
      · rw [ActionLoop.drain, hqueue, ActionLoop.processAll, ← hqueue]
        exact h
      · simp [ActionLoop.drain, hqueue, ActionLoop.processAll]
  | cons a as =>
      rw [hqueue] at hdphase
      have hempty : d.queue = [] := by
        rw [hdshows.queue]
        exact queue_processAll l.queue _
      exact ⟨_, ((Steps.refl.tail (.read hphase)).trans hd).tail (.again hdphase hempty), rfl,
        ⟨hdshows.dispatcher, hdshows.audience, hdshows.queue, hdshows.tasks, hdshows.inFlight⟩, hdone⟩

/-- A task comes to its result, delivers it and leaves. -/
theorem steps_carryOut {c : Config σ α ε} {e : ε} {before after : List (TaskPhase α ε)}
    (htasks : c.tasks = before ++ .working e :: after) (world : ω) :
    Steps (conductOf perform) c
      { c with
        tasks := before ++ .gone (perform world e).1 :: after
        queue := c.queue ++ [(perform world e).1]
        queued := c.queued ++ [(perform world e).1]
        inFlight := c.inFlight - 1 } := by
  let a := (perform world e).1
  let held : Config σ α ε := { c with tasks := before ++ .holding a :: after }
  let sent : Config σ α ε :=
    { held with tasks := before ++ TaskPhase.delivered a :: after }.enqueue a
  have hresolve : Step (conductOf perform) c held := .resolve htasks ⟨world, rfl⟩
  exact ((Steps.refl.tail hresolve).tail (.deliver (c := held) rfl)).tail
    (.leave (c := sent) rfl)

/-- Tasks come to their results, deliver them and leave, one task after another. -/
theorem steps_performAll (works : List ε) :
    ∀ (world : ω) (past : List (TaskPhase α ε)) (c : Config σ α ε),
    c.tasks = past ++ works.map .working →
    let results := (perform.performAll world works).1
    Steps (conductOf perform) c
      { c with
        tasks := past ++ results.map .gone
        queue := c.queue ++ results
        queued := c.queued ++ results
        inFlight := c.inFlight - works.length } := by
  induction works with
  | nil =>
    intro world past c htasks
    have hsame : past = c.tasks := by simpa using htasks.symm
    simpa [Performer.performAll, hsame] using Steps.refl
  | cons e works ih =>
    intro world past c htasks
    let a := (perform world e).1
    let left : Config σ α ε :=
      { c with
        tasks := past ++ .gone a :: works.map .working
        queue := c.queue ++ [a]
        queued := c.queued ++ [a]
        inFlight := c.inFlight - 1 }
    have hleft : Steps (conductOf perform) c left := steps_carryOut perform htasks world
    have hrest := hleft.trans
      (ih (perform world e).2 (past ++ [.gone a]) left (by simp [left]))
    have hcount : left.inFlight - works.length = c.inFlight - (e :: works).length := by
      simp only [left, List.length_cons, Nat.cast_succ]
      omega
    rw [hcount] at hrest
    simpa [Performer.performAll, left, a] using hrest

/-- **All tasks finish, in steps.** -/
theorem steps_finishTasks {c : Config σ α ε} {l : ActionLoop σ α ε} (h : Shows c l) (world : ω) :
    ∃ c', Steps (conductOf perform) c c' ∧ c'.phase = c.phase ∧
      Shows c' (l.finishTasks perform world).2 ∧ c'.dispatched = c.dispatched := by
  obtain ⟨past, works, hworks, htasks, hgone⟩ := h.tasks
  have hadvance : l.tasks.advance = (works, .ungated []) := by
    rw [hworks, TaskPool.advance_ungated]
  have hloop : (l.finishTasks perform world).2 =
      { l with
        tasks := .ungated []
        queue := l.queue ++ (perform.performAll world works).1 } := by
    rw [ActionLoop.finishTasks, hadvance]
  refine ⟨_, steps_performAll perform works world past c htasks, rfl, ?_, rfl⟩
  rw [hloop]
  refine ⟨h.dispatcher, h.audience, congrArg (· ++ _) h.queue, ?_, ?_⟩
  · refine ⟨_, [], rfl, (List.append_nil _).symm, fun t ht => ?_⟩
    rcases List.mem_append.mp ht with hold | hnew
    · exact hgone t hold
    · obtain ⟨a, _, rfl⟩ := List.mem_map.mp hnew
      exact ⟨a, rfl⟩
  · have hcount := h.inFlight
    rw [hworks, TaskPool.inFlight_ungated] at hcount
    dsimp only
    rw [hcount]
    simp

/-! ## Whole runs -/

/-- **Rounds are steps.** -/
theorem steps_run (rounds : Nat) :
    ∀ (world : ω) (l : ActionLoop σ α ε) (c : Config σ α ε), c.phase = .reading → Shows c l →
    let r := ActionLoop.run perform rounds world l
    ∃ c', Steps (conductOf perform) c c' ∧ c'.phase = .reading ∧ Shows c' r.loop ∧
      c'.dispatched = c.dispatched ++ r.handled.map (·.action) := by
  induction rounds with
  | zero =>
    intro world l c hphase hshows
    exact ⟨c, .refl, hphase, hshows, (List.append_nil _).symm⟩
  | succ rounds ih =>
    intro world l c hphase hshows
    obtain ⟨d, hd, hdphase, hdshows, hdone⟩ := steps_drain perform hphase hshows
    obtain ⟨e, he, hephase, heshows, hesame⟩ := steps_finishTasks perform hdshows world
    rw [ActionLoop.run]
    dsimp only
    split
    · exact ⟨e, hd.trans he, hephase.trans hdphase, heshows, hesame.trans hdone⟩
    · obtain ⟨c', hc', hphase', hshows', hall⟩ := ih _ _ e (hephase.trans hdphase) heshows
      refine ⟨c', (hd.trans he).trans hc', hphase', hshows', ?_⟩
      rw [hall, hesame, hdone, List.map_append, List.append_assoc]

/--
**A run that leaves nothing to do is an interleaving that ends idle.**

It dispatches the same actions in the same order, and comes to the same state.
-/
theorem exists_steps_run {l : ActionLoop σ α ε} {works : List ε}
    (hworks : l.tasks = .ungated works) (rounds : Nat) (world : ω)
    (hqueue : (ActionLoop.run perform rounds world l).loop.queue = [])
    (htasks : (ActionLoop.run perform rounds world l).loop.tasks.isIdle = true) :
    let r := ActionLoop.run perform rounds world l
    ∃ c, Steps (conductOf perform) (.ofLoop l) c ∧ c.phase = .idle ∧
      c.dispatcher = r.loop.dispatcher ∧ c.audience = r.loop.audience ∧
      c.dispatched = r.handled.map (·.action) := by
  intro r
  obtain ⟨c, hc, hphase, hshows, hdone⟩ :=
    steps_run perform rounds world l (.ofLoop l) rfl (shows_ofLoop hworks)
  have hcount : c.inFlight = 0 := by
    rw [hshows.inFlight]
    exact congrArg Nat.cast (of_decide_eq_true htasks)
  -- the loop looks once more, and finds nothing
  let looked : Config σ α ε := { c with phase := .draining c.inFlight false }
  have hlooked : looked.phase = .draining 0 false := by rw [← hcount]
  exact ⟨_, (hc.tail (.read hphase)).tail (.finish hlooked (hshows.queue.trans hqueue)), rfl,
    hshows.dispatcher, hshows.audience, hdone⟩

end Interleaving

end OpenBadges
