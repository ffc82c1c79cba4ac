import OpenBadges.Proofs.Origins

/-!
# Coming to rest

The tasks of a loop may put into the queue what makes it start more tasks, and so there are
loops that never come to rest. But often what an effect comes to asks for nothing more
(`Performer.Settles`). Then two rounds are enough for a run, whatever is queued and whichever
tasks are at work at first (`run_two`): the first dispatches the queue and the second what
the tasks have come to.

And however the steps of such a loop and of its tasks come between one another, the loop can
always come to rest from there (`canRest_of_steps`). The results may arrive in any order
(`exists_idle_inOrder`).
-/

namespace OpenBadges

variable {σ α ε ω : Type}

namespace Dispatcher

theorem wiring_dispatchAll (as : List α) : ∀ d : Dispatcher σ α ε,
    (d.dispatchAll as).1.wiring = d.wiring := by
  induction as with
  | nil => intro d; rfl
  | cons a as ih => intro d; exact ih (d.dispatch a).1

end Dispatcher

namespace Performer

/-- What an effect comes to asks for nothing more, in this wiring. -/
def Settles (perform : Performer ω ε α) (w : Wiring (Handler σ α ε)) : Prop :=
  ∀ s world e, ((Dispatcher.mk s w).dispatch (perform world e).1).2.effects = []

variable {perform : Performer ω ε α}

theorem mem_performAll {es : List ε} {a : α} : ∀ {world : ω},
    a ∈ (perform.performAll world es).1 → ∃ world' e, a = (perform world' e).1 := by
  induction es with
  | nil => intro world h; exact absurd h List.not_mem_nil
  | cons e es ih =>
    intro world h
    rcases List.mem_cons.mp h with rfl | h
    · exact ⟨world, e, rfl⟩
    · exact ih h

/-- Results ask for nothing, one after another. -/
theorem Settles.effects_dispatchAll {w : Wiring (Handler σ α ε)} (h : perform.Settles w)
    {as : List α} (has : ∀ a ∈ as, ∃ world e, a = (perform world e).1) :
    ∀ {d : Dispatcher σ α ε}, d.wiring = w → (d.dispatchAll as).2.effects = [] := by
  induction as with
  | nil => intro d _; rfl
  | cons a as ih =>
    rintro d rfl
    obtain ⟨world, e, rfl⟩ := has a List.mem_cons_self
    have hfirst : (d.dispatch (perform world e).1).2.effects = [] := h d.state world e
    rw [Dispatcher.dispatchAll, Outcome.effects_append, hfirst, List.nil_append]
    exact ih (fun b hb => has b (List.mem_cons_of_mem _ hb)) rfl

end Performer

/-! ## Two rounds -/

namespace ActionLoop

/-- Dispatching some actions is to dispatch them, emit the events and start the tasks. -/
theorem processAll_eq (as : List α) : ∀ l : ActionLoop σ α ε,
    (l.processAll as).2 =
      { l with
        dispatcher := (l.dispatcher.dispatchAll as).1
        audience := l.audience.emitAll (l.dispatcher.dispatchAll as).2.events
        tasks := l.tasks.spawnAll (l.dispatcher.dispatchAll as).2.effects } := by
  induction as with
  | nil => intro l; rfl
  | cons a as ih =>
    intro l
    have hspawned : ∀ (p : TaskPool ε) (es more : List ε),
        (p.spawnAll es).spawnAll more = p.spawnAll (es ++ more) :=
      fun p es more => List.foldl_append.symm
    rw [processAll]
    simp only [ih, process, Dispatcher.dispatchAll, Outcome.events_append, Outcome.effects_append,
      Audience.emitAll_append, hspawned]

theorem actions_processAll (as : List α) : ∀ l : ActionLoop σ α ε,
    (l.processAll as).1.map (·.action) = as := by
  induction as with
  | nil => intro l; rfl
  | cons a as ih => intro l; exact congrArg (a :: ·) (ih (l.process a).2)

variable {perform : Performer ω ε α}

/-- **One round.** -/
theorem finishTasks_drain {l : ActionLoop σ α ε} {works : List ε}
    (htasks : l.tasks = .ungated works) (world : ω) :
    let first := l.dispatcher.dispatchAll l.queue
    let answers := perform.performAll world (works ++ first.2.effects)
    l.drain.2.finishTasks perform world =
      (answers.2, {
        dispatcher := first.1
        audience := l.audience.emitAll first.2.events
        queue := answers.1
        tasks := .ungated [] }) := by
  intro first answers
  have hdrain : l.drain.2 = {
      dispatcher := first.1
      audience := l.audience.emitAll first.2.events
      tasks := .ungated (works ++ first.2.effects) } := by
    rw [drain, processAll_eq, htasks, TaskPool.spawnAll_ungated]
  rw [hdrain, finishTasks]
  dsimp only
  rw [TaskPool.advance_ungated, List.nil_append]

/-- Actions that ask for nothing take one round. -/
theorem run_silent (perform : Performer ω ε α) {l : ActionLoop σ α ε}
    (htasks : l.tasks = .ungated [])
    (hsilent : (l.dispatcher.dispatchAll l.queue).2.effects = []) (rounds : Nat) (world : ω) :
    run perform (rounds + 1) world l =
      ⟨l.drain.1, world, {
        dispatcher := (l.dispatcher.dispatchAll l.queue).1
        audience := l.audience.emitAll (l.dispatcher.dispatchAll l.queue).2.events
        queue := []
        tasks := .ungated [] }⟩ := by
  have hround : l.drain.2.finishTasks perform world = _ := finishTasks_drain htasks world
  rw [hsilent, List.append_nil] at hround
  rw [run]
  dsimp only
  rw [hround]
  rfl

/--
**Two rounds are enough.**

Then everything that was queued has been dispatched, and after it everything that the tasks
have come to.
-/
theorem run_two {l : ActionLoop σ α ε} {works : List ε} (htasks : l.tasks = .ungated works)
    (hsettles : perform.Settles l.dispatcher.wiring) (world : ω) :
    let r := run perform 2 world l
    let answers := perform.performAll world
      (works ++ (l.dispatcher.dispatchAll l.queue).2.effects)
    let all := l.dispatcher.dispatchAll (l.queue ++ answers.1)
    r.handled.map (·.action) = l.queue ++ answers.1 ∧ r.world = answers.2 ∧
      r.loop = {
        dispatcher := all.1
        audience := l.audience.emitAll all.2.events
        queue := []
        tasks := .ungated [] } := by
  intro r answers all
  let first := l.dispatcher.dispatchAll l.queue
  let between : ActionLoop σ α ε := {
    dispatcher := first.1
    audience := l.audience.emitAll first.2.events
    queue := answers.1
    tasks := .ungated [] }
  have hfirst : l.drain.2.finishTasks perform world = (answers.2, between) :=
    finishTasks_drain htasks world
  have hsilent : (between.dispatcher.dispatchAll between.queue).2.effects = [] :=
    hsettles.effects_dispatchAll (fun _ h => Performer.mem_performAll h)
      (Dispatcher.wiring_dispatchAll _ _)
  have hlast := run_silent perform (l := between) rfl hsilent 0 answers.2
  have hr : r = { run perform 1 answers.2 between with
      handled := l.drain.1 ++ (run perform 1 answers.2 between).handled } := by
    show run perform 2 world l = _
    rw [run]
    dsimp only
    rw [hfirst]
    dsimp only
    split
    · -- nothing has come back, and the second round would have had nothing to do
      rename_i hnone
      have hnone' : answers.1 = [] := List.isEmpty_iff.mp hnone
      rw [hlast]
      simp only [between, hnone', drain, processAll, Dispatcher.dispatchAll, List.append_nil]
      rfl
    · rfl
  have hall : all = ((first.1.dispatchAll answers.1).1,
      first.2 ++ (first.1.dispatchAll answers.1).2) := Dispatcher.dispatchAll_append ..
  have hhandled : l.drain.1.map (·.action) = l.queue := actions_processAll l.queue _
  have hhandled' : between.drain.1.map (·.action) = answers.1 := actions_processAll answers.1 _
  rw [hr, hlast, hall, Outcome.events_append, Audience.emitAll_append, List.map_append, hhandled,
    hhandled']
  exact ⟨rfl, rfl, rfl⟩

end ActionLoop

namespace Interleaving

variable {perform : Performer ω ε α} {l : ActionLoop σ α ε} {c : Config σ α ε}

/-! ## The way to rest -/

/-- The effect that a task is at work on. -/
def TaskPhase.carried? : TaskPhase α ε → Option ε
  | working e => some e
  | holding _ | delivered _ | gone _ | broken => none

namespace Shows

/-- A task of the loop is at work, and all others have left. -/
theorem working_or_gone (h : Shows c l) {t : TaskPhase α ε} (ht : t ∈ c.tasks) :
    (∃ e, t = .working e) ∨ ∃ a, t = .gone a := by
  obtain ⟨past, works, _, htasks, hgone⟩ := h.tasks
  rw [htasks] at ht
  rcases List.mem_append.mp ht with hold | hnew
  · exact .inr (hgone t hold)
  · obtain ⟨e, _, rfl⟩ := List.mem_map.mp hnew
    exact .inl ⟨e, rfl⟩

theorem whole (h : Shows c l) : TaskPhase.broken ∉ c.tasks := by
  intro hbroken
  rcases h.working_or_gone hbroken with ⟨e, he⟩ | ⟨a, ha⟩
  · exact absurd he (by simp)
  · exact absurd ha (by simp)

theorem carried_eq (h : Shows c l) {works : List ε} (hworks : l.tasks = .ungated works) :
    c.tasks.filterMap TaskPhase.carried? = works := by
  obtain ⟨past, works', hworks', htasks, hgone⟩ := h.tasks
  obtain rfl : works = works' := by
    simpa [TaskPool.advance_ungated] using congrArg (·.advance.1) (hworks.symm.trans hworks')
  have hnone : past.filterMap TaskPhase.carried? = [] :=
    List.filterMap_eq_nil_iff.mpr fun t ht => by
      obtain ⟨a, rfl⟩ := hgone t ht
      rfl
  rw [htasks, List.filterMap_append, hnone, List.nil_append, List.filterMap_map]
  exact List.filterMap_some

end Shows

/-- A loop whose tasks have all left, as it is shown. -/
theorem shows_of_gone (hgone : ∀ t ∈ c.tasks, ∃ a, t = .gone a) (hcount : c.inFlight = 0) :
    Shows c ⟨c.dispatcher, c.audience, c.queue, .ungated []⟩ where
  dispatcher := rfl
  audience := rfl
  queue := rfl
  tasks := ⟨c.tasks, [], rfl, by simp, hgone⟩
  inFlight := hcount

/-- From where the loop is about to read the count, two rounds lead to rest. -/
theorem exists_idle_of_reading (hphase : c.phase = .reading) (h : Shows c l)
    {works : List ε} (hworks : l.tasks = .ungated works)
    (hsettles : perform.Settles l.dispatcher.wiring) (world : ω) :
    ∃ d, Steps (conductOf perform) c d ∧ d.phase = .idle ∧ TaskPhase.broken ∉ d.tasks ∧
      d.dispatched = c.dispatched ++ (l.queue ++ (perform.performAll world
        (works ++ (l.dispatcher.dispatchAll l.queue).2.effects)).1) := by
  obtain ⟨hhandled, _, hloop⟩ := ActionLoop.run_two hworks hsettles world
  obtain ⟨d, hd, hdphase, hshows, hdone⟩ := steps_run perform 2 world l c hphase h
  have hwhole := hshows.whole
  rw [hloop] at hshows
  rw [hhandled] at hdone
  have hcount : d.inFlight = 0 := hshows.inFlight
  let looked : Config σ α ε := { d with phase := .draining d.inFlight false }
  have hlooked : looked.phase = .draining 0 false := by rw [← hcount]
  exact ⟨_, (hd.tail (.read hdphase)).tail (.finish hlooked hshows.queue), rfl, hwhole, hdone⟩

/-- The loop can come to rest from here, and without any task breaking down. -/
def CanRest (perform : Performer ω ε α) (c : Config σ α ε) : Prop :=
  ∃ d, Steps (conductOf perform) c d ∧ d.phase = .idle ∧ TaskPhase.broken ∉ d.tasks

theorem CanRest.of_steps {d : Config σ α ε} (h : CanRest perform d)
    (hs : Steps (conductOf perform) c d) : CanRest perform c := by
  obtain ⟨e, he, hidle, hwhole⟩ := h
  exact ⟨e, hs.trans he, hidle, hwhole⟩

theorem canRest_of_reading (hphase : c.phase = .reading) (h : Shows c l)
    (hsettles : perform.Settles l.dispatcher.wiring) (world : ω) : CanRest perform c := by
  obtain ⟨_, works, hworks, _⟩ := h.tasks
  obtain ⟨d, hd, hidle, hwhole, _⟩ := exists_idle_of_reading hphase h hworks hsettles world
  exact ⟨d, hd, hidle, hwhole⟩

/-- From between two dispatches, the rest of the queue comes first. -/
theorem canRest_of_draining {n : Int} {b : Bool} (hphase : c.phase = .draining n b)
    (h : Shows c l) (hsettles : perform.Settles l.dispatcher.wiring) (world : ω) :
    CanRest perform c := by
  obtain ⟨d, hd, hdphase, hshows, _⟩ :=
    steps_processAll perform n l.queue { l with queue := [] } b c rfl hphase h
  have hqueue : d.queue = [] := hshows.queue.trans (queue_processAll l.queue _)
  have hwiring : (ActionLoop.processAll { l with queue := [] } l.queue).2.dispatcher.wiring =
      l.dispatcher.wiring := by
    rw [ActionLoop.processAll_eq]
    exact Dispatcher.wiring_dispatchAll _ _
  have hread : CanRest perform { d with phase := .reading } :=
    canRest_of_reading rfl
      ⟨hshows.dispatcher, hshows.audience, hshows.queue, hshows.tasks, hshows.inFlight⟩
      (hwiring ▸ hsettles) world
  -- the loop reads the count again, unless it finds nothing to do
  cases hdispatched : b || !l.queue.isEmpty with
  | true =>
      rw [hdispatched] at hdphase
      exact hread.of_steps (hd.tail (.again hdphase hqueue))
  | false =>
      rw [hdispatched] at hdphase
      by_cases hzero : n = 0
      · rw [hzero] at hdphase
        exact ⟨_, hd.tail (.finish hdphase hqueue), rfl, hshows.whole⟩
      · exact hread.of_steps ((hd.tail (.wait hdphase hqueue hzero)).tail (.timeout rfl))

/-- What is being done about an effect is done. -/
theorem steps_deeds (perform : Performer ω ε α) {a : α} {es : List ε} {n : Option Int}
    (ds : List (Deed α ε)) :
    ∀ c : Config σ α ε, c.phase = .dispatching a ds es n → (∀ d ∈ ds, ∃ e, d = .start e) →
    Steps (conductOf perform) c
      { c with
        tasks := c.tasks ++ (ds.filterMap Deed.started?).map .working
        inFlight := c.inFlight + (ds.filterMap Deed.started?).length
        phase := .dispatching a [] es n } := by
  induction ds with
  | nil =>
    intro c hphase _
    have hsame : c = { c with phase := .dispatching a [] es n } := by rw [← hphase]
    simpa [← hsame] using Steps.refl
  | cons d ds ih =>
    intro c hphase hstarts
    obtain ⟨e, rfl⟩ := hstarts d List.mem_cons_self
    let started : Config σ α ε := { c.perform (.start e) with phase := .dispatching a ds es n }
    have hrest := (Steps.refl.tail (.deed hphase)).trans
      (ih started rfl fun d hd => hstarts d (List.mem_cons_of_mem _ hd))
    have hcount : started.inFlight + (ds.filterMap Deed.started?).length =
        c.inFlight + ((Deed.start e :: ds).filterMap Deed.started?).length := by
      simp only [started, Config.perform, List.filterMap_cons, Deed.started?, List.length_cons,
        Nat.cast_succ]
      omega
    rw [hcount] at hrest
    simpa [started, Config.perform, List.filterMap_cons, Deed.started?] using hrest

/-- **A dispatch can be brought to its end.** -/
theorem steps_over {a : α} {ds : List (Deed α ε)} {es : List ε} {n : Option Int}
    (hphase : c.phase = .dispatching a ds es n) (hstarts : ∀ d ∈ ds, ∃ e, d = .start e) :
    let owed := ds.filterMap Deed.started? ++ es
    Steps (conductOf perform) c
      { c with
        tasks := c.tasks ++ owed.map .working
        inFlight := c.inFlight + owed.length
        phase := .resumed n
        log := c.log ++ [.ends a] } := by
  have hover := (steps_deeds perform ds c hphase hstarts).trans
    (steps_handOut perform a n es _ rfl)
  simpa [add_assoc] using hover

/-- A task that has not broken down can finish. -/
theorem exists_gone (perform : Performer ω ε α) (world : ω)
    {before after : List (TaskPhase α ε)} {t : TaskPhase α ε}
    (htasks : c.tasks = before ++ t :: after) (ht : t ≠ .broken) :
    ∃ d a, Steps (conductOf perform) c d ∧ d.phase = c.phase ∧
      d.tasks = before ++ .gone a :: after := by
  cases t with
  | working e => exact ⟨_, _, steps_carryOut perform htasks world, rfl, rfl⟩
  | holding a =>
      let sent : Config σ α ε :=
        { c with tasks := before ++ TaskPhase.delivered a :: after }.enqueue a
      exact ⟨_, a, (Steps.refl.tail (.deliver htasks)).tail (.leave (c := sent) rfl), rfl, rfl⟩
  | delivered a => exact ⟨_, a, Steps.refl.tail (.leave htasks), rfl, rfl⟩
  | gone a => exact ⟨c, a, .refl, rfl, htasks⟩
  | broken => exact absurd rfl ht

/-- So can all of them, one after another. -/
theorem exists_allGone (perform : Performer ω ε α) (world : ω) (todo : List (TaskPhase α ε)) :
    ∀ (past : List α) (c : Config σ α ε), c.tasks = past.map .gone ++ todo →
    TaskPhase.broken ∉ todo →
    ∃ d, Steps (conductOf perform) c d ∧ d.phase = c.phase ∧ ∀ t ∈ d.tasks, ∃ a, t = .gone a := by
  induction todo with
  | nil =>
    intro past c htasks _
    refine ⟨c, .refl, rfl, fun t ht => ?_⟩
    rw [htasks, List.append_nil] at ht
    obtain ⟨a, _, rfl⟩ := List.mem_map.mp ht
    exact ⟨a, rfl⟩
  | cons t todo ih =>
    intro past c htasks hwhole
    rw [List.mem_cons, not_or] at hwhole
    obtain ⟨d, a, hd, hphase, hgone⟩ := exists_gone perform world htasks
      (Ne.symm hwhole.1)
    obtain ⟨e, he, hphase', hall⟩ := ih (past ++ [a]) d (by simp [hgone]) hwhole.2
    exact ⟨e, hd.trans he, hphase'.trans hphase, hall⟩

/-- **However far a loop has come whose results ask for nothing, it can come to rest.** -/
theorem canRest_of_steps (hsettles : perform.Settles l.dispatcher.wiring) (world : ω)
    (h : Steps (conductOf perform) (.ofLoop l) c) (hwhole : TaskPhase.broken ∉ c.tasks) :
    CanRest perform c := by
  -- first all tasks finish, wherever the loop is
  obtain ⟨d, hd, hphase, hgone⟩ :=
    exists_allGone perform world c.tasks [] c (by simp) hwhole
  have horderly := orderly_steps (h.trans hd)
  have hdeeds := (traced_steps (oneTaskEach_conductOf perform) (h.trans hd)).deeds
  have hcount : d.inFlight = 0 := by
    have hnone : d.counting = 0 := List.countP_eq_zero.mpr fun t ht => by
      obtain ⟨a, rfl⟩ := hgone t ht
      simp [TaskPhase.counts]
    rw [horderly.counted, hnone]
    rfl
  have hsettles' : perform.Settles d.dispatcher.wiring := by
    rw [horderly.state, Dispatcher.wiring_dispatchAll]
    exact hsettles
  have hshows := shows_of_gone hgone hcount
  have hread : CanRest perform { d with phase := .reading } :=
    canRest_of_reading rfl (shows_of_gone hgone hcount) hsettles' world
  refine CanRest.of_steps ?_ hd
  cases hat : d.phase with
  | idle => exact ⟨d, .refl, hat, hshows.whole⟩
  | reading => exact canRest_of_reading hat hshows hsettles' world
  | waiting => exact hread.of_steps (Steps.refl.tail (.timeout hat))
  | draining n b => exact canRest_of_draining hat hshows hsettles' world
  | dispatching a ds es n =>
      rw [hat] at hdeeds
      let owed := ds.filterMap Deed.started? ++ es
      let ended : Config σ α ε :=
        { d with
          tasks := d.tasks ++ owed.map .working
          inFlight := d.inFlight + owed.length
          phase := .resumed n
          log := d.log ++ [.ends a] }
      have hover : Steps (conductOf perform) d ended := steps_over hat hdeeds
      have hshows' : Shows ended ⟨d.dispatcher, d.audience, d.queue, .ungated owed⟩ :=
        ⟨rfl, rfl, rfl, ⟨d.tasks, owed, rfl, rfl, hgone⟩, by simp [ended, hcount]⟩
      refine CanRest.of_steps ?_ hover
      cases n with
      | none => exact canRest_of_reading rfl hshows' hsettles' world
      | some m => exact canRest_of_draining rfl hshows' hsettles' world

/-! ## Any order -/

/-- **Tasks at work can finish in any order.** -/
theorem exists_finished_inOrder (world : ω) (order : List ε) : ∀ c : Config σ α ε,
    (c.tasks.filterMap TaskPhase.carried?).Perm order →
    (∀ t ∈ c.tasks, (∃ e, t = .working e) ∨ ∃ a, t = .gone a) →
    ∃ tasks, (∀ t ∈ tasks, ∃ a, t = .gone a) ∧ Steps (conductOf perform) c
      { c with
        tasks := tasks
        queue := c.queue ++ order.map fun e => (perform world e).1
        queued := c.queued ++ order.map fun e => (perform world e).1
        inFlight := c.inFlight - order.length } := by
  induction order with
  | nil =>
    intro c hperm htasks
    refine ⟨c.tasks, fun t ht => (htasks t ht).resolve_left ?_, by simpa using Steps.refl⟩
    rintro ⟨e, rfl⟩
    have hmem : e ∈ c.tasks.filterMap TaskPhase.carried? := List.mem_filterMap.mpr ⟨_, ht, rfl⟩
    rw [List.perm_nil.mp hperm] at hmem
    exact absurd hmem List.not_mem_nil
  | cons e order ih =>
    intro c hperm htasks
    -- the first of the order is one of those at work
    obtain ⟨t, ht, hcarried⟩ := List.mem_filterMap.mp (hperm.symm.subset List.mem_cons_self)
    obtain ⟨before, after, hsplit⟩ := List.append_of_mem ht
    obtain rfl : t = .working e := by
      rcases htasks t ht with ⟨e', rfl⟩ | ⟨a, rfl⟩
      · exact congrArg _ (Option.some.inj hcarried)
      · exact absurd hcarried (by simp [TaskPhase.carried?])
    let left : Config σ α ε :=
      { c with
        tasks := before ++ .gone (perform world e).1 :: after
        queue := c.queue ++ [(perform world e).1]
        queued := c.queued ++ [(perform world e).1]
        inFlight := c.inFlight - 1 }
    have hleft : Steps (conductOf perform) c left := steps_carryOut perform hsplit world
    have hrest : (left.tasks.filterMap TaskPhase.carried?).Perm order := by
      rw [hsplit] at hperm
      simp only [left, List.filterMap_append, List.filterMap_cons, TaskPhase.carried?] at hperm ⊢
      exact (List.perm_middle.symm.trans hperm).cons_inv
    obtain ⟨tasks, hgone, hsteps⟩ := ih left hrest fun t' ht' => by
      rcases List.mem_append.mp ht' with hbefore | hafter
      · exact htasks t' (hsplit ▸ List.mem_append_left _ hbefore)
      · rcases List.mem_cons.mp hafter with rfl | hafter
        · exact .inr ⟨_, rfl⟩
        · exact htasks t' (hsplit ▸ List.mem_append_right _ (List.mem_cons_of_mem _ hafter))
    refine ⟨tasks, hgone, ?_⟩
    have hall := hleft.trans hsteps
    simpa [left, sub_sub, add_comm] using hall

/-- **What a loop asks for first may be answered in any order.** -/
theorem exists_idle_inOrder (hsettles : perform.Settles l.dispatcher.wiring) (world : ω)
    (htasks : l.tasks = .ungated []) {order : List ε}
    (horder : order.Perm (l.dispatcher.dispatchAll l.queue).2.effects) :
    ∃ d, Steps (conductOf perform) (.ofLoop l) d ∧ d.phase = .idle ∧ TaskPhase.broken ∉ d.tasks ∧
      d.dispatched = l.queue ++ order.map fun e => (perform world e).1 := by
  obtain ⟨c, hc, hphase, hshows, hdone⟩ :=
    steps_drain perform (c := .ofLoop l) rfl (shows_ofLoop htasks)
  rw [ActionLoop.drain, ActionLoop.processAll_eq] at hshows
  rw [ActionLoop.drain, ActionLoop.actions_processAll] at hdone
  dsimp only at hshows
  rw [htasks, TaskPool.spawnAll_ungated, List.nil_append] at hshows
  have hworking : (c.tasks.filterMap TaskPhase.carried?).Perm order := by
    rw [hshows.carried_eq rfl]
    exact horder.symm
  obtain ⟨tasks, hall, hsteps⟩ :=
    exists_finished_inOrder world order c hworking fun t ht => hshows.working_or_gone ht
  let answered : Config σ α ε :=
    { c with
      tasks := tasks
      queue := c.queue ++ order.map fun e => (perform world e).1
      queued := c.queued ++ order.map fun e => (perform world e).1
      inFlight := c.inFlight - order.length }
  have hqueue : answered.queue = order.map fun e => (perform world e).1 :=
    congrArg (· ++ _) hshows.queue
  have hcount : answered.inFlight = 0 := by
    have hlength := horder.length_eq
    have hbefore : c.inFlight = _ := hshows.inFlight
    rw [TaskPool.inFlight_ungated] at hbefore
    simp only [answered, hbefore, hlength, sub_self]
  have hwiring : answered.dispatcher.wiring = l.dispatcher.wiring :=
    (congrArg Dispatcher.wiring hshows.dispatcher).trans (Dispatcher.wiring_dispatchAll _ _)
  have hsilent : (answered.dispatcher.dispatchAll answered.queue).2.effects = [] := by
    rw [hqueue]
    refine hsettles.effects_dispatchAll (fun a ha => ?_) hwiring
    obtain ⟨e, _, rfl⟩ := List.mem_map.mp ha
    exact ⟨world, e, rfl⟩
  obtain ⟨d, hd, hidle, hwhole, hdispatched⟩ := exists_idle_of_reading (c := answered) hphase
    (shows_of_gone hall hcount) rfl (hwiring ▸ hsettles) world
  dsimp only at hdispatched
  rw [hsilent, hqueue] at hdispatched
  refine ⟨d, (hc.trans hsteps).trans hd, hidle, hwhole, hdispatched.trans ?_⟩
  have hfirst : answered.dispatched = l.queue := hdone
  rw [hfirst, List.append_nil, Performer.performAll, List.append_nil]

end Interleaving

end OpenBadges
