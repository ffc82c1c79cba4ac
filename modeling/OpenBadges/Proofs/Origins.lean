import Mathlib.Data.List.Forall2
import OpenBadges.Proofs.Idle

/-!
# Where results come from

A loop may start many tasks in the course of time, and they deliver their results in
whatever order they come to them. Here every task is traced back to the effect that it
carries out, and everything that is dispatched to the queue that the loop started with or
to a task.

`Traced` is what holds at every moment: the tasks are those of the effects that dispatches
have asked for, in order, one for each, and the audience has heard of just the events of
these dispatches. Only the effects of the dispatch that is going on may still be without a
task (`LoopPhase.owed`). So when the loop comes to rest and no task has broken down, what
it has dispatched after its first queue are the results of all these effects
(`origins_of_idle`).
-/

namespace OpenBadges

namespace Audience

theorem emitAll_append (a : Audience) (events more : List EventName) :
    a.emitAll (events ++ more) = (a.emitAll events).emitAll more :=
  congrArg (fun bus => { a with bus := bus }) List.foldl_append

end Audience

/-- What the tasks of a loop are to carry out. -/
def ActionLoop.works {σ α ε : Type} (l : ActionLoop σ α ε) : List ε :=
  (l.tasks.ready ++ l.tasks.parked).map Task.work

namespace Interleaving

variable {σ α ε ω : Type}

/-- Each effect becomes one task, and nothing else is done about it. -/
def Conduct.OneTaskEach (conduct : Conduct α ε) : Prop :=
  ∀ e ds, conduct.handles e ds → ds = [.start e]

theorem oneTaskEach_conductOf (perform : Performer ω ε α) :
    (conductOf perform).OneTaskEach := fun _ _ h => h

/-- How far a task may have come that is to carry an effect out. -/
def Conduct.Carries (conduct : Conduct α ε) (e : ε) : TaskPhase α ε → Prop
  | .working e' => e' = e
  | .holding a | .delivered a | .gone a => conduct.answers e a
  | .broken => True

/-- The effect that a task starts with. -/
def Deed.started? : Deed α ε → Option ε
  | start e => some e
  | queue _ => none

namespace LoopPhase

/-- What is being done about one effect. -/
def deeds : LoopPhase α ε → List (Deed α ε)
  | dispatching _ ds _ _ => ds
  | reading | draining _ _ | waiting | idle => []

/-- The effects of a dispatch that no task has been started for. -/
def owed : LoopPhase α ε → List ε
  | dispatching _ ds es _ => ds.filterMap Deed.started? ++ es
  | reading | draining _ _ | waiting | idle => []

@[simp] theorem deeds_resumed (n : Option Int) : (resumed n : LoopPhase α ε).deeds = [] := by
  cases n <;> rfl

@[simp] theorem owed_resumed (n : Option Int) : (resumed n : LoopPhase α ε).owed = [] := by
  cases n <;> rfl

end LoopPhase

/-- What the tasks, the queue and the audience of a loop that has started as `l` go back to. -/
structure Traced (conduct : Conduct α ε) (l : ActionLoop σ α ε) (c : Config σ α ε) : Prop where
  /-- Each task carries out an effect that was asked for, and each such effect has its task. -/
  tasks : ∃ es, List.Forall₂ conduct.Carries es c.tasks ∧
    es ++ c.phase.owed = l.works ++ (l.dispatcher.dispatchAll c.dispatched).2.effects
  /-- Nothing is done about an effect but to start tasks. -/
  deeds : ∀ d ∈ c.phase.deeds, ∃ e, d = .start e
  /-- Nothing but results is put into the queue. -/
  enqueued : c.enqueued = l.queue
  /-- The first queue comes first. -/
  first : l.queue <+: c.queued
  /-- The audience has heard of all events. -/
  audience : c.audience = l.audience.emitAll (l.dispatcher.dispatchAll c.dispatched).2.events

theorem traced_ofLoop (conduct : Conduct α ε) (l : ActionLoop σ α ε) :
    Traced conduct l (.ofLoop l) where
  tasks := by
    refine ⟨l.works, ?_, rfl⟩
    rw [ActionLoop.works, Config.ofLoop, List.forall₂_map_left_iff, List.forall₂_map_right_iff]
    exact List.forall₂_same.mpr fun _ _ => rfl
  deeds := fun d h => absurd h List.not_mem_nil
  enqueued := rfl
  first := List.prefix_refl _
  audience := rfl

/-! ## Steps -/

variable {conduct : Conduct α ε} {l : ActionLoop σ α ε} {c d : Config σ α ε}

/-- The loop goes elsewhere between two dispatches. -/
theorem traced_phase (h : Traced conduct l c) {phase : LoopPhase α ε}
    (howed : phase.owed = c.phase.owed) (hdeeds : phase.deeds = []) :
    Traced conduct l { c with phase := phase } where
  tasks := by
    rw [howed]
    exact h.tasks
  deeds := by
    rw [hdeeds]
    exact fun d hd => absurd hd List.not_mem_nil
  enqueued := h.enqueued
  first := h.first
  audience := h.audience

theorem traced_begin (h : Traced conduct l c) {a : α} {rest : List α} (n : Option Int)
    (hstate : c.dispatcher = (l.dispatcher.dispatchAll c.dispatched).1)
    (howed : c.phase.owed = []) : Traced conduct l (c.begin a rest n) := by
  have hdispatched : (c.begin a rest n).dispatched = c.dispatched ++ [a] := by
    simp [Config.begin, Config.dispatched, Mark.begun?]
  have hall : (l.dispatcher.dispatchAll (c.begin a rest n).dispatched).2 =
      (l.dispatcher.dispatchAll c.dispatched).2 ++ (c.dispatcher.dispatch a).2 := by
    rw [hdispatched, Dispatcher.dispatchAll_snoc, ← hstate]
  constructor
  case tasks =>
    obtain ⟨es, hes, heffects⟩ := h.tasks
    rw [howed, List.append_nil] at heffects
    refine ⟨es, hes, ?_⟩
    rw [hall, Outcome.effects_append, ← List.append_assoc, ← heffects]
    rfl
  case deeds => exact fun d hd => absurd hd List.not_mem_nil
  case enqueued => exact h.enqueued
  case first => exact h.first
  case audience =>
    rw [hall, Outcome.events_append, Audience.emitAll_append, ← h.audience]
    rfl

theorem traced_handOut (h : Traced conduct l c) (hone : conduct.OneTaskEach) {a : α} {e : ε}
    {es : List ε} {ds : List (Deed α ε)} {n : Option Int}
    (hphase : c.phase = .dispatching a [] (e :: es) n) (hhandles : conduct.handles e ds) :
    Traced conduct l { c with phase := .dispatching a ds es n } := by
  obtain rfl := hone e ds hhandles
  have howed : (LoopPhase.dispatching a [.start e] es n).owed = c.phase.owed := by
    rw [hphase]
    rfl
  refine ⟨?_, fun d hd => ⟨e, List.mem_singleton.mp hd⟩, h.enqueued, h.first, h.audience⟩
  rw [howed]
  exact h.tasks

/-- A task that has just started is to carry out the next effect. -/
theorem traced_deed (h : Traced conduct l c) {a : α} {es : List ε} {d : Deed α ε}
    {ds : List (Deed α ε)} {n : Option Int} (hphase : c.phase = .dispatching a (d :: ds) es n) :
    Traced conduct l { c.perform d with phase := .dispatching a ds es n } := by
  have hdeeds := h.deeds
  rw [hphase] at hdeeds
  obtain ⟨e, rfl⟩ := hdeeds d List.mem_cons_self
  obtain ⟨begun, hbegun, heffects⟩ := h.tasks
  rw [hphase] at heffects
  refine ⟨⟨begun ++ [e], ?_, ?_⟩, fun d hd => hdeeds d (List.mem_cons_of_mem _ hd), h.enqueued,
    h.first, h.audience⟩
  · exact List.rel_append hbegun (.cons rfl .nil)
  · rw [List.append_assoc]
    exact heffects

theorem traced_done (h : Traced conduct l c) {a : α} {n : Option Int}
    (hphase : c.phase = .dispatching a [] [] n) :
    Traced conduct l { c with phase := .resumed n, log := c.log ++ [.ends a] } := by
  have hdispatched : (c.log ++ [Mark.ends a]).filterMap Mark.begun? = c.dispatched := by
    simp [Config.dispatched, Mark.begun?]
  refine ⟨?_, ?_, h.enqueued, h.first, ?_⟩
  · have htasks := h.tasks
    rw [hphase] at htasks
    rw [Config.dispatched, hdispatched, LoopPhase.owed_resumed]
    exact htasks
  · rw [LoopPhase.deeds_resumed]
    exact fun d hd => absurd hd List.not_mem_nil
  · rw [Config.dispatched, hdispatched]
    exact h.audience

/-- One task goes on; all others are as they were. -/
theorem forall₂_carries_of {before after : List (TaskPhase α ε)} {t t' : TaskPhase α ε}
    (ht : ∀ e, conduct.Carries e t → conduct.Carries e t') : ∀ {es : List ε},
    List.Forall₂ conduct.Carries es (before ++ t :: after) →
    List.Forall₂ conduct.Carries es (before ++ t' :: after) := by
  induction before with
  | nil =>
    intro es h
    cases h with
    | cons hhead htail => exact .cons (ht _ hhead) htail
  | cons b before ih =>
    intro es h
    cases h with
    | cons hhead htail => exact .cons hhead (ih htail)

theorem traced_task (h : Traced conduct l c) {before after : List (TaskPhase α ε)}
    {t : TaskPhase α ε} (t' : TaskPhase α ε) (sent : List α) (off : Int)
    (htasks : c.tasks = before ++ t :: after)
    (ht : ∀ e, conduct.Carries e t → conduct.Carries e t') :
    Traced conduct l { c with
      tasks := before ++ t' :: after
      inFlight := c.inFlight - off
      queue := c.queue ++ sent
      queued := c.queued ++ sent } where
  tasks := by
    obtain ⟨es, hes, heffects⟩ := h.tasks
    rw [htasks] at hes
    exact ⟨es, forall₂_carries_of ht hes, heffects⟩
  deeds := h.deeds
  enqueued := h.enqueued
  first := h.first.trans (List.prefix_append _ _)
  audience := h.audience

/-- **Preserved by every step.** -/
theorem traced_step (h : Traced conduct l c) (hone : conduct.OneTaskEach)
    (hstate : c.dispatcher = (l.dispatcher.dispatchAll c.dispatched).1) (hs : Step conduct c d) :
    Traced conduct l d := by
  cases hs with
  | read hphase | again hphase | finish hphase | wait hphase | timeout hphase =>
      exact traced_phase h (by rw [hphase]; rfl) rfl
  | take hphase | receive hphase => exact traced_begin h _ hstate (by rw [hphase]; rfl)
  | handOut hphase hhandles => exact traced_handOut h hone hphase hhandles
  | deed hphase => exact traced_deed h hphase
  | done hphase => exact traced_done h hphase
  | @resolve e a before after htasks hanswer =>
      have hheld : ∀ e', conduct.Carries e' (.working e) → conduct.Carries e' (.holding a) := by
        rintro e' rfl
        exact hanswer
      simpa using traced_task h (.holding a) [] 0 htasks hheld
  | @deliver a before after htasks =>
      simpa [Config.enqueue] using traced_task h (.delivered a) [a] 0 htasks fun _ => id
  | @leave a before after htasks => simpa using traced_task h (.gone a) [] 1 htasks fun _ => id
  | breakDown htasks => simpa using traced_task h .broken [] 1 htasks fun _ _ => trivial

theorem traced_steps (hone : conduct.OneTaskEach) (h : Steps conduct (.ofLoop l) c) :
    Traced conduct l c := by
  induction h with
  | refl => exact traced_ofLoop conduct l
  | tail hsteps hs ih => exact traced_step ih hone (orderly_steps hsteps).state hs

/-! ## At rest -/

/-- Tasks that have all come to a result and left. -/
theorem exists_results {es : List ε} {tasks : List (TaskPhase α ε)}
    (h : List.Forall₂ conduct.Carries es tasks) (hoff : ∀ t ∈ tasks, t.counts = false)
    (hwhole : TaskPhase.broken ∉ tasks) :
    ∃ results, List.Forall₂ conduct.answers es results ∧ tasks = results.map .gone := by
  induction h with
  | nil => exact ⟨[], .nil, rfl⟩
  | @cons e t es tasks ht _ ih =>
    rw [List.mem_cons, not_or] at hwhole
    obtain ⟨results, hresults, rfl⟩ :=
      ih (fun t' ht' => hoff t' (List.mem_cons_of_mem _ ht')) hwhole.2
    cases t with
    | gone a => exact ⟨a :: results, .cons ht hresults, rfl⟩
    | broken => exact absurd rfl hwhole.1
    | working e' | holding a | delivered a =>
        exact absurd (hoff _ List.mem_cons_self) (by simp [TaskPhase.counts])

/--
**What is dispatched are the first queue and the results of all effects.**

Each effect has been carried out by one task, and each result is dispatched once. The
results may come in any order, but none comes before the first queue. The audience has
heard of all that has been dispatched.
-/
theorem origins_of_idle (hone : conduct.OneTaskEach) (h : Steps conduct (.ofLoop l) c)
    (hidle : c.phase = .idle) (hwhole : TaskPhase.broken ∉ c.tasks) :
    ∃ results arrived,
      List.Forall₂ conduct.answers
        (l.works ++ (l.dispatcher.dispatchAll c.dispatched).2.effects) results ∧
      c.tasks = results.map .gone ∧ arrived.Perm results ∧
      c.dispatched = l.queue ++ arrived ∧
      c.audience = l.audience.emitAll (l.dispatcher.dispatchAll c.dispatched).2.events := by
  have horderly := orderly_steps h
  have htraced := traced_steps hone h
  obtain ⟨es, hes, heffects⟩ := htraced.tasks
  rw [hidle] at heffects
  obtain rfl := (List.append_nil es).symm.trans heffects
  have hoff : ∀ t ∈ c.tasks, t.counts = false := by
    have hcounting := horderly.quiet (by rw [hidle]; trivial)
    exact fun t ht => Bool.eq_false_iff.mpr (List.countP_eq_zero.mp hcounting t ht)
  obtain ⟨results, hresults, hgone⟩ := exists_results hes hoff hwhole
  -- the queue is empty, so all that was ever in it has been dispatched
  obtain ⟨arrived, harrived⟩ := htraced.first
  have hall : c.queued = c.dispatched := by
    rw [horderly.inOrder, horderly.emptied hidle, List.append_nil]
  have hdelivered : c.tasks.filterMap TaskPhase.delivery? = results := by
    rw [hgone, List.filterMap_map]
    exact List.filterMap_some
  have hperm := horderly.accounted
  rw [← harrived, htraced.enqueued, hdelivered, List.perm_append_left_iff] at hperm
  exact ⟨results, arrived, hresults, hgone, hperm, by rw [← hall, harrived], htraced.audience⟩

end Interleaving

end OpenBadges
