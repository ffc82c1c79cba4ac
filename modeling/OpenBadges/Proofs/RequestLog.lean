import Mathlib.Data.List.Induction
import OpenBadges.Proofs.FormLife
import OpenBadges.Proofs.Requests

/-!
# The log is the history

Whenever the collections ask for data they make two notes: the collection is being
fetched, and the path has been requested. The first note is taken away again, the
second never is. So what the log holds is just what has been asked for so far, path
by path and in the same order, whichever kind of action has asked and whatever has
come of it.

An action that wants a single path looks into the log before it asks. As the log is
the history, it asks just if nothing has asked for that path before.
-/

namespace OpenBadges

namespace Effect

/-- The call of an effect that gets data. -/
def gets? : Effect → Option RequestContext
  | getData context => some context
  | _ => none

/-- The calls of those effects that get data, in order. -/
def gets (es : List Effect) : List RequestContext := es.filterMap gets?

/-- The paths that effects get data from, in order. -/
def paths (es : List Effect) : List String := (gets es).map (·.actionUrl)

@[simp] theorem gets_nil : gets [] = [] := rfl

@[simp] theorem gets_getData (c : RequestContext) (es : List Effect) :
    gets (getData c :: es) = c :: gets es := rfl

@[simp] theorem paths_nil : paths [] = [] := rfl

@[simp] theorem paths_append (es fs : List Effect) : paths (es ++ fs) = paths es ++ paths fs := by
  simp [paths, gets, List.filterMap_append]

end Effect

/-! ## What is noted -/

namespace CollectionStore

/-- The store with the notes of some requests for data. -/
def noteAll (s : CollectionStore) (calls : List RequestContext) : CollectionStore :=
  calls.foldl (fun s call => (s.getData call).2) s

theorem requestLog_noteAll (calls : List RequestContext) : ∀ s : CollectionStore,
    (s.noteAll calls).requestLog = s.requestLog ++ calls.map (·.actionUrl) := by
  induction calls with
  | nil => intro s; simp [noteAll]
  | cons call calls ih =>
    intro s
    have hrest : (s.noteAll (call :: calls)).requestLog = _ := ih (s.getData call).2
    rw [hrest, List.map_cons]
    simp [getData]

/-- **Whole collections are asked for with a note for each, and that is all.** -/
theorem fetchCollections_eq_noteAll (keys : List String) : ∀ s : CollectionStore,
    (s.fetchCollections keys).2 = s.noteAll (Effect.gets (s.fetchCollections keys).1) := by
  induction keys with
  | nil => intro s; rfl
  | cons key keys ih =>
    intro s
    rw [fetchCollections]
    split
    · exact ih s
    · rename_i context _
      split
      · exact ih s
      · exact ih (s.getData context).2

/-- **An action logs the paths that it asks for, and no others.** -/
theorem requestLog_handle (registry : FormRegistry) (forms : FormStore) (s : CollectionStore)
    (a : Action) :
    (s.handle registry forms a).1.requestLog =
      s.requestLog ++ Effect.paths (s.handle registry forms a).2.effects := by
  cases a with
  | appWillMount bootstrap =>
      rw [handle, loadAll_frame]
      exact (List.append_nil _).symm
  | formSubmit form formType params =>
      rw [handle]
      split <;> exact (List.append_nil _).symm
  | apiGetData context =>
      rw [handle]
      split
      · exact (List.append_nil _).symm
      · rfl
  | apiFetchCollections keys =>
      have hnotes := congrArg (·.requestLog) (s.fetchCollections_eq_noteAll keys)
      exact hnotes.trans (s.requestLog_noteAll _)
  | apiFormResultSuccess form context result m =>
      rw [effects_of_isAnswer rfl, handle, onFormResult_frame]
      exact (List.append_nil _).symm
  | apiSubmitDataDidSucceed context body =>
      rw [effects_of_isAnswer rfl, handle, onDataSent_frame]
      exact (List.append_nil _).symm
  | _ => exact (List.append_nil _).symm

end CollectionStore

/-! ## Runs -/

namespace Stores

/-- **What a dispatch asks for is added to the log.** -/
theorem requestLog_dispatch (s : Stores) (a : Action) :
    let r := (Dispatcher.mk s StoreWiring.application).dispatch a
    r.1.state.collections.requestLog = s.collections.requestLog ++ Effect.paths r.2.effects := by
  intro r
  rw [state_dispatch, effects_dispatch]
  exact CollectionStore.requestLog_handle ..

theorem requestLog_after (s : Stores) (as : List Action) :
    (s.after as).collections.requestLog =
      s.collections.requestLog ++
        Effect.paths ((Dispatcher.mk s StoreWiring.application).dispatchAll as).2.effects := by
  induction as using List.reverseRecOn with
  | nil => exact (List.append_nil _).symm
  | append_singleton as a ih =>
      have hstep := (s.after as).requestLog_dispatch a
      rw [after, Dispatcher.dispatchAll_snoc, fst_dispatchAll, Outcome.effects_append,
        Effect.paths_append, ← List.append_assoc, ← ih]
      exact hstep

/-- An action that wants one path asks for it unless the path is in the log. -/
theorem effects_apiGetData {context : RequestContext} (h : context.replacesCollection = false)
    (s : Stores) :
    ((Dispatcher.mk s StoreWiring.application).dispatch (.apiGetData context)).2.effects =
      if context.actionUrl ∈ s.collections.requestLog then [] else [.getData context] := by
  rw [effects_dispatch, outcomeOf, CollectionStore.handle, CollectionStore.hasRequested, h]
  by_cases hlog : context.actionUrl ∈ s.collections.requestLog <;>
    simp [hlog, Outcome.unchanged, Outcome.ofEffects, CollectionStore.getData]

/--
**The log is the history of what has been asked for.**

Collections and forms may be configured in any way, and anything may have happened. The
log holds the paths that data was asked for from, in the order in which it was, and an
action that wants one path without replacing the collection asks for it just if nothing
has asked for that path before, by whichever kind of action and for whichever collection.
So it never makes a path one that was asked for twice.
-/
theorem requestLog_eq_history (specs : Dict CollectionSpec) (registry : FormRegistry)
    (as : List Action) :
    let r := (Dispatcher.mk (fresh specs registry) StoreWiring.application).dispatchAll as
    r.1.state.collections.requestLog = Effect.paths r.2.effects ∧
    ∀ context : RequestContext, context.replacesCollection = false →
      let o := (r.1.dispatch (.apiGetData context)).2
      o.effects = (if context.actionUrl ∈ Effect.paths r.2.effects then []
        else [.getData context]) ∧
      (Effect.paths (r.2.effects ++ o.effects)).count context.actionUrl =
        max 1 ((Effect.paths r.2.effects).count context.actionUrl) := by
  intro r
  have hstate : r.1 = ⟨(fresh specs registry).after as, StoreWiring.application⟩ :=
    fst_dispatchAll ..
  have hlog : ((fresh specs registry).after as).collections.requestLog =
      Effect.paths r.2.effects := requestLog_after ..
  rw [hstate]
  refine ⟨hlog, fun context hmerges => ?_⟩
  have heffects := effects_apiGetData hmerges ((fresh specs registry).after as)
  rw [hlog] at heffects
  refine ⟨heffects, ?_⟩
  rw [heffects, Effect.paths_append, List.count_append]
  by_cases hold : context.actionUrl ∈ Effect.paths r.2.effects
  · -- asked for already, and not again
    have hpos := List.count_pos_iff.mpr hold
    rw [if_pos hold, Effect.paths_nil, List.count_nil]
    omega
  · have hnone := List.count_eq_zero.mpr hold
    rw [if_neg hold, hnone]
    simp [Effect.paths]

end Stores

end OpenBadges
