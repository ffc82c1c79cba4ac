import OpenBadges.Proofs.Announcements
import OpenBadges.Proofs.RequestLog

/-!
# What is reported as a change

Every store says of an action whether it has changed anything, and a dispatch has if a
store has. Here this report is held against the stores themselves. One thing remains
out of consideration, the submission that was accepted last: the next dispatch withdraws
it in any case.

A store that reports nothing has changed nothing, with one exception. To ask for data
the collections make two notes, of the collection and of the path, and they report an
effect and no change. `next_of_unchanged` says what a dispatch without a report
may have done, which is to make these notes; `unreported_iff` that a report is missing
just when there are some.
-/

namespace OpenBadges

/-! ## Stores that report nothing -/

theorem FormStore.records_of_unchanged {registry : FormRegistry} {s : FormStore} {a : Action}
    (h : (s.handle registry a).2.changed = false) :
    (s.handle registry a).1.records = s.records := by
  rw [handle] at h ⊢
  rcases react_cases registry { s with acceptedSubmit := none } a with
    ⟨hrecords, _⟩ | ⟨form, r, _, hupdated⟩
  · exact hrecords
  · -- a form with another record is reported
    rw [hupdated] at h
    exact absurd h (by simp [updated, Outcome.emit, Outcome.change])

namespace CollectionStore

theorem changed_sent (context : RequestContext) : (sent context).changed = true := by
  rw [sent]
  split <;> rfl

/-- **Collections that report no change have made notes and done nothing else.** -/
theorem handle_of_unchanged {registry : FormRegistry} {forms : FormStore} {s : CollectionStore}
    {a : Action} (h : (s.handle registry forms a).2.changed = false) :
    (s.handle registry forms a).1 =
      s.noteAll (Effect.gets (s.handle registry forms a).2.effects) := by
  cases a with
  | appWillMount bootstrap => exact absurd h (by simp [handle, Outcome.emit, Outcome.change])
  | formSubmit form formType params =>
      rw [handle]
      split <;> rfl
  | apiGetData context =>
      rw [handle]
      split <;> rfl
  | apiFetchCollections keys => exact s.fetchCollections_eq_noteAll keys
  | apiGetDataDidLoad context body =>
      exact absurd h (by simp [handle, updated, Outcome.emit, Outcome.change])
  | apiGetDataDidFail context failure =>
      exact absurd h (by simp [handle, fail, Outcome.emit, Outcome.change])
  | apiFormResultSuccess form context result m =>
      rw [effects_of_isAnswer rfl, handle, onFormResult_eq]
      rw [handle, onFormResult_eq] at h
      dsimp only at h ⊢
      cases hitems : resultItems? (s.identifyingField context.collection)
          (s.items context.collection) result context.method with
      | none => rfl
      | some items =>
          rw [hitems] at h
          exact absurd h (by simp [updated, Outcome.emit, Outcome.change])
  | apiSubmitDataDidSucceed context body =>
      rw [effects_of_isAnswer rfl, handle, onDataSent_eq]
      rw [handle, onDataSent_eq] at h
      dsimp only at h ⊢
      cases hitems : sentItems? (s.items context.collection) body context.partialUpdate with
      | none => rfl
      | some items =>
          rw [hitems] at h
          exact absurd h (by simp [changed_sent])
  | apiSubmitDataDidFail context failure =>
      exact absurd h (by simp [handle, fail, Outcome.emit, Outcome.change])
  | _ => rfl

/-- Only two kinds of actions ask for data. -/
theorem asks_of_gets {registry : FormRegistry} {forms : FormStore} {s : CollectionStore}
    {a : Action} (h : Effect.gets (s.handle registry forms a).2.effects ≠ []) :
    (∃ context, a = .apiGetData context) ∨ ∃ keys, a = .apiFetchCollections keys := by
  cases a with
  | apiGetData context => exact .inl ⟨context, rfl⟩
  | apiFetchCollections keys => exact .inr ⟨keys, rfl⟩
  | formSubmit form formType params =>
      rw [handle] at h
      split at h <;> exact absurd rfl h
  | apiFormResultSuccess form context result m =>
      rw [effects_of_isAnswer rfl] at h
      exact absurd rfl h
  | apiSubmitDataDidSucceed context body =>
      rw [effects_of_isAnswer rfl] at h
      exact absurd rfl h
  | _ => exact absurd rfl h

end CollectionStore

/-! ## A dispatch -/

namespace Stores

/-- The stores with no memory of the submission that was accepted last. -/
def forgetting (s : Stores) : Stores := { s with forms := { s.forms with acceptedSubmit := none } }

/-- The stores with the notes of some requests for data. -/
def noting (s : Stores) (calls : List RequestContext) : Stores :=
  { s with collections := s.collections.noteAll calls }

/-- The stores behind the screen report whatever they do. -/
theorem views_of_unchanged {s : Stores} {a : Action}
    (h : ∀ k, (s.outcomeOf a k).changed = false) :
    (s.next a).panels = s.panels ∧ (s.next a).route = s.route ∧ (s.next a).user = s.user ∧
      (s.next a).menu = s.menu := by
  cases a with
  | activeActionUpdated view panel => exact Bool.noConfusion (h .panels)
  | activeActionCleared view => exact Bool.noConfusion (h .panels)
  | routeChanged href => exact Bool.noConfusion (h .route)
  | appWillMount bootstrap => exact Bool.noConfusion (h .user)
  | openDialog dialog => exact Bool.noConfusion (h .menu)
  | closeModal => exact Bool.noConfusion (h .menu)
  | _ => exact ⟨rfl, rfl, rfl, rfl⟩

/-- **A dispatch that reports no change has made notes and done nothing else.** -/
theorem next_of_unchanged {s : Stores} {a : Action}
    (h : ((Dispatcher.mk s StoreWiring.application).dispatch a).2.changed = false) :
    (s.next a).forgetting =
      (s.noting (Effect.gets (s.outcomeOf a .collections).effects)).forgetting := by
  have hsilent : ∀ k, (s.outcomeOf a k).changed = false := by
    intro k
    rw [changed_dispatch, List.any_eq_false] at h
    exact Bool.eq_false_iff.mpr (h k (StoreWiring.application_runsAs.mem k))
  have hforms : (s.next a).forms.records = s.forms.records :=
    FormStore.records_of_unchanged (hsilent .forms)
  have hcollections : (s.next a).collections =
      s.collections.noteAll (Effect.gets (s.outcomeOf a .collections).effects) :=
    CollectionStore.handle_of_unchanged (hsilent .collections)
  obtain ⟨hpanels, hroute, huser, hmenu⟩ := views_of_unchanged hsilent
  have hregistry : (s.next a).registry = s.registry := rfl
  simp only [forgetting, noting, hforms, hcollections, hpanels, hroute, huser, hmenu, hregistry]

/-- Whoever asks for data reports no change. -/
theorem changed_of_gets {s : Stores} {a : Action}
    (h : Effect.gets (s.outcomeOf a .collections).effects ≠ []) :
    ((Dispatcher.mk s StoreWiring.application).dispatch a).2.changed = false := by
  rw [changed_dispatch, List.any_eq_false]
  intro k _
  rw [Bool.not_eq_true]
  rcases CollectionStore.asks_of_gets h with ⟨context, rfl⟩ | ⟨keys, rfl⟩
  · cases k with
    | collections =>
        rw [outcomeOf, CollectionStore.handle]
        split <;> rfl
    | _ => rfl
  · cases k <;> rfl

/-- Notes of requests show, since the log gets longer. -/
theorem forgetting_noting_ne {s : Stores} {calls : List RequestContext} (h : calls ≠ []) :
    (s.noting calls).forgetting ≠ s.forgetting := by
  intro hsame
  have hlog := congrArg (·.collections.requestLog.length) hsame
  simp only [forgetting, noting, CollectionStore.requestLog_noteAll, List.length_append,
    List.length_map] at hlog
  have hpos := List.length_pos_iff.mpr h
  omega

/--
**A change goes unreported just when data is asked for.**

Whatever the stores hold, a dispatch that reports no change leaves all of them as they
were if and only if it asks for no data. If it does ask, it makes the notes of what it
asks for, and leaves all else as it was.
-/
theorem unreported_iff (s : Stores) (a : Action) :
    let r := (Dispatcher.mk s StoreWiring.application).dispatch a
    ((r.2.changed = false → r.1.state.forgetting = s.forgetting) ↔ Effect.gets r.2.effects = []) ∧
    (r.2.changed = false →
      r.1.state.forgetting = (s.noting (Effect.gets r.2.effects)).forgetting) := by
  intro r
  have hstate : r.1.state = s.next a := state_dispatch s a
  have heffects : r.2.effects = (s.outcomeOf a .collections).effects := effects_dispatch s a
  rw [hstate, heffects]
  refine ⟨⟨fun hsame => ?_, fun hnone hsilent => ?_⟩, next_of_unchanged⟩
  · by_contra hgets
    have hsilent : r.2.changed = false := changed_of_gets hgets
    exact forgetting_noting_ne hgets ((next_of_unchanged hsilent).symm.trans (hsame hsilent))
  · have hnotes := next_of_unchanged hsilent
    rw [hnone] at hnotes
    exact hnotes

/-- The badges are asked for: they are being fetched and their path is in the log from then on,
but no change is reported. -/
theorem unreported_request :
    let r := (Dispatcher.mk ({} : Stores) StoreWiring.application).dispatch
      (.apiGetData (.get "/v1/earner/badges" "earner_badges"))
    ¬(r.2.changed = false → r.1.state.forgetting = ({} : Stores).forgetting) ∧
      r.1.state.collections.isFetching "earner_badges" = true ∧
      ({} : Stores).collections.isFetching "earner_badges" = false ∧
      r.1.state.collections.requestLog = ["/v1/earner/badges"] := by
  refine ⟨fun h => ?_, by decide, by decide, by decide⟩
  exact absurd (congrArg (·.collections.requestLog) (h rfl)) (by decide)

end Stores

end OpenBadges
