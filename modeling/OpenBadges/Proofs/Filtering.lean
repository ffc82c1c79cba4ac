import OpenBadges.Proofs.Existence
import OpenBadges.Proofs.Uniqueness

/-!
# Asking for items does not disturb them

To ask a collection for the items that pass a filter makes the collection exist, if it
does not yet. So a question is also a change, and what comes later might go another way:
loading, setting a field and taking an item out all begin with a look at the collection.
But they look at its items only, and a collection that does not exist has as many items
as one that is empty.

Two runs are held against each other here, one with the questions and one without. The
stores of the two are `Undisturbed` all along: the same but for collections that exist
in the one because somebody has asked for them. Each store that handles an action keeps
it so and comes to the same outcome in both (`Undisturbed.handler`), in whatever order
the stores are wired, and a question adds a collection to those asked for
(`Undisturbed.filter`).
-/

namespace OpenBadges

/-! ## The collections -/

namespace CollectionStore

/-- The store with other collections. -/
def withData (s : CollectionStore) (data : Dict (List Item)) : CollectionStore :=
  { s with data := data }

/-- A store that is the same as another, but for collections that exist because somebody has
asked for them. -/
structure Undisturbed (asked : List String) (s t : CollectionStore) : Prop where
  items : ∀ key, t.items key = s.items key
  hasCollection : ∀ key, t.hasCollection key = (s.hasCollection key || decide (key ∈ asked))
  rest : t = s.withData t.data

theorem fetchCollections_withData (data : Dict (List Item)) (keys : List String) :
    ∀ s : CollectionStore, (s.withData data).fetchCollections keys =
      ((s.fetchCollections keys).1, (s.fetchCollections keys).2.withData data) := by
  induction keys with
  | nil => intro s; rfl
  | cons key keys ih =>
    intro s
    have hspecs : (s.withData data).specs = s.specs := rfl
    have hfetching : (s.withData data).isFetching key = s.isFetching key := rfl
    rw [fetchCollections, fetchCollections, hspecs, hfetching]
    cases (s.specs.get? key).bind (·.fetch) with
    | none => exact ih s
    | some context =>
        cases s.isFetching key with
        | true => exact ih s
        | false =>
            have hrest := ih (s.getData context).2
            exact congrArg (fun r => (Effect.getData context :: r.1, r.2)) hrest

theorem writeTo_withData (s : CollectionStore) (data : Dict (List Item)) (key : String)
    (items? : Option (List Item)) :
    (s.withData data).writeTo key items? =
      (s.writeTo key items?).withData ((s.withData data).writeTo key items?).data := by
  cases items? <;> rfl

/-- **An action looks at the items of collections, and not at which collections exist.** -/
theorem handle_withData (registry : FormRegistry) (forms : FormStore) {s : CollectionStore}
    {data : Dict (List Item)} (h : ∀ key, (s.withData data).items key = s.items key) (a : Action) :
    let r := s.handle registry forms a
    let r' := (s.withData data).handle registry forms a
    r'.2 = r.2 ∧ r'.1 = r.1.withData r'.1.data := by
  intro r r'
  cases a with
  | appWillMount bootstrap =>
      refine ⟨rfl, ?_⟩
      have hr : r.1 = s.withData r.1.data := s.loadAll_frame _
      have hr' : r'.1 = s.withData r'.1.data := (s.withData data).loadAll_frame _
      rw [hr]
      exact hr'
  | formSubmit form formType params =>
      cases hsubmission : submission? registry forms form formType params with
      | none => simp only [r, r', handle, hsubmission]; exact ⟨trivial, rfl⟩
      | some submission => simp only [r, r', handle, hsubmission]; exact ⟨trivial, rfl⟩
  | apiGetData context =>
      have hlog : (s.withData data).hasRequested context.actionUrl =
          s.hasRequested context.actionUrl := rfl
      simp only [r, r', handle, hlog]
      split <;> exact ⟨rfl, rfl⟩
  | apiFetchCollections keys =>
      simp only [r, r', handle, fetchCollections_withData]
      exact ⟨trivial, rfl⟩
  | apiFormResultSuccess form context result m =>
      have hfield : (s.withData data).identifyingField = s.identifyingField := rfl
      simp only [r, r', handle, onFormResult_eq, h, hfield]
      exact ⟨trivial, s.writeTo_withData _ _ _⟩
  | apiSubmitDataDidSucceed context body =>
      simp only [r, r', handle, onDataSent_eq, h]
      exact ⟨trivial, s.writeTo_withData _ _ _⟩
  | _ => exact ⟨rfl, rfl⟩

namespace Undisturbed

variable {asked : List String} {s t : CollectionStore}

theorem refl (s : CollectionStore) : Undisturbed [] s s where
  items := fun _ => rfl
  hasCollection := fun _ => by simp
  rest := rfl

/-- **An action comes to the same outcome, and disturbs nothing.** -/
theorem handle (h : Undisturbed asked s t) (registry : FormRegistry) (forms : FormStore)
    (a : Action) :
    (t.handle registry forms a).2 = (s.handle registry forms a).2 ∧
      Undisturbed asked (s.handle registry forms a).1 (t.handle registry forms a).1 := by
  have hitems : ∀ key, (s.withData t.data).items key = s.items key := by
    rw [← h.rest]
    exact h.items
  have hdata := handle_withData registry forms hitems a
  rw [← h.rest] at hdata
  have hfield : t.identifyingField = s.identifyingField := by rw [h.rest]; rfl
  refine ⟨hdata.1, fun key => ?_, fun key => ?_, hdata.2⟩
  · rw [items_handle, items_handle, hfield, h.items]
  · rw [hasCollection_handle, hasCollection_handle, h.hasCollection, Bool.or_right_comm]

/-- **Asking for items makes a collection exist, and that is all.** -/
theorem filter (h : Undisturbed asked s t) (key field : String) (f : FilterValue) :
    Undisturbed (asked ++ [key]) s (t.filter key field f).2 where
  items := fun key' => by
    rw [CollectionStore.filter, items_setItems]
    split
    · rename_i hkey
      rw [hkey, h.items]
    · exact h.items key'
  hasCollection := fun key' => by
    rw [CollectionStore.filter, hasCollection_setItems, h.hasCollection]
    by_cases hkey : key' = key
    · simp [hkey]
    · simp [hkey]
  rest := by
    rw [CollectionStore.filter, setItems, h.rest]
    rfl

end Undisturbed

end CollectionStore

/-! ## Runs -/

namespace Stores

/-- What happens in a run: an action is dispatched, or a collection is asked for some items. -/
inductive Step where
  | dispatch (a : Action)
  | filter (key field : String) (f : FilterValue)

namespace Step

def isDispatch : Step → Bool
  | dispatch _ => true
  | filter .. => false

/-- The collection that is asked. -/
def asks? : Step → Option String
  | dispatch _ => none
  | filter key _ _ => some key

end Step

/-- The stores after a run in some wiring, and the outcome of each dispatch. -/
def perform (w : StoreWiring) (s : Stores) : List Step → Stores × List (Outcome Effect)
  | [] => (s, [])
  | .dispatch a :: steps =>
    let (d, o) := (Dispatcher.mk s w).dispatch a
    let (s, os) := d.state.perform w steps
    (s, o :: os)
  | .filter key field f :: steps =>
    { s with collections := (s.collections.filter key field f).2 }.perform w steps

/-- The stores of a run without questions, and those of one in which some collections were
asked. -/
structure Undisturbed (asked : List String) (s t : Stores) : Prop where
  collections : s.collections.Undisturbed asked t.collections
  rest : t = { s with collections := t.collections }

namespace Undisturbed

variable {asked : List String} {s t : Stores}

/-- No other store looks at the collections. -/
theorem handler (h : Undisturbed asked s t) (k : StoreKind) (a : Action) :
    (k.handler t a).2 = (k.handler s a).2 ∧
      Undisturbed asked (k.handler s a).1 (k.handler t a).1 := by
  obtain ⟨hcollections, hrest⟩ := h
  rw [hrest]
  cases k with
  | collections =>
      obtain ⟨houtcome, hafter⟩ := hcollections.handle s.registry s.forms a
      exact ⟨houtcome, hafter, rfl⟩
  | _ => exact ⟨rfl, hcollections, rfl⟩

theorem runAll (a : Action) (ks : List StoreKind) : ∀ {s t : Stores}, Undisturbed asked s t →
    (Handler.runAll (ks.map StoreKind.handler) t a).2 =
        (Handler.runAll (ks.map StoreKind.handler) s a).2 ∧
      Undisturbed asked (Handler.runAll (ks.map StoreKind.handler) s a).1
        (Handler.runAll (ks.map StoreKind.handler) t a).1 := by
  induction ks with
  | nil => intro s t h; exact ⟨rfl, h⟩
  | cons k ks ih =>
    intro s t h
    obtain ⟨houtcome, hstates⟩ := h.handler k a
    obtain ⟨houtcomes, hend⟩ := ih hstates
    exact ⟨congrArg₂ (· ++ ·) houtcome houtcomes, hend⟩

theorem dispatch {w : StoreWiring} {ks : List StoreKind}
    (hw : w.handlers = ks.map StoreKind.handler) (h : Undisturbed asked s t) (a : Action) :
    let r := (Dispatcher.mk s w).dispatch a
    let r' := (Dispatcher.mk t w).dispatch a
    r'.2 = r.2 ∧ Undisturbed asked r.1.state r'.1.state := by
  intro r r'
  simp only [r, r', Dispatcher.dispatch, hw]
  exact runAll a ks h

theorem perform {w : StoreWiring} {ks : List StoreKind}
    (hw : w.handlers = ks.map StoreKind.handler) (steps : List Step) :
    ∀ {asked : List String} {s t : Stores}, Undisturbed asked s t →
      (t.perform w steps).2 = (s.perform w (steps.filter Step.isDispatch)).2 ∧
        Undisturbed (asked ++ steps.filterMap Step.asks?)
          (s.perform w (steps.filter Step.isDispatch)).1 (t.perform w steps).1 := by
  induction steps with
  | nil =>
    intro asked s t h
    rw [List.filterMap_nil, List.append_nil]
    exact ⟨rfl, h⟩
  | cons step steps ih =>
    intro asked s t h
    cases step with
    | dispatch a =>
        obtain ⟨houtcome, hstates⟩ := h.dispatch hw a
        obtain ⟨houtcomes, hend⟩ := ih hstates
        exact ⟨congrArg₂ (· :: ·) houtcome houtcomes, hend⟩
    | filter key field f =>
        have hstates : Undisturbed (asked ++ [key]) s
            { t with collections := (t.collections.filter key field f).2 } := by
          refine ⟨h.collections.filter key field f, ?_⟩
          rw [h.rest]
        have hend := ih hstates
        rw [List.append_assoc] at hend
        exact hend

end Undisturbed

/--
**Asking for items disturbs nothing.**

However the stores are wired and whatever they hold, and however dispatches and questions
take turns: without the questions every dispatch comes to the same outcome, and in the
end every collection has the same items, and whatever else the stores hold is the same.
All that is left of the questions is that the collections that were asked exist.
-/
theorem perform_without_filters {w : StoreWiring} {ks : List StoreKind}
    (hw : w.handlers = ks.map StoreKind.handler) (s : Stores) (steps : List Step) :
    let r := s.perform w steps
    let r' := s.perform w (steps.filter Step.isDispatch)
    r.2 = r'.2 ∧
      (∀ key, r.1.collections.items key = r'.1.collections.items key) ∧
      (∀ key, r.1.collections.hasCollection key =
        (r'.1.collections.hasCollection key || decide (key ∈ steps.filterMap Step.asks?))) ∧
      r.1 = { r'.1 with
        collections := { r'.1.collections with data := r.1.collections.data } } := by
  intro r r'
  have hstart : Undisturbed [] s s := ⟨.refl _, rfl⟩
  obtain ⟨houtcomes, hend⟩ := Undisturbed.perform hw steps hstart
  rw [List.nil_append] at hend
  refine ⟨houtcomes, hend.collections.items, hend.collections.hasCollection, ?_⟩
  have hcollections : r.1.collections = { r'.1.collections with data := r.1.collections.data } :=
    hend.collections.rest
  rw [← hcollections]
  exact hend.rest

/-- The badges are asked for before they are there, and the issuers, which never come. -/
def earlyQuestions : List Step := [
  .filter "earner_badges" "id" (.one (.int 1)),
  .dispatch (.apiGetDataDidLoad (.get "/v1/earner/badges/1" "earner_badges")
    (.ofFields [("id", .int 1)])),
  .filter "issuer_issuers" "slug" (.anyOf []),
  .dispatch (.apiSubmitDataDidSucceed
    { actionUrl := "/v1/issuer/issuers", collection := "issuer_issuers",
      partialUpdate := some { searchKey := "slug", searchValue := .str "a", updateKey := "name" } }
    .null)]

/-- The badges come all the same and the issuers cannot be updated, but they exist. -/
theorem perform_without_filters_earlyQuestions :
    let w := StoreWiring.application
    let r := ({} : Stores).perform w earlyQuestions
    let r' := ({} : Stores).perform w (earlyQuestions.filter Step.isDispatch)
    w.handlers = StoreKind.all.map StoreKind.handler ∧
      r.2 = r'.2 ∧
      r'.2.map (·.events) =
        [["DATA_UPDATED", "DATA_UPDATED_earner_badges"], ["API_STORE_FAILURE"]] ∧
      r.1.collections.items "earner_badges" = [.ofFields [("id", .int 1)]] ∧
      r.1.collections.hasCollection "issuer_issuers" = true ∧
      r'.1.collections.hasCollection "issuer_issuers" = false := by
  have hw : StoreWiring.application.handlers = StoreKind.all.map StoreKind.handler := rfl
  obtain ⟨houtcomes, hitems, hexists, _⟩ := perform_without_filters hw {} earlyQuestions
  exact ⟨hw, houtcomes, rfl, hitems "earner_badges", hexists "issuer_issuers", rfl⟩

end Stores

end OpenBadges
