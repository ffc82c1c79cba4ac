import OpenBadges.Proofs.ChangeReports
import OpenBadges.Proofs.Upsert

/-!
# One field of one item

Data that was sent may be about a single field of a single item, and what it was sent
with says how to find that item. An update like this can go wrong in several places: the
collection may not exist, no item may have the value searched for, and what is found
may have no fields. It never goes wrong halfway. Only objects have fields to search in, so
whatever is found can be updated, and what is left is to find nothing
(`setField?_eq_none`). Then nothing is changed, and the failure is announced alone.

If an item is found it is the first one, and that item gets the one field
(`SetsFirst`). Everything else stays where and as it is.
-/

namespace OpenBadges

/-- The item has the value that the update searches for, in the field that it searches in. -/
def PartialUpdate.Seeks (u : PartialUpdate) (item : Item) : Prop :=
  ∃ v, item.get? u.searchKey = some v ∧ (v == u.searchValue) = true

namespace Items

/-- The first item that the update seeks gets the value in the field to update, and all its other
fields and all other items are the same. -/
inductive SetsFirst (u : PartialUpdate) (value : Json) : List Item → List Item → Prop where
  | intro {before after : List Item} {old changed : Item} :
      (∀ item ∈ before, ¬u.Seeks item) → u.Seeks old →
      (∀ field, changed.get? field = if field = u.updateKey then some value else old.get? field) →
      SetsFirst u value (before ++ old :: after) (before ++ changed :: after)

/-! ## The items of a collection -/

theorem holds_eq_true_iff {u : PartialUpdate} {item : Item} :
    holds u.searchKey u.searchValue item = true ↔ u.Seeks item :=
  Option.any_eq_true _ _

theorem exists_set?_of_seeks {u : PartialUpdate} {item : Item} (h : u.Seeks item) (value : Json) :
    ∃ changed, item.set? u.updateKey value = some changed := by
  obtain ⟨v, hv, _⟩ := h
  cases item with
  | obj fields => exact ⟨_, rfl⟩
  | _ => exact absurd hv (by simp [Json.get?])

/-- **No field is set just if no item is sought.** -/
theorem setField?_eq_none {u : PartialUpdate} {value : Json} {items : List Item}
    (h : ∀ item ∈ items, ¬u.Seeks item) :
    setField? u.searchKey u.searchValue u.updateKey value items = none := by
  have hnone : items.findIdx? (holds u.searchKey u.searchValue) = none := by
    refine List.findIdx?_eq_none_iff.mpr fun item hmem => ?_
    rw [← Bool.not_eq_true, holds_eq_true_iff]
    exact h item hmem
  rw [setField?, hnone]
  rfl

theorem setField?_eq_some_of_seeks {u : PartialUpdate} (value : Json) {items : List Item}
    (h : ∃ item ∈ items, u.Seeks item) :
    ∃ changed items', SetsFirst u value items items' ∧
      setField? u.searchKey u.searchValue u.updateKey value items = some (changed, items') := by
  obtain ⟨item, hmem, hseeks⟩ := h
  cases hi : items.findIdx? (holds u.searchKey u.searchValue) with
  | none =>
      have hnot := List.findIdx?_eq_none_iff.mp hi item hmem
      rw [holds_eq_true_iff.mpr hseeks] at hnot
      exact Bool.noConfusion hnot
  | some i =>
      obtain ⟨hlt, hold, hbefore⟩ := List.findIdx?_eq_some_iff_getElem.mp hi
      obtain ⟨changed, hchanged⟩ := exists_set?_of_seeks (holds_eq_true_iff.mp hold) value
      have hitems : items = items.take i ++ items[i] :: items.drop (i + 1) := by
        rw [List.getElem_cons_drop, List.take_append_drop]
      have hset : items.set i changed = items.take i ++ changed :: items.drop (i + 1) := by
        rw [List.set_eq_take_append_cons_drop, if_pos hlt]
      have hfirst : ∀ a ∈ items.take i, ¬u.Seeks a := by
        intro a ha hseeks
        obtain ⟨j, hj, rfl⟩ := List.mem_take_iff_getElem.mp ha
        exact hbefore j (by omega) (holds_eq_true_iff.mpr hseeks)
      refine ⟨changed, items.set i changed, ?_, ?_⟩
      · rw [hset]
        have hsets : SetsFirst u value (items.take i ++ items[i] :: items.drop (i + 1))
            (items.take i ++ changed :: items.drop (i + 1)) :=
          .intro hfirst (holds_eq_true_iff.mp hold) (get?_set? hchanged)
        rw [← hitems] at hsets
        exact hsets
      · simp only [setField?, hi, List.getElem?_eq_getElem hlt, hchanged, Option.bind_eq_bind,
          Option.bind_some, Option.pure_def]

end Items

/-! ## A dispatch -/

namespace CollectionStore

theorem onDataSent_of_seeks (s : CollectionStore) (context : RequestContext) {u : PartialUpdate}
    (body : Json) (hu : context.partialUpdate = some u)
    (h : ∃ item ∈ s.items context.collection, u.Seeks item) :
    ∃ items', Items.SetsFirst u (u.updateValue.getD body) (s.items context.collection) items' ∧
      s.onDataSent context body = (s.setItems context.collection items', sent context) := by
  obtain ⟨changed, items', hsets, hset⟩ :=
    Items.setField?_eq_some_of_seeks (u.updateValue.getD body) h
  refine ⟨items', hsets, ?_⟩
  have hitems : sentItems? (s.items context.collection) body (some u) = some items' := by
    rw [sentItems?, Option.bind_some, hset]
    rfl
  rw [onDataSent_eq, hu, hitems]
  rfl

theorem onDataSent_of_not_seeks (s : CollectionStore) (context : RequestContext)
    {u : PartialUpdate} (body : Json) (hu : context.partialUpdate = some u)
    (h : ∀ item ∈ s.items context.collection, ¬u.Seeks item) :
    s.onDataSent context body = (s, Outcome.unchanged.emit Event.apiStoreFailure) := by
  have hitems : sentItems? (s.items context.collection) body (some u) = none := by
    rw [sentItems?, Option.bind_some, Items.setField?_eq_none h]
    rfl
  rw [onDataSent_eq, hu, hitems]
  rfl

theorem sent_eq (context : RequestContext) :
    sent context = {
      changed := true
      events := [Event.dataUpdated, Event.dataUpdatedFor context.collection] ++
        (context.formId.map Event.formDataUpdated).toList } := by
  rw [sent]
  cases context.formId <;> rfl

end CollectionStore

namespace Stores

/-- Only the collections listen to data that was sent. -/
theorem dispatch_apiSubmitDataDidSucceed (s : Stores) (context : RequestContext) (body : Json) :
    (Dispatcher.mk s StoreWiring.application).dispatch (.apiSubmitDataDidSucceed context body) =
      (⟨{ s.forgetting with collections := (s.collections.onDataSent context body).1 },
        StoreWiring.application⟩, (s.collections.onDataSent context body).2) := by
  have houtcome : ∀ k, k ≠ .collections →
      s.outcomeOf (.apiSubmitDataDidSucceed context body) k = .unchanged := by
    intro k hk
    cases k with
    | collections => exact absurd rfl hk
    | _ => rfl
  rw [StoreWiring.application_runsAs.dispatch]
  refine Prod.ext rfl ?_
  simp only [outcomes, StoreKind.all, List.foldr_cons, List.foldr_nil]
  rw [houtcome .forms (by decide), houtcome .panels (by decide), houtcome .route (by decide),
    houtcome .user (by decide), houtcome .menu (by decide)]
  simp only [Outcome.unchanged_append, Outcome.append_unchanged]
  rfl

/--
**An update sets one field of one item, or nothing.**

Whatever the stores hold: if some item of the collection is one that is sought, the first such
item gets the field, the value being the one that was sent along or else the body, and
the change is announced for the collection and for the form, if there is one. If there is no
such item, nothing is changed, and all that is announced is a failure. All else the stores
hold stays as it is, but for the submission that was accepted last, which every dispatch
withdraws.
-/
theorem dispatch_partialUpdate (s : Stores) (context : RequestContext) (u : PartialUpdate)
    (body : Json) :
    let r := (Dispatcher.mk s StoreWiring.application).dispatch
      (.apiSubmitDataDidSucceed { context with partialUpdate := some u } body)
    let items := s.collections.items context.collection
    ((∃ item ∈ items, u.Seeks item) → ∃ items',
      Items.SetsFirst u (u.updateValue.getD body) items items' ∧
      s.collections.Writes r.1.state.collections context.collection items' ∧
      r.1.state = { s.forgetting with collections := r.1.state.collections } ∧
      r.2 = {
        changed := true
        events := [Event.dataUpdated, Event.dataUpdatedFor context.collection] ++
          (context.formId.map Event.formDataUpdated).toList }) ∧
    ((∀ item ∈ items, ¬u.Seeks item) →
      r.1.state = s.forgetting ∧ r.2 = { events := [Event.apiStoreFailure] }) := by
  intro r items
  have hr : r = _ :=
    s.dispatch_apiSubmitDataDidSucceed { context with partialUpdate := some u } body
  rw [hr]
  refine ⟨fun hsought => ?_, fun hnone => ?_⟩
  · obtain ⟨items', hsets, hsent⟩ := s.collections.onDataSent_of_seeks
      { context with partialUpdate := some u } body rfl hsought
    refine ⟨items', hsets, ?_, rfl, ?_⟩
    · rw [hsent]
      exact s.collections.writes_setItems _ _
    · rw [hsent]
      exact CollectionStore.sent_eq _
  · have hsent := s.collections.onDataSent_of_not_seeks
      { context with partialUpdate := some u } body rfl hnone
    rw [hsent]
    exact ⟨rfl, rfl⟩

/-- The items of a badge that is there twice, and of one without a name. -/
def shownBadges : Stores := ({} : Stores).after [.appWillMount { initialData := .ofList [
  ("earner_badges", [.ofFields [("id", .int 1)], .ofFields [("id", .int 2), ("slug", .str "a")],
    .ofFields [("id", .int 3), ("slug", .str "a")]])] }]

/-- Hides a badge, in the name of a form. -/
def hide (slug : String) : PartialUpdate :=
  { searchKey := "slug", searchValue := .str slug, updateKey := "hidden" }

def hideContext : RequestContext :=
  { actionUrl := "/v1/earner/badges", collection := "earner_badges", formId := some "f" }

theorem exists_seeks_shownBadges :
    ∃ item ∈ shownBadges.collections.items "earner_badges", (hide "a").Seeks item :=
  ⟨_, List.mem_cons_of_mem _ List.mem_cons_self, .str "a", rfl, rfl⟩

/-- The first of the two is hidden, and a badge that is not there cannot be. -/
theorem dispatch_partialUpdate_hide :
    let r (slug : String) := (Dispatcher.mk shownBadges StoreWiring.application).dispatch
      (.apiSubmitDataDidSucceed { hideContext with partialUpdate := some (hide slug) }
        (.bool true))
    (∃ item ∈ shownBadges.collections.items "earner_badges", (hide "a").Seeks item) ∧
      (r "a").2.events = ["DATA_UPDATED", "DATA_UPDATED_earner_badges", "FORM_DATA_UPDATED_f"] ∧
      (r "a").1.state.collections.items "earner_badges" =
        [.ofFields [("id", .int 1)],
          .ofFields [("id", .int 2), ("slug", .str "a"), ("hidden", .bool true)],
          .ofFields [("id", .int 3), ("slug", .str "a")]] ∧
      (∀ item ∈ shownBadges.collections.items "earner_badges", ¬(hide "b").Seeks item) ∧
      (r "b").1.state = shownBadges.forgetting ∧ (r "b").2.events = ["API_STORE_FAILURE"] := by
  have hnone : ∀ item ∈ shownBadges.collections.items "earner_badges",
      ¬(hide "b").Seeks item := by
    have hholds : ∀ item ∈ shownBadges.collections.items "earner_badges",
        ¬Items.holds "slug" (.str "b") item = true := by decide
    intro item hmem hseeks
    exact hholds item hmem (Items.holds_eq_true_iff.mpr hseeks)
  obtain ⟨_, _, _, _, hfound⟩ :=
    (dispatch_partialUpdate shownBadges hideContext (hide "a") (.bool true)).1
      exists_seeks_shownBadges
  obtain ⟨hstate, hfailed⟩ :=
    (dispatch_partialUpdate shownBadges hideContext (hide "b") (.bool true)).2 hnone
  exact ⟨exists_seeks_shownBadges, congrArg (·.events) hfound, rfl, hnone, hstate,
    congrArg (·.events) hfailed⟩

/-- The badges are shown, and a form has been submitted. -/
def submittedBadges : Stores :=
  shownBadges.after [.formSubmit "f" .earnerCollectionCreate ∅]

/-- The update withdraws a submission that was accepted before it. -/
theorem dispatch_partialUpdate_withdraws :
    let r := (Dispatcher.mk submittedBadges StoreWiring.application).dispatch
      (.apiSubmitDataDidSucceed { hideContext with partialUpdate := some (hide "a") }
        (.bool true))
    (∃ item ∈ submittedBadges.collections.items "earner_badges", (hide "a").Seeks item) ∧
      submittedBadges.forms.acceptedSubmit = some "f" ∧
      r.1.state.forms.acceptedSubmit = none ∧
      ¬r.1.state = { submittedBadges with collections := r.1.state.collections } := by
  have haccepted : submittedBadges.forms.acceptedSubmit = some "f" := rfl
  refine ⟨exists_seeks_shownBadges, haccepted, rfl, fun h => ?_⟩
  have hkept : none = submittedBadges.forms.acceptedSubmit := congrArg (·.forms.acceptedSubmit) h
  rw [haccepted] at hkept
  exact nomatch hkept

end Stores

end OpenBadges
