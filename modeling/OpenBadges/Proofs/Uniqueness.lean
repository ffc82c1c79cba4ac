import Mathlib.Data.List.Induction
import OpenBadges.Proofs.Identity
import OpenBadges.Proofs.StoreOrder

/-!
# When identities stay apart

Whatever brings items into a collection puts each in the place of the one with its
identity, so that no identity occurs twice. One thing only does not look: setting
a single field of an item, when data that was sent has arrived. If that field is
the one that identifies the items, the item may come to have the identity of
another (`identity_taken`).

`Clashes` says when this happens. It is exact: an action that finds all identities
apart leaves them so if and only if it does not clash (`distinct_handle`), and
therefore so does a run (`distinct_iff_not_clashes`).
-/

namespace OpenBadges

namespace CollectionStore

/-- No two items of a collection have the same identity. -/
def Distinct (s : CollectionStore) : Prop :=
  ∀ key, Items.Distinct (s.identifyingField key) (s.items key)

/-- The field that the action sets would give an item of the collection the identity of another. -/
def Clashes (s : CollectionStore) : Action → Prop
  | .apiSubmitDataDidSucceed context body =>
    ∃ u, context.partialUpdate = some u ∧
      Items.TakesIdentity (s.identifyingField context.collection) u.searchKey u.searchValue
        u.updateKey (u.updateValue.getD body) (s.items context.collection)
  | _ => False

/-! ## Operations on one collection -/

theorem distinct_empty (specs : Dict CollectionSpec) : Distinct { specs := specs } :=
  fun _ => Items.distinct_nil _

theorem items_setItems (s : CollectionStore) (key key' : String) (items : List Item) :
    (s.setItems key items).items key' = if key' = key then items else s.items key' := by
  simp only [CollectionStore.items, setItems, Dict.get?_insert]
  split <;> rfl

theorem hasCollection_setItems (s : CollectionStore) (key key' : String) (items : List Item) :
    (s.setItems key items).hasCollection key' = (decide (key' = key) || s.hasCollection key') := by
  simp only [hasCollection, Dict.contains, setItems, Dict.get?_insert]
  by_cases hkey : key' = key
  · rw [if_pos hkey, decide_eq_true hkey]
    rfl
  · rw [if_neg hkey, decide_eq_false hkey, Bool.false_or]

/-- The other collections are as they were. -/
theorem distinct_setItems {s : CollectionStore} (h : s.Distinct) (key : String)
    (items : List Item) :
    (s.setItems key items).Distinct ↔ Items.Distinct (s.identifyingField key) items := by
  constructor
  · intro hdist
    have hkey := hdist key
    rw [items_setItems, if_pos rfl] at hkey
    exact hkey
  · intro hitems key'
    rw [items_setItems]
    split
    · rename_i heq
      subst heq
      exact hitems
    · exact h key'

theorem distinct_load {s : CollectionStore} (h : s.Distinct) (context : RequestContext)
    (body : Json) : (s.load context body).Distinct := by
  refine (distinct_setItems h _ _).mpr (Items.distinct_addAll _ ?_)
  split
  · exact Items.distinct_nil _
  · exact h context.collection

theorem distinct_loadAll (initial : List (String × List Item)) : ∀ {s : CollectionStore},
    s.Distinct → (s.loadAll initial).Distinct := by
  induction initial with
  | nil => intro s h; exact h
  | cons e initial ih =>
    intro s h
    exact ih ((distinct_setItems h _ _).mpr (Items.distinct_addAll _ (Items.distinct_nil _)))

theorem distinct_fetchCollections (keys : List String) : ∀ {s : CollectionStore},
    s.Distinct → (s.fetchCollections keys).2.Distinct := by
  induction keys with
  | nil => intro s h; exact h
  | cons key keys ih =>
    intro s h
    rw [fetchCollections]
    split
    · exact ih h
    · rename_i context _
      split
      · exact ih h
      · exact ih (s := (s.getData context).2) h

theorem distinct_onFormResult {s : CollectionStore} (h : s.Distinct) (context : RequestContext)
    (result : Json) : (s.onFormResult context result).1.Distinct := by
  have hitems := h context.collection
  rw [onFormResult]
  -- by the method of the call: the item goes, takes its place, or is stored
  split
  · rw [removeItem?]
    cases hr : Items.remove? (s.identifyingField context.collection) (s.items context.collection)
        result with
    | none => exact h
    | some r => exact (distinct_setItems h _ _).mpr (Items.distinct_remove? hitems hr)
  · split
    · exact h
    · exact (distinct_setItems h _ _).mpr (Items.distinct_replace hitems result)
  · split
    · exact h
    · refine (distinct_setItems h _ _).mpr ?_
      rw [Items.add_eq_replace]
      exact Items.distinct_replace hitems result

/-- **Data that was sent leaves identities apart unless it clashes.** -/
theorem distinct_onDataSent {s : CollectionStore} (h : s.Distinct) (context : RequestContext)
    (body : Json) :
    (s.onDataSent context body).1.Distinct ↔
      ¬s.Clashes (.apiSubmitDataDidSucceed context body) := by
  rw [onDataSent]
  cases hu : context.partialUpdate with
  | none =>
      refine iff_of_true h ?_
      rintro ⟨u, hu', _⟩
      rw [hu] at hu'
      exact absurd hu' (by simp)
  | some u =>
      have hclash : s.Clashes (.apiSubmitDataDidSucceed context body) ↔
          Items.TakesIdentity (s.identifyingField context.collection) u.searchKey u.searchValue
            u.updateKey (u.updateValue.getD body) (s.items context.collection) := by
        rw [Clashes, hu]
        simp
      dsimp only
      rw [hclash, setField?]
      cases hset : Items.setField? u.searchKey u.searchValue u.updateKey (u.updateValue.getD body)
          (s.items context.collection) with
      | none =>
          -- nothing is set, and then no item was found
          exact iff_of_true h (Items.not_takesIdentity_of_setField? hset)
      | some r =>
          have hitems := Items.distinct_setField? (h context.collection) hset
          exact (distinct_setItems h _ _).trans hitems

/-! ## Actions and runs -/

/-- **An action leaves identities apart exactly when it does not clash.** -/
theorem distinct_handle {s : CollectionStore} (h : s.Distinct) (registry : FormRegistry)
    (forms : FormStore) (a : Action) :
    (s.handle registry forms a).1.Distinct ↔ ¬s.Clashes a := by
  cases a with
  | appWillMount bootstrap => exact iff_of_true (distinct_loadAll _ h) id
  | formSubmit form formType params =>
      refine iff_of_true ?_ id
      rw [handle]
      split <;> exact h
  | apiGetData context =>
      refine iff_of_true ?_ id
      rw [handle]
      split <;> exact h
  | apiFetchCollections keys => exact iff_of_true (distinct_fetchCollections keys h) id
  | apiGetDataDidLoad context body =>
      exact iff_of_true (distinct_load (s := s.fetched context.collection) h context body) id
  | apiFormResultSuccess form context result m =>
      exact iff_of_true (distinct_onFormResult h context result) id
  | apiSubmitDataDidSucceed context body => exact distinct_onDataSent h context body
  | _ => exact iff_of_true h id

end CollectionStore

namespace Stores

/-- Stores without any collections yet, but with something known about them. -/
def withSpecs (s : Stores) (specs : Dict CollectionSpec) : Stores :=
  { s with collections := { specs := specs } }

/--
**Identities stay apart exactly as long as no action clashes.**

The collections may be configured in any way, the other stores may hold anything,
and the actions may come in any order.
-/
theorem distinct_iff_not_clashes (s : Stores) (specs : Dict CollectionSpec) (as : List Action) :
    (∀ bs, bs <+: as → ((s.withSpecs specs).after bs).collections.Distinct) ↔
      ∀ bs a, bs ++ [a] <+: as → ¬((s.withSpecs specs).after bs).collections.Clashes a := by
  constructor
  · intro hdist bs a hpre
    have hbefore := hdist bs ((List.prefix_append bs [a]).trans hpre)
    have hafter := hdist (bs ++ [a]) hpre
    rw [after_snoc] at hafter
    exact (CollectionStore.distinct_handle hbefore _ _ a).mp hafter
  · intro hfree bs
    induction bs using List.reverseRecOn with
    | nil => intro _; exact CollectionStore.distinct_empty specs
    | append_singleton bs a ih =>
      intro hpre
      have hbefore := ih ((List.prefix_append bs [a]).trans hpre)
      rw [after_snoc]
      exact (CollectionStore.distinct_handle hbefore _ _ a).mpr (hfree bs a hpre)

/-- Two badges arrive, and the second is then given what identifies the first. -/
def twoBadges : List Action := [
  .appWillMount { initialData := .ofList [
    ("earner_badges", [.ofFields [("id", .int 1)], .ofFields [("id", .int 2)]])] },
  .apiSubmitDataDidSucceed
    { actionUrl := "/v1/earner/badges/2"
      collection := "earner_badges"
      partialUpdate := some
        { searchKey := "id", searchValue := .int 2, updateKey := "id",
          updateValue := some (.int 1) } }
    .null]

/-- Setting the field that identifies items can give one the identity of another. -/
theorem identity_taken :
    ¬((withSpecs {} CollectionSpec.builtin).after twoBadges).collections.Distinct := by
  intro h
  have hitems : ((withSpecs {} CollectionSpec.builtin).after twoBadges).collections.items
      "earner_badges" = [.ofFields [("id", .int 1)], .ofFields [("id", .int 1)]] := rfl
  have hfield : ((withSpecs {} CollectionSpec.builtin).after twoBadges).collections.identifyingField
      "earner_badges" = "id" := rfl
  have hbadges := h "earner_badges"
  rw [hitems, hfield] at hbadges
  exact hbadges 0 1 _ _ (by decide) rfl rfl ⟨.int 1, .int 1, rfl, rfl, rfl⟩

end Stores

end OpenBadges
