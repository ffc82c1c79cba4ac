import OpenBadges.Proofs.Requests

/-!
# What an action makes of one collection

Collections have as little to do with each other as forms have. `rewritten?` is
what becomes of the items of one collection, and it hangs on these items and the
action alone; where it is `none` the action leaves the collection as it is, and a
collection that does not exist yet does not come to exist. `get?_handle` says that
the store treats every collection in just this way.
-/

namespace OpenBadges.CollectionStore

/-- What the result of a submission makes of the items of its collection. -/
def resultItems? (field : String) (items : List Item) (result : Json) : Method → Option (List Item)
  | .delete => (Items.remove? field items result).map (·.2)
  | .put => if result.isNull then none else some (Items.replace field items result)
  | _ => if result.isNull then none else some (Items.add field false items result)

/-- What data that was sent makes of the items of its collection. -/
def sentItems? (items : List Item) (body : Json) (update : Option PartialUpdate) :
    Option (List Item) :=
  update.bind fun u =>
    (Items.setField? u.searchKey u.searchValue u.updateKey (u.updateValue.getD body) items).map
      (·.2)

/-- What an action makes of the items of a collection, if it touches them. -/
def rewritten? (field key : String) (items : List Item) : Action → Option (List Item)
  | .appWillMount bootstrap => (bootstrap.initialData.get? key).map (Items.addAll field [])
  | .apiGetDataDidLoad context body =>
    if key = context.collection then
      some (Items.addAll field (if context.replacesCollection then [] else items) (bodyItems body))
    else none
  | .apiFormResultSuccess _ context result _ =>
    if key = context.collection then resultItems? field items result context.method else none
  | .apiSubmitDataDidSucceed context body =>
    if key = context.collection then sentItems? items body context.partialUpdate else none
  | _ => none

/-! ## Writing to one collection -/

/-- The store with new items in a collection, if there are any. -/
def writeTo (s : CollectionStore) (key : String) (items? : Option (List Item)) : CollectionStore :=
  (items?.map (s.setItems key)).getD s

theorem get?_writeTo (s : CollectionStore) (key key' : String) (items? : Option (List Item)) :
    (s.writeTo key items?).data.get? key' =
      (if key' = key then items? else none).or (s.data.get? key') := by
  cases items? with
  | none => simp [writeTo]
  | some items =>
      have hset : (s.setItems key items).data.get? key' =
          if key' = key then some items else s.data.get? key' := s.data.get?_insert key key' items
      rw [writeTo, Option.map_some, Option.getD_some, hset]
      split <;> simp

theorem onFormResult_eq (s : CollectionStore) (context : RequestContext) (result : Json) :
    s.onFormResult context result =
      let items? := resultItems? (s.identifyingField context.collection)
        (s.items context.collection) result context.method
      (s.writeTo context.collection items?,
        if items?.isSome then updated context.collection else .unchanged) := by
  rw [onFormResult]
  cases context.method with
  | delete =>
      dsimp only [removeItem?, resultItems?]
      cases Items.remove? (s.identifyingField context.collection) (s.items context.collection)
        result <;> rfl
  | put => dsimp only [resultItems?]; split <;> rfl
  | _ => dsimp only [resultItems?]; split <;> rfl

theorem onDataSent_eq (s : CollectionStore) (context : RequestContext) (body : Json) :
    s.onDataSent context body =
      let items? := sentItems? (s.items context.collection) body context.partialUpdate
      (s.writeTo context.collection items?,
        if items?.isSome || context.partialUpdate.isNone then sent context
        else Outcome.unchanged.emit Event.apiStoreFailure) := by
  rw [onDataSent]
  cases context.partialUpdate with
  | none => rfl
  | some u =>
      dsimp only [CollectionStore.setField?, sentItems?, Option.bind_some]
      cases Items.setField? u.searchKey u.searchValue u.updateKey (u.updateValue.getD body)
        (s.items context.collection) <;> rfl

theorem get?_loadAll {initial : List (String × List Item)} (hsorted : Entries.Sorted initial)
    (key : String) : ∀ s : CollectionStore,
    (s.loadAll initial).data.get? key =
      ((Entries.find? key initial).map (Items.addAll (s.identifyingField key) [])).or
        (s.data.get? key) := by
  induction initial with
  | nil => intro s; simp [loadAll]
  | cons e initial ih =>
    intro s
    obtain ⟨key', items⟩ := e
    obtain ⟨hhead, htail⟩ := List.pairwise_cons.mp hsorted
    let s' := s.writeTo key' (some (Items.addAll (s.identifyingField key') [] items))
    have hrest : (s.loadAll ((key', items) :: initial)).data.get? key = _ := ih htail s'
    rw [hrest, get?_writeTo]
    by_cases hkey : key = key'
    · -- keys increase, so there is no second entry for the collection
      subst hkey
      have hnone : Entries.find? key initial = none := Entries.find?_eq_none_of_lt hhead
      simp [Entries.find?, hnone]
    · rw [Entries.find?, if_neg (Ne.symm hkey), if_neg hkey]
      rfl

/-- **Every collection lives its own life.** -/
theorem get?_handle (registry : FormRegistry) (forms : FormStore) (s : CollectionStore)
    (a : Action) (key : String) :
    (s.handle registry forms a).1.data.get? key =
      (rewritten? (s.identifyingField key) key (s.items key) a).or (s.data.get? key) := by
  cases a with
  | appWillMount bootstrap => exact get?_loadAll bootstrap.initialData.sorted key s
  | formSubmit form formType params =>
      rw [handle]
      split <;> rfl
  | apiGetData context =>
      rw [handle]
      split <;> rfl
  | apiFetchCollections keys =>
      have hframe := congrArg (·.data.get? key) (s.fetchCollections_frame keys)
      exact hframe
  | apiGetDataDidLoad context body =>
      have hload : (s.handle registry forms (.apiGetDataDidLoad context body)).1 =
          (s.fetched context.collection).writeTo context.collection (some
            (Items.addAll (s.identifyingField context.collection)
              (if context.replacesCollection then [] else s.items context.collection)
              (bodyItems body))) := rfl
      rw [hload, get?_writeTo, rewritten?]
      by_cases hkey : key = context.collection
      · subst hkey; rfl
      · simp only [hkey, if_false]; rfl
  | apiFormResultSuccess form context result m =>
      rw [handle, onFormResult_eq, get?_writeTo, rewritten?]
      by_cases hkey : key = context.collection
      · subst hkey; rfl
      · simp only [hkey, if_false]
  | apiSubmitDataDidSucceed context body =>
      rw [handle, onDataSent_eq, get?_writeTo, rewritten?]
      by_cases hkey : key = context.collection
      · subst hkey; rfl
      · simp only [hkey, if_false]
  | _ => rfl

theorem items_handle (registry : FormRegistry) (forms : FormStore) (s : CollectionStore)
    (a : Action) (key : String) :
    (s.handle registry forms a).1.items key =
      (rewritten? (s.identifyingField key) key (s.items key) a).getD (s.items key) := by
  rw [CollectionStore.items, get?_handle]
  cases rewritten? (s.identifyingField key) key (s.items key) a <;> rfl

end OpenBadges.CollectionStore
