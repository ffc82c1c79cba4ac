import OpenBadges.Store.CollectionStore

/-!
# Which collections are being fetched

Only two kinds of actions ask for data, and both note the collection when they do;
only what comes back of such a request takes the note away again. All that is done
to the items of collections leaves the notes alone, which is said once for each
operation by giving the one field that it changes (the `_frame` lemmas).
-/

namespace OpenBadges

/-- Whether an action is what came of a request. -/
def Action.isAnswer : Action → Bool
  | .apiFormResultSuccess .. | .apiFormResultFailure .. | .apiGetDataDidLoad ..
  | .apiGetDataDidFail .. | .apiSubmitDataDidSucceed .. | .apiSubmitDataDidFail .. => true
  | _ => false

namespace CollectionStore

/-! ## Operations on items change nothing else -/

theorem loadAll_frame (initial : List (String × List Item)) : ∀ s : CollectionStore,
    s.loadAll initial = { s with data := (s.loadAll initial).data } := by
  induction initial with
  | nil => intro s; rfl
  | cons e initial ih =>
    intro s
    have h := ih (s.setItems e.1 (Items.addAll (s.identifyingField e.1) [] e.2))
    exact h

theorem onFormResult_frame (s : CollectionStore) (context : RequestContext) (result : Json) :
    (s.onFormResult context result).1 =
      { s with data := (s.onFormResult context result).1.data } := by
  rw [onFormResult]
  split
  · rw [removeItem?]
    cases Items.remove? (s.identifyingField context.collection) (s.items context.collection)
      result <;> rfl
  · split <;> rfl
  · split <;> rfl

theorem onDataSent_frame (s : CollectionStore) (context : RequestContext) (body : Json) :
    (s.onDataSent context body).1 = { s with data := (s.onDataSent context body).1.data } := by
  rw [onDataSent]
  split
  · rfl
  · rename_i u _
    rw [setField?]
    cases Items.setField? u.searchKey u.searchValue u.updateKey (u.updateValue.getD body)
      (s.items context.collection) <;> rfl

theorem fetchCollections_frame (keys : List String) : ∀ s : CollectionStore,
    (s.fetchCollections keys).2 =
      { s with
        fetching := (s.fetchCollections keys).2.fetching
        requestLog := (s.fetchCollections keys).2.requestLog } := by
  induction keys with
  | nil => intro s; rfl
  | cons key keys ih =>
    intro s
    rw [fetchCollections]
    split
    · exact ih s
    · rename_i context _
      split
      · exact ih s
      · exact ih (s.getData context).2

/-! ## Asking for data -/

/-- What came of a request leads to no other request. -/
theorem effects_of_isAnswer {registry : FormRegistry} {forms : FormStore} {s : CollectionStore}
    {a : Action} (h : a.isAnswer = true) : (s.handle registry forms a).2.effects = [] := by
  cases a with
  | apiFormResultSuccess form context result m =>
      rw [handle, onFormResult]
      cases context.method with
      | delete =>
          dsimp only
          split <;> rfl
      | _ =>
          dsimp only
          split <;> rfl
  | apiSubmitDataDidSucceed context body =>
      have hsent : (sent context).effects = [] := by
        rw [sent]
        split <;> rfl
      rw [handle, onDataSent]
      split
      · exact hsent
      · split
        · exact hsent
        · rfl
  | apiFormResultFailure form m => rfl
  | apiGetDataDidLoad context body => rfl
  | apiGetDataDidFail context failure => rfl
  | apiSubmitDataDidFail context failure => rfl
  | _ => exact absurd h (by simp [Action.isAnswer])

theorem getData_of_mem_fetchCollections (keys : List String) : ∀ {s : CollectionStore} {e : Effect},
    e ∈ (s.fetchCollections keys).1 → ∃ context, e = .getData context := by
  induction keys with
  | nil => intro s e h; exact absurd h List.not_mem_nil
  | cons key keys ih =>
    intro s e h
    rw [fetchCollections] at h
    split at h
    · exact ih h
    · rename_i context _
      split at h
      · exact ih h
      · rcases List.mem_cons.mp h with rfl | h
        · exact ⟨context, rfl⟩
        · exact ih h

theorem isFetching_getData (s : CollectionStore) (context : RequestContext) (key : String) :
    (s.getData context).2.isFetching key =
      (decide (key = context.collection) || s.isFetching key) := by
  simp only [isFetching, getData, Dict.contains, Dict.get?_insert]
  by_cases h : key = context.collection <;> simp [h]

theorem isFetching_fetched (s : CollectionStore) (key key' : String) :
    (s.fetched key').isFetching key = (!decide (key = key') && s.isFetching key) := by
  simp only [isFetching, fetched, Dict.contains, Dict.get?_erase]
  by_cases h : key = key' <;> simp [h]

/-- Whatever is fetched now was fetched before, or has just been asked for. -/
theorem isFetching_fetchCollections : ∀ (keys : List String) (s : CollectionStore) {key : String},
    (s.fetchCollections keys).2.isFetching key = true → s.isFetching key = true ∨
      ∃ c, Effect.getData c ∈ (s.fetchCollections keys).1 ∧ c.collection = key := by
  intro keys
  induction keys with
  | nil => intro s key h; exact .inl h
  | cons k keys ih =>
    intro s key h
    rw [fetchCollections] at h ⊢
    split at h
    · exact ih s h
    · rename_i context _
      split at h
      · rename_i hk; simp only [hk, if_true]; exact ih s h
      · rename_i hk
        simp only [hk] at h ⊢
        rcases ih (s.getData context).2 h with h | ⟨c, hc, hkey⟩
        · rw [isFetching_getData, Bool.or_eq_true, decide_eq_true_eq] at h
          rcases h with h | h
          · exact .inr ⟨context, List.mem_cons_self, h.symm⟩
          · exact .inl h
        · exact .inr ⟨c, List.mem_cons_of_mem _ hc, hkey⟩

/-- **A collection is being fetched if it was before, or if the action asks for it.** -/
theorem isFetching_handle {registry : FormRegistry} {forms : FormStore} {s : CollectionStore}
    {a : Action} {key : String} (h : (s.handle registry forms a).1.isFetching key = true) :
    s.isFetching key = true ∨
      ∃ c, Effect.getData c ∈ (s.handle registry forms a).2.effects ∧ c.collection = key := by
  cases a with
  | appWillMount bootstrap =>
      rw [handle, loadAll_frame] at h
      exact .inl h
  | formSubmit form formType params =>
      rw [handle] at h
      split at h <;> exact .inl h
  | apiGetData context =>
      rw [handle] at h ⊢
      split at h
      · exact .inl h
      · rename_i hnot
        simp only [hnot]
        rw [isFetching_getData, Bool.or_eq_true, decide_eq_true_eq] at h
        rcases h with h | h
        · exact .inr ⟨context, List.mem_cons_self, h.symm⟩
        · exact .inl h
  | apiFetchCollections keys => exact isFetching_fetchCollections keys s h
  | apiGetDataDidLoad context body =>
      have h' : (s.fetched context.collection).isFetching key = true := h
      rw [isFetching_fetched, Bool.and_eq_true] at h'
      exact .inl h'.2
  | apiGetDataDidFail context failure =>
      have h' : (s.fetched context.collection).isFetching key = true := h
      rw [isFetching_fetched, Bool.and_eq_true] at h'
      exact .inl h'.2
  | apiFormResultSuccess form context result m =>
      rw [handle, onFormResult_frame] at h
      exact .inl h
  | apiSubmitDataDidSucceed context body =>
      rw [handle, onDataSent_frame] at h
      exact .inl h
  | _ => exact .inl h

/-- What was being fetched still is, and so is whatever has been asked for. -/
theorem isFetching_fetchCollections_of : ∀ (keys : List String) (s : CollectionStore) {key : String},
    (s.isFetching key = true ∨
      ∃ c, Effect.getData c ∈ (s.fetchCollections keys).1 ∧ c.collection = key) →
    (s.fetchCollections keys).2.isFetching key = true := by
  intro keys
  induction keys with
  | nil =>
    intro s key h
    rcases h with h | ⟨c, hc, _⟩
    · exact h
    · exact absurd hc (by simp [fetchCollections])
  | cons k keys ih =>
    intro s key h
    rw [fetchCollections] at h ⊢
    split at h
    · exact ih s h
    · rename_i context _
      split at h
      · rename_i hk; simp only [hk, if_true]; exact ih s h
      · rename_i hk
        simp only [hk] at h ⊢
        -- the note just made is there for the rest
        refine ih (s.getData context).2 ?_
        rw [isFetching_getData, Bool.or_eq_true, decide_eq_true_eq]
        rcases h with h | ⟨c, hc, hkey⟩
        · exact .inl (.inr h)
        · rcases List.mem_cons.mp hc with hc | hc
          · obtain rfl := Effect.getData.inj hc
            exact .inl (.inl hkey.symm)
          · exact .inr ⟨c, hc, hkey⟩

/-- What comes of a request for data ends the fetching. -/
theorem not_isFetching_of_result {registry : FormRegistry} {forms : FormStore}
    {s : CollectionStore} {context : RequestContext} {a : Action}
    (ha : (∃ body, a = .apiGetDataDidLoad context body) ∨
      ∃ failure, a = .apiGetDataDidFail context failure) :
    (s.handle registry forms a).1.isFetching context.collection = false := by
  have h : (s.fetched context.collection).isFetching context.collection = false := by
    rw [isFetching_fetched]; simp
  rcases ha with ⟨body, rfl⟩ | ⟨failure, rfl⟩ <;> exact h

/-- The collection whose fetching an action ends. -/
def fetchEnded? : Action → Option String
  | .apiGetDataDidLoad context _ | .apiGetDataDidFail context _ => some context.collection
  | _ => none

theorem not_isFetching_of_fetchEnded {registry : FormRegistry} {forms : FormStore}
    {s : CollectionStore} {a : Action} {key : String} (h : fetchEnded? a = some key) :
    (s.handle registry forms a).1.isFetching key = false := by
  cases a with
  | apiGetDataDidLoad context body =>
      obtain rfl := Option.some.inj h
      exact not_isFetching_of_result (.inl ⟨body, rfl⟩)
  | apiGetDataDidFail context failure =>
      obtain rfl := Option.some.inj h
      exact not_isFetching_of_result (.inr ⟨failure, rfl⟩)
  | _ => exact absurd h (by simp [fetchEnded?])

theorem isFetching_handle_of_isFetching {registry : FormRegistry} {forms : FormStore}
    {s : CollectionStore} {a : Action} {key : String} (h : s.isFetching key = true)
    (hnot : fetchEnded? a ≠ some key) : (s.handle registry forms a).1.isFetching key = true := by
  cases a with
  | appWillMount bootstrap =>
      rw [handle, loadAll_frame]
      exact h
  | formSubmit form formType params =>
      rw [handle]
      split <;> exact h
  | apiGetData context =>
      rw [handle]
      split
      · exact h
      · exact (isFetching_getData s context key).trans (by simp [h])
  | apiFetchCollections keys => exact isFetching_fetchCollections_of keys s (.inl h)
  | apiGetDataDidLoad context body =>
      have hne : key ≠ context.collection := fun heq => hnot (congrArg some heq.symm)
      exact (isFetching_fetched s key context.collection).trans (by simp [h, hne])
  | apiGetDataDidFail context failure =>
      have hne : key ≠ context.collection := fun heq => hnot (congrArg some heq.symm)
      exact (isFetching_fetched s key context.collection).trans (by simp [h, hne])
  | apiFormResultSuccess form context result m =>
      rw [handle, onFormResult_frame]
      exact h
  | apiSubmitDataDidSucceed context body =>
      rw [handle, onDataSent_frame]
      exact h
  | _ => exact h

theorem isFetching_handle_of_asked {registry : FormRegistry} {forms : FormStore}
    {s : CollectionStore} {a : Action} {c : RequestContext}
    (h : Effect.getData c ∈ (s.handle registry forms a).2.effects) :
    (s.handle registry forms a).1.isFetching c.collection = true := by
  cases a with
  | formSubmit form formType params =>
      rw [handle] at h
      split at h <;> exact absurd h (by simp [Outcome.ofEffects, Outcome.unchanged])
  | apiGetData context =>
      rw [handle] at h ⊢
      split at h
      · exact absurd h (by simp [Outcome.unchanged])
      · rename_i hnot
        obtain rfl := Effect.getData.inj (List.mem_singleton.mp h)
        simp only [hnot]
        exact (isFetching_getData s c c.collection).trans (by simp)
  | apiFetchCollections keys => exact isFetching_fetchCollections_of keys s (.inr ⟨c, h, rfl⟩)
  | apiFormResultSuccess form context result m =>
      rw [effects_of_isAnswer rfl] at h
      exact absurd h (by simp)
  | apiSubmitDataDidSucceed context body =>
      rw [effects_of_isAnswer rfl] at h
      exact absurd h (by simp)
  | apiSubmitData data context => exact absurd (List.mem_singleton.mp h) (by simp)
  | _ => exact absurd h (List.not_mem_nil)

/-- **A collection is being fetched just if the action asks for it, or if it was before and the
action does not end that.** -/
theorem isFetching_handle_iff {registry : FormRegistry} {forms : FormStore} {s : CollectionStore}
    {a : Action} {key : String} :
    (s.handle registry forms a).1.isFetching key = true ↔
      (s.isFetching key = true ∧ fetchEnded? a ≠ some key) ∨
        ∃ c, Effect.getData c ∈ (s.handle registry forms a).2.effects ∧ c.collection = key := by
  constructor
  · intro h
    rcases isFetching_handle h with hold | hasked
    · refine .inl ⟨hold, fun hend => ?_⟩
      rw [not_isFetching_of_fetchEnded hend] at h
      exact absurd h (by simp)
    · exact .inr hasked
  · rintro (⟨hold, hnot⟩ | ⟨c, hc, rfl⟩)
    · exact isFetching_handle_of_isFetching hold hnot
    · exact isFetching_handle_of_asked hc

end CollectionStore

end OpenBadges
