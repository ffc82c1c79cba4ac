import OpenBadges.Proofs.Answers

/-!
# Every change is announced

A view reads a store again only when it hears of an event. So whatever an action
changes has to be among the events it leads to, and by name: which collection,
which form. Each store announces what it changes itself, which is shown one store
at a time; a dispatch delivers the events of all of them.

The forms change at most one record, and announce it (`react_cases`). The
collections announce every collection that they write to, but for the first
contents that a page brings along, which are announced all together.
-/

namespace OpenBadges

/-! ## The forms -/

namespace FormStore

/-- **An action changes one record and says so, or none and says nothing.** -/
theorem react_cases (registry : FormRegistry) (s : FormStore) (a : Action) :
    ((s.react registry a).1.records = s.records ∧ (s.react registry a).2 = .unchanged) ∨
      ∃ form r, (s.react registry a).1.records = s.records.insert form r ∧
        (s.react registry a).2 = updated form := by
  -- good and bad results of a submission are announced alike
  have hsettle : ∀ form answer, ((s.settle form answer).1.records = s.records ∧
      (s.settle form answer).2 = .unchanged) ∨ ∃ form' r,
        (s.settle form answer).1.records = s.records.insert form' r ∧
          (s.settle form answer).2 = updated form' := by
    intro form answer
    rw [settle]
    split
    · split
      · exact .inr ⟨_, _, rfl, rfl⟩
      · exact .inl ⟨rfl, rfl⟩
    · exact .inl ⟨rfl, rfl⟩
  cases a with
  | formDataPatched form formType update =>
      rw [react]
      split
      · exact .inl ⟨rfl, rfl⟩
      · dsimp only [onPatch]
        split
        · exact .inr ⟨_, _, rfl, rfl⟩
        · exact .inl ⟨rfl, rfl⟩
  | formSubmit form formType params =>
      rw [react]
      split
      · exact .inl ⟨rfl, rfl⟩
      · dsimp only [onSubmit]
        split
        · split <;> exact .inr ⟨_, _, rfl, rfl⟩
        · exact .inl ⟨rfl, rfl⟩
  | formReset form formType =>
      rw [react]
      split
      · exact .inl ⟨rfl, rfl⟩
      · exact .inr ⟨_, _, rfl, rfl⟩
  | apiFormResultSuccess form context result m => exact hsettle form _
  | apiFormResultFailure form m => exact hsettle form _
  | apiSubmitDataDidFail context failure =>
      rw [react]
      split
      · exact .inl ⟨rfl, rfl⟩
      · dsimp only [onFailure]
        split
        · exact .inr ⟨_, _, rfl, rfl⟩
        · exact .inl ⟨rfl, rfl⟩
  | _ => exact .inl ⟨rfl, rfl⟩

theorem mem_events_of_get?_ne {registry : FormRegistry} {s : FormStore} {a : Action} {form : FormId}
    (h : (s.handle registry a).1.get? form ≠ s.get? form) :
    Event.formDataUpdated form ∈ (s.handle registry a).2.events := by
  rw [handle] at h ⊢
  rcases react_cases registry { s with acceptedSubmit := none } a with
    ⟨hrecords, _⟩ | ⟨form', r, hrecords, hupdated⟩
  · exact absurd (congrArg (·.get? form) hrecords) h
  · have hform : form = form' := by
      by_contra hne
      exact h ((congrArg (·.get? form) hrecords).trans (Dict.get?_insert_of_ne _ hne r))
    rw [hupdated, hform]
    exact List.mem_singleton_self _

end FormStore

/-! ## The collections -/

namespace CollectionStore

/-- An action that writes to a collection announces it. -/
theorem mem_events_of_rewritten {registry : FormRegistry} {forms : FormStore} {s : CollectionStore}
    {a : Action} {key : String}
    (h : (rewritten? (s.identifyingField key) key (s.items key) a).isSome) :
    Event.dataUpdated ∈ (s.handle registry forms a).2.events ∧
      ((∀ bootstrap, a ≠ .appWillMount bootstrap) →
        Event.dataUpdatedFor key ∈ (s.handle registry forms a).2.events) := by
  have hupdated : ∀ k, Event.dataUpdated ∈ (updated k).events ∧
      Event.dataUpdatedFor k ∈ (updated k).events :=
    fun k => ⟨List.mem_cons_self, List.mem_cons_of_mem _ List.mem_cons_self⟩
  -- data that was sent in the name of a form announces the form as well
  have hsent : ∀ {e} context, e ∈ (updated context.collection).events → e ∈ (sent context).events := by
    intro e context he
    rw [sent]
    split
    · exact List.mem_append_left _ he
    · exact he
  cases a with
  | appWillMount bootstrap =>
      exact ⟨List.mem_cons_self, fun hnot => absurd rfl (hnot bootstrap)⟩
  | apiGetDataDidLoad context body =>
      rw [rewritten?] at h
      split at h
      · rename_i hkey
        subst hkey
        exact ⟨(hupdated _).1, fun _ => (hupdated _).2⟩
      · exact absurd h (by simp)
  | apiFormResultSuccess form context result m =>
      rw [rewritten?] at h
      split at h
      · rename_i hkey
        subst hkey
        rw [handle, onFormResult_eq]
        dsimp only
        rw [if_pos h]
        exact ⟨(hupdated _).1, fun _ => (hupdated _).2⟩
      · exact absurd h (by simp)
  | apiSubmitDataDidSucceed context body =>
      rw [rewritten?] at h
      split at h
      · rename_i hkey
        subst hkey
        rw [handle, onDataSent_eq]
        dsimp only
        rw [if_pos (by rw [h]; rfl)]
        exact ⟨hsent context (hupdated _).1, fun _ => hsent context (hupdated _).2⟩
      · exact absurd h (by simp)
  | _ => exact absurd h (by simp [rewritten?])

theorem rewritten_of_get?_ne {registry : FormRegistry} {forms : FormStore} {s : CollectionStore}
    {a : Action} {key : String}
    (h : (s.handle registry forms a).1.data.get? key ≠ s.data.get? key) :
    (rewritten? (s.identifyingField key) key (s.items key) a).isSome := by
  rw [get?_handle] at h
  cases hr : rewritten? (s.identifyingField key) key (s.items key) a with
  | none =>
      rw [hr] at h
      exact absurd (Option.none_or) h
  | some items => rfl

/-- The failure that an action brings news of. -/
def failure? : Action → Option Message
  | .apiGetDataDidFail _ failure => some (failure.message "getting data")
  | .apiSubmitDataDidFail _ failure => some (failure.message "submitting data")
  | _ => none

theorem lastFailure_handle (registry : FormRegistry) (forms : FormStore) (s : CollectionStore)
    (a : Action) : (s.handle registry forms a).1.lastFailure = (failure? a).or s.lastFailure := by
  cases a with
  | appWillMount bootstrap =>
      rw [handle, loadAll_frame]
      rfl
  | formSubmit form formType params =>
      rw [handle]
      split <;> rfl
  | apiGetData context =>
      rw [handle]
      split <;> rfl
  | apiFetchCollections keys =>
      have hframe := congrArg (·.lastFailure) (s.fetchCollections_frame keys)
      exact hframe
  | apiFormResultSuccess form context result m =>
      rw [handle, onFormResult_frame]
      rfl
  | apiSubmitDataDidSucceed context body =>
      rw [handle, onDataSent_frame]
      rfl
  | _ => rfl

theorem mem_events_of_failure {registry : FormRegistry} {forms : FormStore} {s : CollectionStore}
    {a : Action} (h : (failure? a).isSome) :
    Event.apiStoreFailure ∈ (s.handle registry forms a).2.events := by
  cases a with
  | apiGetDataDidFail context failure => exact List.mem_cons_self
  | apiSubmitDataDidFail context failure => exact List.mem_cons_self
  | _ => exact absurd h (by simp [failure?])

end CollectionStore

/-! ## The stores behind the screen -/

namespace Stores

theorem mem_events_of_panels_ne {s : Stores} {a : Action} (h : (s.next a).panels ≠ s.panels) :
    Event.activeActionUpdated ∈ (s.outcomeOf a .panels).events := by
  cases a with
  | activeActionUpdated view panel => exact List.mem_singleton_self _
  | activeActionCleared view => exact List.mem_singleton_self _
  | _ => exact absurd rfl h

theorem mem_events_of_route_ne {s : Stores} {a : Action} (h : (s.next a).route ≠ s.route) :
    Event.routeChanged ∈ (s.outcomeOf a .route).events := by
  cases a with
  | routeChanged href => exact List.mem_singleton_self _
  | _ => exact absurd rfl h

/-- Only what the page brings along tells who the user is and which menus there are. -/
theorem appWillMount_of_ne {s : Stores} {a : Action}
    (h : (s.next a).user ≠ s.user ∨ (s.next a).menu.menus ≠ s.menu.menus) :
    ∃ bootstrap, a = .appWillMount bootstrap := by
  cases a with
  | appWillMount bootstrap => exact ⟨bootstrap, rfl⟩
  | _ => exact absurd h (by simp [next, UserStore.handle, MenuStore.handle])

theorem mem_events_of_openDialog_ne {s : Stores} {a : Action}
    (h : (s.next a).menu.openDialog ≠ s.menu.openDialog) :
    Event.openDialog ∈ (s.outcomeOf a .menu).events ∨
      Event.closeModal ∈ (s.outcomeOf a .menu).events := by
  cases a with
  | openDialog dialog => exact .inl (List.mem_singleton_self _)
  | closeModal => exact .inr (List.mem_singleton_self _)
  | appWillMount bootstrap =>
      -- the first page sets the menus and leaves the dialog
      refine absurd ?_ h
      dsimp only [next, MenuStore.handle]
      split <;> rfl
  | _ => exact absurd rfl h

/-! ## One dispatch, and any number of them -/

/-- What one store announces is among the events of the dispatch. -/
theorem mem_events_dispatch {s : Stores} {a : Action} {e : EventName} (k : StoreKind)
    (h : e ∈ (s.outcomeOf a k).events) :
    e ∈ ((Dispatcher.mk s StoreWiring.application).dispatch a).2.events := by
  rw [events_dispatch]
  exact List.mem_flatMap.mpr ⟨k, StoreWiring.application_runsAs.mem k, h⟩

/-- What an action changes in the stores is among the events, under the names that views know. -/
structure Announced (s : Stores) (a : Action) (events : List EventName) : Prop where
  /-- A collection that changes, or comes to exist, is announced. -/
  collection : ∀ key, (s.after [a]).collections.data.get? key ≠ s.collections.data.get? key →
    "DATA_UPDATED" ∈ events
  /-- It is announced by name, but for what the page brings along. -/
  collection_named : ∀ key,
    (s.after [a]).collections.data.get? key ≠ s.collections.data.get? key →
    (∀ bootstrap, a ≠ .appWillMount bootstrap) → "DATA_UPDATED_" ++ key ∈ events
  /-- So is a form that gets another record, or its first one. -/
  form : ∀ form, (s.after [a]).forms.get? form ≠ s.forms.get? form →
    "FORM_DATA_UPDATED_" ++ form ∈ events
  /-- A failure is announced, be it the one that shows already. -/
  failure : ∀ shown, ((s.withFailure shown).after [a]).collections.lastFailure ≠ shown →
    "API_STORE_FAILURE" ∈ events
  panels : (s.after [a]).panels ≠ s.panels → "ACTIVE_ACTION_UPDATED" ∈ events
  route : (s.after [a]).route ≠ s.route → "ROUTE_CHANGED" ∈ events
  /-- A dialog either opens or closes. -/
  dialog : (s.after [a]).menu.openDialog ≠ s.menu.openDialog →
    "OPEN_DIALOG" ∈ events ∨ "CLOSE_MODAL" ∈ events
  /-- The user and the menus come with the page. -/
  page : (s.after [a]).user ≠ s.user ∨ (s.after [a]).menu.menus ≠ s.menu.menus →
    "INITIAL_DATA_LOADED" ∈ events
  /-- A name stands for one collection or for one form, and never for both. -/
  names : ∀ x y : String,
    ("DATA_UPDATED_" ++ x = "DATA_UPDATED_" ++ y ↔ x = y) ∧
      ("FORM_DATA_UPDATED_" ++ x = "FORM_DATA_UPDATED_" ++ y ↔ x = y) ∧
      "DATA_UPDATED_" ++ x ≠ "FORM_DATA_UPDATED_" ++ y
  /-- A collection that is not named is as it was, but for what the page brings along. -/
  collection_kept : ∀ key, (∀ bootstrap, a ≠ .appWillMount bootstrap) →
    "DATA_UPDATED_" ++ key ∉ events →
      (s.after [a]).collections.data.get? key = s.collections.data.get? key
  /-- A form that is not named is as it was. -/
  form_kept : ∀ form, "FORM_DATA_UPDATED_" ++ form ∉ events →
    (s.after [a]).forms.get? form = s.forms.get? form

theorem dataUpdatedFor_mem_of_ne {s : Stores} {a : Action} {key : String}
    (h : (s.next a).collections.data.get? key ≠ s.collections.data.get? key)
    (hpage : ∀ bootstrap, a ≠ .appWillMount bootstrap) :
    Event.dataUpdatedFor key ∈
      ((Dispatcher.mk s StoreWiring.application).dispatch a).2.events := by
  have hwritten := CollectionStore.rewritten_of_get?_ne h
  exact mem_events_dispatch .collections
    ((CollectionStore.mem_events_of_rewritten hwritten).2 hpage)

theorem dataUpdated_mem_of_ne {s : Stores} {a : Action} {key : String}
    (h : (s.next a).collections.data.get? key ≠ s.collections.data.get? key) :
    Event.dataUpdated ∈ ((Dispatcher.mk s StoreWiring.application).dispatch a).2.events := by
  have hwritten := CollectionStore.rewritten_of_get?_ne h
  exact mem_events_dispatch .collections (CollectionStore.mem_events_of_rewritten hwritten).1

theorem formDataUpdated_mem_of_ne {s : Stores} {a : Action} {form : FormId}
    (h : (s.next a).forms.get? form ≠ s.forms.get? form) :
    Event.formDataUpdated form ∈
      ((Dispatcher.mk s StoreWiring.application).dispatch a).2.events :=
  mem_events_dispatch .forms (FormStore.mem_events_of_get?_ne h)

/--
**No change is silent.**

Whatever the stores hold, a dispatch announces all that it changes. So a
collection or a form that no event names is as it was, unless the page has just
brought along the first contents of collections.
-/
theorem announced_dispatch (s : Stores) (a : Action) :
    Announced s a ((Dispatcher.mk s StoreWiring.application).dispatch a).2.events := by
  have hnext : ∀ t : Stores, t.after [a] = t.next a := fun t => after_eq_foldl t [a]
  constructor
  case names =>
    intro x y
    exact ⟨Event.dataUpdatedFor_inj, Event.formDataUpdated_inj,
      Event.dataUpdatedFor_ne_formDataUpdated x y⟩
  all_goals simp only [hnext]
  case collection => exact fun key h => dataUpdated_mem_of_ne h
  case collection_named =>
    intro key h hpage
    rw [← Event.dataUpdatedFor_eq]
    exact dataUpdatedFor_mem_of_ne h hpage
  case form =>
    intro form h
    rw [← Event.formDataUpdated_eq]
    exact formDataUpdated_mem_of_ne h
  case failure =>
    intro shown h
    -- an action without bad news would have left what showed before
    have hset : (CollectionStore.failure? a).isSome := by
      cases hnone : CollectionStore.failure? a with
      | some m => rfl
      | none =>
          refine absurd ?_ h
          exact (CollectionStore.lastFailure_handle ..).trans (by rw [hnone]; rfl)
    exact mem_events_dispatch .collections (CollectionStore.mem_events_of_failure hset)
  case panels => exact fun h => mem_events_dispatch .panels (mem_events_of_panels_ne h)
  case route => exact fun h => mem_events_dispatch .route (mem_events_of_route_ne h)
  case dialog =>
    intro h
    exact (mem_events_of_openDialog_ne h).imp (mem_events_dispatch .menu) (mem_events_dispatch .menu)
  case page =>
    intro h
    -- it is the collections that announce the page
    obtain ⟨bootstrap, rfl⟩ := appWillMount_of_ne h
    exact mem_events_dispatch .collections (List.mem_cons_of_mem _ List.mem_cons_self)
  case collection_kept =>
    intro key hpage hsilent
    rw [← Event.dataUpdatedFor_eq] at hsilent
    by_contra hne
    exact hsilent (dataUpdatedFor_mem_of_ne hne hpage)
  case form_kept =>
    intro form hsilent
    rw [← Event.formDataUpdated_eq] at hsilent
    by_contra hne
    exact hsilent (formDataUpdated_mem_of_ne hne)

/-- What changes in no dispatch without an event does not change in a run without that event. -/
theorem after_of_silent {β : Type} (look : Stores → β) {e : EventName}
    (hstep : ∀ s a, look (s.next a) ≠ look s →
      e ∈ ((Dispatcher.mk s StoreWiring.application).dispatch a).2.events) (as : List Action) :
    ∀ s, e ∉ ((Dispatcher.mk s StoreWiring.application).dispatchAll as).2.events →
      look (s.after as) = look s := by
  induction as with
  | nil => intro s _; rfl
  | cons a as ih =>
    intro s hsilent
    rw [Dispatcher.dispatchAll, Outcome.events_append, List.mem_append, not_or] at hsilent
    obtain ⟨hfirst, hrest⟩ := hsilent
    have hsame : look (s.next a) = look s := by
      by_contra hne
      exact hfirst (hstep s a hne)
    rw [StoreWiring.application_runsAs.dispatch] at hrest
    rw [after_eq_foldl, List.foldl_cons, ← after_eq_foldl, ih (s.next a) hrest, hsame]

/-- **A form that a whole run does not name is as it was.** -/
theorem get?_forms_after_of_silent {s : Stores} {as : List Action} {form : FormId}
    (h : Event.formDataUpdated form ∉
      ((Dispatcher.mk s StoreWiring.application).dispatchAll as).2.events) :
    (s.after as).forms.get? form = s.forms.get? form :=
  after_of_silent (fun s => s.forms.get? form)
    (fun _ _ hne => formDataUpdated_mem_of_ne hne) as s h

/-- **A collection is as it was after a run that announces no data.** -/
theorem get?_data_after_of_silent {s : Stores} {as : List Action} (key : String)
    (h : Event.dataUpdated ∉
      ((Dispatcher.mk s StoreWiring.application).dispatchAll as).2.events) :
    (s.after as).collections.data.get? key = s.collections.data.get? key :=
  after_of_silent (fun s => s.collections.data.get? key)
    (fun _ _ hne => dataUpdated_mem_of_ne hne) as s h

end Stores

end OpenBadges
