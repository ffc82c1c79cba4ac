import Mathlib.Data.Option.Basic
import OpenBadges.Proofs.FormRecords
import OpenBadges.Proofs.Requests
import OpenBadges.Proofs.StoreOrder
import OpenBadges.Transport.Exchange

/-!
# Nothing is left pending

A collection that is being fetched and a form that waits are promises: something
has to come back, or they stay as they are for good. Here the application runs
with its requests under way, and at any moment either something new happens or one
of the requests comes back, whichever and however it turns out.

The invariant is `Accounted`: every such promise has a request behind it that is
still under way. A request that comes back settles the very promise it stands
for, so that the promises left over are those of the other requests. When nothing
is under way any more, there is no promise left.
-/

namespace OpenBadges

/-- The stores, and the effects that have not come back. -/
structure Underway where
  /-- The stores. -/
  stores : Stores
  /-- The effects under way. -/
  effects : List Effect := []

namespace Underway

/-- Dispatches an action; its effects are under way from now on. -/
def dispatch (u : Underway) (a : Action) : Underway :=
  let r := (Dispatcher.mk u.stores StoreWiring.application).dispatch a
  ⟨r.1.state, u.effects ++ r.2.effects⟩

/-- Something happens, or an effect comes back. -/
inductive Step (u : Underway) : Underway → Prop where
  /-- Any action is dispatched. -/
  | act (a : Action) : Step u (u.dispatch a)
  /-- An effect is carried out, and what it comes to is dispatched. -/
  | answer {e : Effect} {before after : List Effect} (r : Except RequestFailure Json) :
      u.effects = before ++ e :: after →
      Step u (dispatch { u with effects := before ++ after } (e.answer r))

/-- States that come about from stores that nothing has happened to. -/
inductive Reachable : Underway → Prop where
  /-- Collections and forms are configured in some way, and all else is as it is at first. -/
  | init (specs : Dict CollectionSpec) (registry : FormRegistry) :
      Reachable { stores := { collections := { specs := specs }, registry := registry } }
  | tail {u v : Underway} : Reachable u → Step u v → Reachable v

/-! ## The invariant -/

/-- Every collection that is being fetched has a request under way. -/
def FetchingAccounted (u : Underway) : Prop :=
  ∀ key, u.stores.collections.isFetching key = true →
    ∃ c, Effect.getData c ∈ u.effects ∧ c.collection = key

/-- Every form that waits has its submission under way. -/
def WaitingAccounted (u : Underway) : Prop :=
  ∀ form r, u.stores.forms.get? form = some r → r.state.phase = .waiting →
    ∃ p, Effect.postForm p ∈ u.effects ∧ p.form = form

/-- Whatever is pending has a request behind it. -/
structure Accounted (u : Underway) : Prop where
  /-- So have the collections. -/
  fetching : u.FetchingAccounted
  /-- So have the forms. -/
  waiting : u.WaitingAccounted

theorem accounted_init (specs : Dict CollectionSpec) (registry : FormRegistry) :
    Accounted { stores := { collections := { specs := specs }, registry := registry } } where
  fetching := by
    intro key h
    simp [CollectionStore.isFetching, Dict.contains] at h
  waiting := by
    intro form r h
    simp [FormStore.get?] at h

/-! ## One dispatch -/

theorem dispatch_stores (u : Underway) (a : Action) :
    (u.dispatch a).stores = u.stores.next a := by
  rw [dispatch, Stores.state_dispatch]

theorem dispatch_effects (u : Underway) (a : Action) :
    (u.dispatch a).effects = u.effects ++ (u.stores.outcomeOf a .collections).effects := by
  rw [dispatch, Stores.effects_dispatch]

theorem fetching_dispatch (u : Underway) (a : Action) {key : String}
    (h : (u.dispatch a).stores.collections.isFetching key = true) :
    u.stores.collections.isFetching key = true ∨
      ∃ c, Effect.getData c ∈ (u.dispatch a).effects ∧ c.collection = key := by
  rw [dispatch_stores] at h
  rcases CollectionStore.isFetching_handle h with h | ⟨c, hc, hkey⟩
  · exact .inl h
  · refine .inr ⟨c, ?_, hkey⟩
    rw [dispatch_effects]
    exact List.mem_append_right _ hc

/-- The collections post the very submission that the forms have just accepted. -/
theorem postForm_of_accepted {s : Stores} {form : FormId} {formType : FormType}
    {params : UrlParams} {config : FormConfig} {context : RequestContext}
    (hconfig : s.registry formType = some config)
    (hcontext : s.registry.requestContext formType params form = .ok context)
    (hready : ((s.forms.get? form).getD (.fresh config)).state.phase = .ready) :
    let r := (s.forms.get? form).getD (.fresh config)
    (s.outcomeOf (.formSubmit form formType params) .collections).effects =
      [.postForm ⟨form, r.fields, r.state.values, context, config.successMessage⟩] := by
  obtain ⟨haccepted, hrecord⟩ := FormStore.handle_formSubmit hconfig hcontext hready
  intro r
  -- the forms have had their turn already when the collections look at them
  have hsub : CollectionStore.submission? s.registry
      (s.next (.formSubmit form formType params)).forms form formType params =
        some ⟨form, r.fields, r.state.values, context, config.successMessage⟩ := by
    rw [CollectionStore.submission?]
    simp only [Stores.next, haccepted, hrecord, hconfig, hcontext]
    rfl
  rw [Stores.outcomeOf, CollectionStore.handle, hsub]
  rfl

theorem waiting_dispatch (u : Underway) (a : Action) {form : FormId} {r : FormRecord}
    (h : (u.dispatch a).stores.forms.get? form = some r) (hw : r.state.phase = .waiting) :
    (∃ r₀, u.stores.forms.get? form = some r₀ ∧ r₀.state.phase = .waiting) ∨
      ∃ p, Effect.postForm p ∈ (u.dispatch a).effects ∧ p.form = form := by
  rw [dispatch_stores] at h
  have hrec := (FormStore.get?_handle u.stores.registry u.stores.forms a form).symm.trans h
  rcases FormStore.waiting_recordAfter hrec hw with
    hold | ⟨formType, params, config, context, rfl, hconfig, hcontext, hready⟩
  · exact .inl hold
  · right
    rw [dispatch_effects, postForm_of_accepted hconfig hcontext hready]
    exact ⟨_, List.mem_append_right _ List.mem_cons_self, rfl⟩

/-- A dispatch needs only those requests whose promises it does not settle. -/
theorem accounted_dispatch {u : Underway} (a : Action)
    (hf : ∀ key, u.stores.collections.isFetching key = true →
      (u.dispatch a).stores.collections.isFetching key = true →
      ∃ c, Effect.getData c ∈ u.effects ∧ c.collection = key)
    (hw : ∀ form r r', u.stores.forms.get? form = some r → r.state.phase = .waiting →
      (u.dispatch a).stores.forms.get? form = some r' → r'.state.phase = .waiting →
      ∃ p, Effect.postForm p ∈ u.effects ∧ p.form = form) :
    Accounted (u.dispatch a) where
  fetching := by
    intro key hkey
    rcases fetching_dispatch u a hkey with hold | hnew
    · obtain ⟨c, hc, hcol⟩ := hf key hold hkey
      exact ⟨c, by rw [dispatch_effects]; exact List.mem_append_left _ hc, hcol⟩
    · exact hnew
  waiting := by
    intro form r hr hwait
    rcases waiting_dispatch u a hr hwait with ⟨r₀, hr₀, hw₀⟩ | hnew
    · obtain ⟨p, hp, hform⟩ := hw form r₀ r hr₀ hw₀ hr hwait
      exact ⟨p, by rw [dispatch_effects]; exact List.mem_append_left _ hp, hform⟩
    · exact hnew

theorem accounted_act {u : Underway} (h : Accounted u) (a : Action) : Accounted (u.dispatch a) :=
  accounted_dispatch a (fun key hkey _ => h.fetching key hkey)
    (fun form r _ hr hw _ _ => h.waiting form r hr hw)

/-- What a request for data comes to ends the fetching of its collection. -/
theorem not_fetching_answer (u : Underway) (c : RequestContext)
    (r : Except RequestFailure Json) :
    (u.dispatch ((Effect.getData c).answer r)).stores.collections.isFetching c.collection =
      false := by
  rw [dispatch_stores]
  refine CollectionStore.not_isFetching_of_result ?_
  cases r with
  | ok body => exact .inl ⟨body, rfl⟩
  | error failure => exact .inr ⟨failure, rfl⟩

/-- What a submission comes to ends the waiting of its form. -/
theorem not_waiting_answer (u : Underway) (p : Submission) (result : Except RequestFailure Json)
    {r : FormRecord}
    (h : (u.dispatch ((Effect.postForm p).answer result)).stores.forms.get? p.form = some r) :
    r.state.phase ≠ .waiting := by
  rw [dispatch_stores] at h
  have hrec := FormStore.get?_handle u.stores.registry u.stores.forms
    ((Effect.postForm p).answer result) p.form
  refine FormStore.not_waiting_of_result ?_ (hrec.symm.trans h)
  cases result with
  | ok result => exact .inl ⟨_, _, _, rfl⟩
  | error failure => exact .inr ⟨_, rfl⟩

/-- **An effect that comes back takes no more than its own promise with it.** -/
theorem accounted_answer {u : Underway} (h : Accounted u) {e : Effect}
    {before after : List Effect} (heq : u.effects = before ++ e :: after)
    (r : Except RequestFailure Json) :
    Accounted (dispatch { u with effects := before ++ after } (e.answer r)) := by
  have rest : ∀ {e'}, e' ∈ u.effects → e' ≠ e → e' ∈ before ++ after := by
    intro e' hmem hne
    rw [heq, List.mem_append, List.mem_cons] at hmem
    rw [List.mem_append]
    rcases hmem with hmem | hmem | hmem
    · exact .inl hmem
    · exact absurd hmem hne
    · exact .inr hmem
  refine accounted_dispatch _ ?_ ?_
  -- what is still pending afterwards does not rest on the effect that has come back
  · intro key hkey hstill
    obtain ⟨c, hc, hcol⟩ := h.fetching key hkey
    refine ⟨c, rest hc fun he => ?_, hcol⟩
    subst he hcol
    rw [not_fetching_answer] at hstill
    exact absurd hstill (by simp)
  · intro form r₀ r' hr₀ hw₀ hr' hw'
    obtain ⟨p, hp, hform⟩ := h.waiting form r₀ hr₀ hw₀
    refine ⟨p, rest hp fun he => ?_, hform⟩
    subst he hform
    exact not_waiting_answer _ p r hr' hw'

/-! ## Whole runs -/

/-- **Preserved by every step.** -/
theorem accounted_step {u v : Underway} (h : Accounted u) (hs : Step u v) : Accounted v := by
  cases hs with
  | act a => exact accounted_act h a
  | answer r heq => exact accounted_answer h heq r

theorem accounted_reachable {u : Underway} (h : Reachable u) : Accounted u := by
  induction h with
  | init specs registry => exact accounted_init specs registry
  | tail _ hs ih => exact accounted_step ih hs

/--
**Nothing is left pending.**

Whatever happens and in whatever order the requests come back, a collection that
is being fetched has a request of its own under way, and a form that waits has its
submission under way. So when nothing is under way, no collection is being fetched
and no form waits.
-/
theorem nothing_left_pending {u : Underway} (h : Reachable u) :
    (∀ key, u.stores.collections.isFetching key = true →
      ∃ c, Effect.getData c ∈ u.effects ∧ c.collection = key) ∧
    (∀ form r, u.stores.forms.get? form = some r → r.state.phase = .waiting →
      ∃ p, Effect.postForm p ∈ u.effects ∧ p.form = form) ∧
    (u.effects = [] → (∀ key, u.stores.collections.isFetching key = false) ∧
      ∀ form r, u.stores.forms.get? form = some r → r.state.phase ≠ .waiting) := by
  obtain ⟨hf, hw⟩ := accounted_reachable h
  refine ⟨hf, hw, fun hnone => ⟨fun key => ?_, fun form r hr hwait => ?_⟩⟩
  · cases hkey : u.stores.collections.isFetching key with
    | false => rfl
    | true =>
        obtain ⟨c, hc, _⟩ := hf key hkey
        rw [hnone] at hc
        exact absurd hc (by simp)
  · obtain ⟨p, hp, _⟩ := hw form r hr hwait
    rw [hnone] at hp
    exact absurd hp (by simp)

/-- The badges are being fetched, and a form has been submitted. -/
def busy : Underway :=
  let start : Underway := { stores := { collections := {}, registry := .builtin } }
  (start.dispatch (.apiFetchCollections ["earner_badges"])).dispatch
    (.formSubmit "f" .earnerCollectionCreate ∅)

theorem reachable_busy : Reachable busy :=
  .tail (.tail (.init ..) (.act _)) (.act _)

/-- What is pending there has a request and a submission behind it, until both have come back. -/
theorem nothing_left_pending_busy :
    Reachable busy ∧
      (busy.stores.collections.isFetching "earner_badges" = true ∧
        ∃ c, Effect.getData c ∈ busy.effects ∧ c.collection = "earner_badges") ∧
      (∃ r, busy.stores.forms.get? "f" = some r ∧ r.state.phase = .waiting ∧
        ∃ p, Effect.postForm p ∈ busy.effects ∧ p.form = "f") ∧
      ∃ u, Reachable u ∧ u.effects = [] ∧
        (∀ key, u.stores.collections.isFetching key = false) ∧
        ∀ form r, u.stores.forms.get? form = some r → r.state.phase ≠ .waiting := by
  obtain ⟨hfetching, hwaiting, _⟩ := nothing_left_pending reachable_busy
  -- the submission comes back first
  have hposted := reachable_busy.tail
    (@Step.answer _ _ [_] [] (.error (.transport "no connection")) rfl)
  have hfetched := hposted.tail (@Step.answer _ _ [] [] (.ok .null) rfl)
  obtain ⟨_, _, hquiet⟩ := nothing_left_pending hfetched
  exact ⟨reachable_busy, ⟨rfl, hfetching _ rfl⟩, ⟨_, rfl, rfl, hwaiting _ _ rfl rfl⟩,
    _, hfetched, rfl, hquiet rfl⟩

end Underway

end OpenBadges
