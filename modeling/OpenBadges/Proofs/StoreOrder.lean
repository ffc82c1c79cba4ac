import Mathlib.Data.List.Forall2
import Mathlib.Data.List.Nodup
import OpenBadges.Stores

/-!
# The order of the stores does not matter

Six stores take turns at every action, and only two of them look at what another
has just made of it: the collections at the forms, to see whether a submission
was accepted, and the menus at the user. Every other store reads and writes
nothing but its own part of the state.

So there is one state that a dispatch comes to, `next`, which can be written down
without any order. Between two turns the state is `partway` there: the stores that
have had their turn hold what they hold in `next`, the others what they held
before. A turn takes the state one store further, provided that the stores it
looks at have gone first, and this is the whole argument. Only the order of the
events tells two wirings apart, since the collections alone ask for effects.
-/

namespace OpenBadges

namespace StoreKind

/-- All stores. -/
def all : List StoreKind := [forms, collections, panels, route, user, menu]

/-- The stores whose part of the state a store looks at. -/
def looksAt : StoreKind → List StoreKind
  | collections => [forms]
  | menu => [user]
  | _ => []

end StoreKind

namespace Stores

/-! ## What each store makes of an action -/

/-- The stores after an action. -/
def next (s : Stores) (a : Action) : Stores :=
  let forms := (s.forms.handle s.registry a).1
  let user := (UserStore.handle s.user a).1
  { s with
    forms := forms
    collections := (s.collections.handle s.registry forms a).1
    panels := (PanelStore.handle s.panels a).1
    route := (s.route.handle a).1
    user := user
    menu := (s.menu.handle (UserStore.isStaff user) a).1 }

/-- What an action leads to in one store. -/
def outcomeOf (s : Stores) (a : Action) : StoreKind → Outcome Effect
  | .forms => (s.forms.handle s.registry a).2
  | .collections => (s.collections.handle s.registry (s.next a).forms a).2
  | .panels => (PanelStore.handle s.panels a).2
  | .route => (s.route.handle a).2
  | .user => (UserStore.handle s.user a).2
  | .menu => (s.menu.handle (UserStore.isStaff (s.next a).user) a).2

/-- The stores when those in `done` have had their turn at an action. -/
def partway (s : Stores) (a : Action) (done : List StoreKind) : Stores :=
  { s with
    forms := if .forms ∈ done then (s.next a).forms else s.forms
    collections := if .collections ∈ done then (s.next a).collections else s.collections
    panels := if .panels ∈ done then (s.next a).panels else s.panels
    route := if .route ∈ done then (s.next a).route else s.route
    user := if .user ∈ done then (s.next a).user else s.user
    menu := if .menu ∈ done then (s.next a).menu else s.menu }

theorem partway_nil (s : Stores) (a : Action) : s.partway a [] = s := by
  simp [partway]

theorem partway_all {s : Stores} {a : Action} {ks : List StoreKind} (h : ∀ k, k ∈ ks) :
    s.partway a ks = s.next a := by
  simp [partway, h, next]

/-- **A turn takes the state one store further.** -/
theorem handler_partway (s : Stores) (a : Action) {done : List StoreKind} {k : StoreKind}
    (hnew : k ∉ done) (hlooks : ∀ d ∈ k.looksAt, d ∈ done) :
    k.handler (s.partway a done) a = (s.partway a (done ++ [k]), s.outcomeOf a k) := by
  cases k with
  | forms => simp [StoreKind.handler, handleForms, partway, hnew, next, outcomeOf]
  | collections =>
      have hforms : StoreKind.forms ∈ done := hlooks _ (by simp [StoreKind.looksAt])
      simp [StoreKind.handler, handleCollections, partway, hnew, hforms, next, outcomeOf]
  | panels => simp [StoreKind.handler, handlePanels, partway, hnew, next, outcomeOf]
  | route => simp [StoreKind.handler, handleRoute, partway, hnew, next, outcomeOf]
  | user => simp [StoreKind.handler, handleUser, partway, hnew, next, outcomeOf]
  | menu =>
      have huser : StoreKind.user ∈ done := hlooks _ (by simp [StoreKind.looksAt])
      simp [StoreKind.handler, handleMenu, partway, hnew, huser, next, outcomeOf]

/-- The outcomes of several stores, one after another. -/
def outcomes (s : Stores) (a : Action) (ks : List StoreKind) : Outcome Effect :=
  ks.foldr (fun k o => s.outcomeOf a k ++ o) .unchanged

/-- **Turns in any order that lets stores look only at those that have gone before.** -/
theorem runAll_partway (s : Stores) (a : Action) : ∀ (ks done : List StoreKind),
    (done ++ ks).Nodup →
    (∀ before k after, ks = before ++ k :: after → ∀ d ∈ k.looksAt, d ∈ done ++ before) →
    Handler.runAll (ks.map StoreKind.handler) (s.partway a done) a =
      (s.partway a (done ++ ks), s.outcomes a ks) := by
  intro ks
  induction ks with
  | nil => intro done _ _; simp [Handler.runAll, outcomes]
  | cons k ks ih =>
    intro done hnd hlooks
    -- one turn, and then those of the others with one more store done
    have hnew : k ∉ done := fun hk => (List.nodup_append.mp hnd).2.2 k hk k (by simp) rfl
    have hturn := handler_partway s a hnew (by simpa using hlooks [] k ks rfl)
    have hrest := ih (done ++ [k]) (by simpa using hnd) (fun before k' after heq d hd => by
      simpa using hlooks (k :: before) k' after (by simp [heq]) d hd)
    rw [List.map_cons, Handler.runAll, hturn]
    dsimp only
    rw [hrest]
    simp [outcomes]

/-! ## What a dispatch leads to -/

/-- A dispatch has changed something if a store has; its events and effects are all of theirs. -/
theorem outcomes_eq (s : Stores) (a : Action) (ks : List StoreKind) :
    s.outcomes a ks = {
      changed := ks.any fun k => (s.outcomeOf a k).changed
      events := ks.flatMap fun k => (s.outcomeOf a k).events
      effects := ks.flatMap fun k => (s.outcomeOf a k).effects } := by
  induction ks with
  | nil => rfl
  | cons k ks ih =>
    have hcons : s.outcomes a (k :: ks) = s.outcomeOf a k ++ s.outcomes a ks := rfl
    rw [hcons, ih]
    rfl

end Stores

/-- The forms ask for no effects. -/
theorem FormStore.effects_handle (registry : FormRegistry) (s : FormStore) (a : Action) :
    (s.handle registry a).2.effects = [] := by
  have hpatch : ∀ s form config update, (onPatch s form config update).2.effects = [] := by
    intro s form config update
    rw [onPatch]
    split <;> rfl
  have hsubmit : ∀ s form config context, (onSubmit s form config context).2.effects = [] := by
    intro s form config context
    unfold onSubmit
    dsimp only
    split
    · cases context <;> rfl
    · rfl
  have hsettle : ∀ s form answer, (settle s form answer).2.effects = [] := by
    intro s form answer
    rw [settle]
    split
    · split <;> rfl
    · rfl
  have hfail : ∀ s form m, (onFailure s form m).2.effects = [] := by
    intro s form m
    rw [onFailure]
    split <;> rfl
  rw [handle]
  cases a with
  | formDataPatched form formType update =>
      rw [react]
      split
      · rfl
      · exact hpatch _ _ _ _
  | formSubmit form formType params =>
      rw [react]
      split
      · rfl
      · exact hsubmit _ _ _ _
  | formReset form formType =>
      rw [react]
      split <;> rfl
  | apiFormResultSuccess form context result message => exact hsettle _ _ _
  | apiFormResultFailure form message => exact hsettle _ _ _
  | apiSubmitDataDidFail context failure =>
      rw [react]
      split
      · rfl
      · exact hfail _ _ _
  | _ => rfl

/-- The menus ask for no effects. -/
theorem MenuStore.effects_handle (staff : Bool) (s : MenuStore) (a : Action) :
    (s.handle staff a).2.effects = [] := by
  cases a with
  | appWillMount bootstrap =>
      rw [handle]
      split <;> rfl
  | _ => rfl

namespace Stores

/-- **Only the collections ask for effects.** -/
theorem effects_outcomeOf (s : Stores) (a : Action) {k : StoreKind} (hk : k ≠ .collections) :
    (s.outcomeOf a k).effects = [] := by
  cases k with
  | forms => exact FormStore.effects_handle _ _ _
  | collections => exact absurd rfl hk
  | panels => cases a <;> rfl
  | route => cases a <;> rfl
  | user => cases a <;> rfl
  | menu => exact MenuStore.effects_handle _ _ _

/-- So the effects of all stores are those of the collections. -/
theorem flatMap_effects (s : Stores) (a : Action) {ks : List StoreKind} (hnd : ks.Nodup)
    (hmem : .collections ∈ ks) :
    (ks.flatMap fun k => (s.outcomeOf a k).effects) = (s.outcomeOf a .collections).effects := by
  obtain ⟨before, after, rfl⟩ := List.append_of_mem hmem
  have hnone : ∀ k ∈ before ++ after, (s.outcomeOf a k).effects = [] := by
    intro k hk
    refine s.effects_outcomeOf a fun heq => ?_
    subst heq
    exact (List.nodup_cons.mp (List.nodup_middle.mp hnd)).1 hk
  have hbefore : (before.flatMap fun k => (s.outcomeOf a k).effects) = [] :=
    List.flatMap_eq_nil_iff.mpr fun k hk => hnone k (List.mem_append_left _ hk)
  have hafter : (after.flatMap fun k => (s.outcomeOf a k).effects) = [] :=
    List.flatMap_eq_nil_iff.mpr fun k hk => hnone k (List.mem_append_right _ hk)
  rw [List.flatMap_append, List.flatMap_cons, hbefore, hafter]
  simp

end Stores

/-! ## Wirings -/

namespace StoreWiring

/-- A wiring that runs all stores once, and two of them before the stores that look at them. -/
structure RunsAs (w : StoreWiring) (ks : List StoreKind) : Prop where
  /-- The handlers are those of the stores, in this order. -/
  handlers : w.handlers = ks.map StoreKind.handler
  /-- Every store is there, once. -/
  perm : ks.Perm StoreKind.all
  /-- The forms run before the collections. -/
  forms_first : ks.idxOf .forms < ks.idxOf .collections
  /-- The user runs before the menus. -/
  user_first : ks.idxOf .user < ks.idxOf .menu

/-- The wiring that the application starts with, in which all its stores take part. -/
def application : StoreWiring := standard.toOption.getD {}

theorem standard_eq : standard = .ok application := rfl

theorem application_runsAs : application.RunsAs StoreKind.all where
  handlers := rfl
  perm := .refl _
  forms_first := by decide
  user_first := by decide

/-- What comes first in a list at a smaller place than `k` is on the left of every `k`. -/
theorem mem_of_idxOf_lt {ks before after : List StoreKind} {d k : StoreKind}
    (heq : ks = before ++ k :: after) (hlt : ks.idxOf d < ks.idxOf k) : d ∈ before := by
  subst heq
  have hk : (before ++ k :: after).idxOf k ≤ before.length := by
    by_cases hk : k ∈ before
    · rw [List.idxOf_append_of_mem hk]
      exact List.idxOf_le_length
    · rw [List.idxOf_append_of_notMem hk, List.idxOf_cons_self]
      exact Nat.le_refl _
  -- otherwise it could come no earlier than the rest, which starts with `k`
  by_contra hd
  rw [List.idxOf_append_of_notMem hd] at hlt
  omega

namespace RunsAs

variable {w : StoreWiring} {ks : List StoreKind}

theorem mem (h : w.RunsAs ks) (k : StoreKind) : k ∈ ks := by
  rw [h.perm.mem_iff]
  cases k <;> decide

theorem nodup (h : w.RunsAs ks) : ks.Nodup :=
  h.perm.nodup_iff.mpr (by decide)

/-- The stores that a store looks at go first. -/
theorem looksAt (h : w.RunsAs ks) {before after : List StoreKind} {k d : StoreKind}
    (heq : ks = before ++ k :: after) (hd : d ∈ k.looksAt) : d ∈ before := by
  cases k with
  | collections =>
      obtain rfl : d = .forms := by simpa [StoreKind.looksAt] using hd
      exact mem_of_idxOf_lt heq h.forms_first
  | menu =>
      obtain rfl : d = .user := by simpa [StoreKind.looksAt] using hd
      exact mem_of_idxOf_lt heq h.user_first
  | _ => exact absurd hd (by simp [StoreKind.looksAt])

/-- **A dispatch comes to the same state in all these wirings.** -/
theorem dispatch (h : w.RunsAs ks) (s : Stores) (a : Action) :
    (Dispatcher.mk s w).dispatch a = (⟨s.next a, w⟩, s.outcomes a ks) := by
  have hrun := s.runAll_partway a ks [] (by simpa using h.nodup)
    (fun before k after heq d hd => by simpa using h.looksAt heq hd)
  rw [Stores.partway_nil, List.nil_append, Stores.partway_all h.mem] at hrun
  rw [Dispatcher.dispatch, h.handlers, hrun]

theorem dispatchAll (h : w.RunsAs ks) (as : List Action) : ∀ s : Stores,
    ((Dispatcher.mk s w).dispatchAll as).1 = ⟨as.foldl Stores.next s, w⟩ := by
  induction as with
  | nil => intro s; rfl
  | cons a as ih =>
    intro s
    rw [Dispatcher.dispatchAll, h.dispatch]
    exact ih (s.next a)

/-- The effects of a dispatch are those of the collections. -/
theorem effects (h : w.RunsAs ks) (s : Stores) (a : Action) :
    (s.outcomes a ks).effects = (s.outcomeOf a .collections).effects := by
  rw [s.outcomes_eq a ks]
  exact s.flatMap_effects a h.nodup (h.mem _)

end RunsAs

end StoreWiring

/-! ## The application -/

namespace Stores

theorem state_dispatch (s : Stores) (a : Action) :
    ((Dispatcher.mk s StoreWiring.application).dispatch a).1.state = s.next a := by
  rw [StoreWiring.application_runsAs.dispatch]

/-- The effects of a dispatch are those of the collections. -/
theorem effects_dispatch (s : Stores) (a : Action) :
    ((Dispatcher.mk s StoreWiring.application).dispatch a).2.effects =
      (s.outcomeOf a .collections).effects := by
  rw [StoreWiring.application_runsAs.dispatch, StoreWiring.application_runsAs.effects]

theorem events_dispatch (s : Stores) (a : Action) :
    ((Dispatcher.mk s StoreWiring.application).dispatch a).2.events =
      StoreKind.all.flatMap fun k => (s.outcomeOf a k).events := by
  rw [StoreWiring.application_runsAs.dispatch, outcomes_eq]

theorem changed_dispatch (s : Stores) (a : Action) :
    ((Dispatcher.mk s StoreWiring.application).dispatch a).2.changed =
      StoreKind.all.any fun k => (s.outcomeOf a k).changed := by
  rw [StoreWiring.application_runsAs.dispatch, outcomes_eq]

/-- The stores after some actions, in the wiring of the application. -/
def after (s : Stores) (as : List Action) : Stores :=
  ((Dispatcher.mk s StoreWiring.application).dispatchAll as).1.state

theorem after_eq_foldl (s : Stores) (as : List Action) : s.after as = as.foldl next s := by
  rw [after, StoreWiring.application_runsAs.dispatchAll]

theorem fst_dispatchAll (s : Stores) (as : List Action) :
    ((Dispatcher.mk s StoreWiring.application).dispatchAll as).1 =
      ⟨s.after as, StoreWiring.application⟩ := by
  rw [StoreWiring.application_runsAs.dispatchAll, after_eq_foldl]

theorem after_snoc (s : Stores) (as : List Action) (a : Action) :
    s.after (as ++ [a]) = (s.after as).next a := by
  simp only [after_eq_foldl, List.foldl_append, List.foldl_cons, List.foldl_nil]

end Stores

/-- Two dispatches that only the order of the events tells apart. -/
structure Agree (x y : Dispatcher Stores Action Effect × Outcome Effect) : Prop where
  /-- The stores are the same. -/
  stores : x.1.state = y.1.state
  /-- Both have changed something, or neither. -/
  changed : x.2.changed = y.2.changed
  /-- The effects are the same, in the same order. -/
  effects : x.2.effects = y.2.effects
  /-- The events are the same, in some order. -/
  events : x.2.events.Perm y.2.events

/--
**The two waits of the wiring are enough.**

Whatever the stores held and whatever has been dispatched so far, two wirings
with the forms before the collections and the user before the menus deal with the
next action in the same way.
-/
theorem dispatch_agree {w₁ w₂ : StoreWiring} {ks₁ ks₂ : List StoreKind}
    (h₁ : w₁.RunsAs ks₁) (h₂ : w₂.RunsAs ks₂) (s : Stores) (as : List Action) (a : Action) :
    Agree (((Dispatcher.mk s w₁).dispatchAll as).1.dispatch a)
      (((Dispatcher.mk s w₂).dispatchAll as).1.dispatch a) := by
  have hperm : ks₁.Perm ks₂ := h₁.perm.trans h₂.perm.symm
  rw [h₁.dispatchAll, h₂.dispatchAll, h₁.dispatch, h₂.dispatch]
  refine ⟨rfl, ?_, ?_, ?_⟩
  · rw [Stores.outcomes_eq, Stores.outcomes_eq]
    exact hperm.any_eq
  · rw [h₁.effects, h₂.effects]
  · rw [Stores.outcomes_eq, Stores.outcomes_eq]
    exact hperm.flatMap_right _

namespace StoreWiring

/-- The application with the stores that are seen first, and with its waits. -/
def viewsFirst : StoreWiring :=
  (extend {} [
    { store := .user },
    { store := .menu, after := ["user"] },
    { store := .route },
    { store := .panels },
    { store := .forms },
    { store := .collections, after := ["forms"] }]).toOption.getD {}

theorem viewsFirst_runsAs :
    viewsFirst.RunsAs [.user, .menu, .route, .panels, .forms, .collections] where
  handlers := rfl
  perm := by decide
  forms_first := by decide
  user_first := by decide

end StoreWiring

/-- Data that was sent in the name of a form did not arrive. -/
def notSent : Action :=
  .apiSubmitDataDidFail
    { actionUrl := "/v1/earner/badges", collection := "earner_badges", formId := some "f" }
    (.transport "no connection")

/-- The forms and the collections both react to it, after the form has been submitted. -/
theorem dispatch_agree_viewsFirst :
    StoreWiring.application.RunsAs StoreKind.all ∧
      StoreWiring.viewsFirst.RunsAs [.user, .menu, .route, .panels, .forms, .collections] ∧
      Agree
        (((Dispatcher.mk {} StoreWiring.application).dispatchAll
          [.formSubmit "f" .earnerCollectionCreate ∅]).1.dispatch notSent)
        (((Dispatcher.mk {} StoreWiring.viewsFirst).dispatchAll
          [.formSubmit "f" .earnerCollectionCreate ∅]).1.dispatch notSent) :=
  ⟨StoreWiring.application_runsAs, StoreWiring.viewsFirst_runsAs,
    dispatch_agree StoreWiring.application_runsAs StoreWiring.viewsFirst_runsAs _ _ _⟩

end OpenBadges
