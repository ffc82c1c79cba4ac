import OpenBadges.Proofs.Settlement

/-!
# From the forms to the collections

A form is submitted by two stores. The forms make it wait, and the collections post
it. Each looks up the configuration of the form type and fills in the path for
itself; what passes between them is only the name of the form that has been
accepted, which the forms withdraw at the next action.

Nothing else is needed of a wiring than that the forms go before the collections.
Other stores may be missing, or run anywhere between: they touch neither of the two,
so on the way through a dispatch these are as they are in `next`, or as they were
(`Midway`).
-/

namespace OpenBadges

namespace StoreWiring

/-- A wiring in which the forms and the collections take part, the forms first. -/
structure FormsFirst (w : StoreWiring) (ks : List StoreKind) : Prop where
  /-- The handlers are those of some stores, in this order. -/
  handlers : w.handlers = ks.map StoreKind.handler
  /-- The forms take part once. -/
  forms : ks.count .forms = 1
  /-- The collections take part once. -/
  collections : ks.count .collections = 1
  /-- The forms run before the collections. -/
  forms_first : ks.idxOf .forms < ks.idxOf .collections

end StoreWiring

namespace Stores

/-! ## What other stores leave alone -/

/-- The forms and the collections as they are when the stores in `done` have had their turn. -/
structure Midway (s : Stores) (a : Action) (done : List StoreKind) (x : Stores) : Prop where
  forms : x.forms = (s.partway a done).forms
  collections : x.collections = (s.partway a done).collections
  registry : x.registry = s.registry

/-- Every other store leaves the forms and the collections alone, and asks for nothing. -/
theorem handler_other (x : Stores) (a : Action) {k : StoreKind} (hforms : k ≠ .forms)
    (hcollections : k ≠ .collections) :
    (k.handler x a).1.forms = x.forms ∧ (k.handler x a).1.collections = x.collections ∧
      (k.handler x a).1.registry = x.registry ∧ (k.handler x a).2.effects = [] := by
  cases k with
  | forms => exact absurd rfl hforms
  | collections => exact absurd rfl hcollections
  | menu => exact ⟨rfl, rfl, rfl, MenuStore.effects_handle _ _ _⟩
  | panels => exact ⟨rfl, rfl, rfl, effects_outcomeOf x a (k := .panels) (by decide)⟩
  | route => exact ⟨rfl, rfl, rfl, effects_outcomeOf x a (k := .route) (by decide)⟩
  | user => exact ⟨rfl, rfl, rfl, effects_outcomeOf x a (k := .user) (by decide)⟩

/-- **The forms and the collections go on only at their own turns.** -/
theorem handler_midway {s : Stores} {a : Action} {done : List StoreKind} {k : StoreKind}
    {x : Stores} (h : s.Midway a done x) (hnew : k = .forms ∨ k = .collections → k ∉ done)
    (hfirst : k = .collections → .forms ∈ done) :
    s.Midway a (done ++ [k]) (k.handler x a).1 ∧
      (k.handler x a).2.effects =
        if k = .collections then (s.outcomeOf a .collections).effects else [] := by
  obtain ⟨hforms, hcollections, hregistry⟩ := h
  by_cases hk : k = .forms
  · subst hk
    have hbefore : x.forms = s.forms := by simp [hforms, partway, hnew (.inl rfl)]
    refine ⟨⟨?_, ?_, hregistry⟩, FormStore.effects_handle _ _ _⟩
    · simp [StoreKind.handler, handleForms, hbefore, hregistry, partway, next]
    · simp [StoreKind.handler, handleForms, hcollections, partway]
  by_cases hk' : k = .collections
  · subst hk'
    have hafter : x.forms = (s.next a).forms := by simp [hforms, partway, hfirst rfl]
    have hbefore : x.collections = s.collections := by
      simp [hcollections, partway, hnew (.inr rfl)]
    refine ⟨⟨?_, ?_, hregistry⟩, ?_⟩
    · simp [StoreKind.handler, handleCollections, hafter, partway, hfirst rfl]
    · simp [StoreKind.handler, handleCollections, hafter, hbefore, hregistry, partway, next]
    · simp [StoreKind.handler, handleCollections, hafter, hbefore, hregistry, outcomeOf]
  · obtain ⟨hforms', hcollections', hregistry', hnone⟩ := handler_other x a hk hk'
    refine ⟨⟨?_, ?_, hregistry'.trans hregistry⟩, by rw [hnone, if_neg hk']⟩
    · simp [hforms', hforms, partway, Ne.symm hk]
    · simp [hcollections', hcollections, partway, Ne.symm hk']

/-- The stores of a list take their turns; only the collections ask for effects. -/
theorem runAll_midway (s : Stores) (a : Action) : ∀ (ks done : List StoreKind) (x : Stores),
    (∀ k, k = .forms ∨ k = .collections → (done ++ ks).count k ≤ 1) →
    (∀ before after, ks = before ++ .collections :: after → .forms ∈ done ++ before) →
    s.Midway a done x →
    s.Midway a (done ++ ks) (Handler.runAll (ks.map StoreKind.handler) x a).1 ∧
      (Handler.runAll (ks.map StoreKind.handler) x a).2.effects =
        if .collections ∈ ks then (s.outcomeOf a .collections).effects else [] := by
  intro ks
  induction ks with
  | nil => intro done x _ _ h; simpa [Handler.runAll, Outcome.unchanged] using h
  | cons k ks ih =>
    intro done x honce hfirst h
    -- the two stores that matter occur neither among those before nor among those to come
    have hnew : k = .forms ∨ k = .collections → k ∉ done ∧ k ∉ ks := fun hk => by
      have hcount := honce k hk
      rw [List.count_append, List.count_cons_self] at hcount
      exact ⟨List.count_eq_zero.mp (by omega), List.count_eq_zero.mp (by omega)⟩
    obtain ⟨hturn, heffects⟩ := handler_midway h (fun hk => (hnew hk).1) fun hk => by
      simpa using hfirst [] ks (by rw [hk, List.nil_append])
    obtain ⟨hrest, hrestEffects⟩ := ih (done ++ [k]) _ (by simpa using honce)
      (fun before after heq => by simpa using hfirst (k :: before) after (by simp [heq])) hturn
    rw [List.map_cons, Handler.runAll]
    refine ⟨by simpa using hrest, ?_⟩
    dsimp only
    rw [Outcome.effects_append, heffects, hrestEffects]
    by_cases hcollections : k = .collections
    · subst hcollections
      simp [(hnew (.inr rfl)).2]
    · simp [hcollections, Ne.symm hcollections]

/-- A form that was ready, or had no record, has begun to wait. -/
def Begins (s s' : Stores) (form : FormId) : Prop :=
  s.phase form = .ready ∧ s'.phase form = .waiting

theorem begins_iff_accepts {s s' : Stores} {form : FormId} {a : Action}
    (hforms : s'.forms = (s.next a).forms) : s.Begins s' form ↔ s.Accepts form a := by
  have hphase : s'.phase form = (s.next a).phase form := by rw [phase, phase, hforms]
  rw [Begins, hphase]
  constructor
  · rintro ⟨hready, hw⟩
    rcases waiting_next hw with hwaiting | haccepts
    · exact absurd (hready.symm.trans hwaiting) (by decide)
    · exact haccepts
  · exact phase_of_accepts

end Stores

/-! ## What is posted -/

/-- The call that a form is posted with. -/
theorem FormRegistry.requestContext_eq_ok {registry : FormRegistry} {formType : FormType}
    {config : FormConfig} (hconfig : registry formType = some config) {params : UrlParams}
    {form : FormId} {context : RequestContext} :
    registry.requestContext formType params form = .ok context ↔
      ∃ url, fillUrl config.api.actionUrl params = .ok url ∧
        context = {
          actionUrl := url
          method := config.api.method
          successfulStatuses := config.api.successfulStatuses
          collection := config.api.collection
          formId := some form } := by
  rw [requestContext, hconfig]
  dsimp only [bind, Except.bind, pure, Except.pure]
  cases fillUrl config.api.actionUrl params <;> simp [eq_comm]

/-- What is posted of a form that is submitted under a form type. -/
def FormConfig.submission (config : FormConfig) (url : String) (form : FormId)
    (r : FormRecord) : Submission where
  form := form
  fields := r.fields
  values := r.state.values
  context := {
    actionUrl := url
    method := config.api.method
    successfulStatuses := config.api.successfulStatuses
    collection := config.api.collection
    formId := some form }
  successMessage := config.successMessage

/-- How an action takes the stores from `s` to `s'` and which effects it asks for, as far as
submissions go. -/
structure HandsOff (s : Stores) (a : Action) (s' : Stores) (effects : List Effect) : Prop where
  /-- A form is posted just when a form has begun to wait. -/
  posts : (∃ p, Effect.postForm p ∈ effects) ↔ ∃ form, s.Begins s' form
  /-- Then the action submits it, and it is posted once, as it is, and nothing else is done. -/
  posted : ∀ form, s.Begins s' form →
    ∃ formType params config url r,
      a = .formSubmit form formType params ∧
      s.registry formType = some config ∧
      FormRegistry.fillUrl config.api.actionUrl params = .ok url ∧
      s'.forms.get? form = some r ∧
      r = ((s.forms.get? form).getD (.fresh config)).submitted ∧
      effects = [.postForm (config.submission url form r)]
  /-- A form that is submitted begins to wait if it is ready and its path can be filled in. -/
  begins : ∀ form formType params, a = .formSubmit form formType params →
    (s.Begins s' form ↔
      s.phase form = .ready ∧ ∃ config url, s.registry formType = some config ∧
        FormRegistry.fillUrl config.api.actionUrl params = .ok url)
  /-- Otherwise nothing is asked for, and no form begins to wait. -/
  otherwise : ∀ form formType params, a = .formSubmit form formType params →
    ¬s.Begins s' form →
    effects = [] ∧ ∀ form', s'.phase form' = .waiting → s.phase form' = .waiting

namespace Stores

variable {s s' : Stores} {a : Action}

theorem phase_eq_ready (s : Stores) (form : FormId) (config : FormConfig) :
    s.phase form = .ready ↔ ((s.forms.get? form).getD (.fresh config)).state.phase = .ready := by
  rw [phase]
  cases s.forms.get? form <;> simp

/-- Whether a submission is accepted hangs on the form, its type, and the path. -/
theorem accepts_formSubmit {form : FormId} {formType : FormType} {params : UrlParams} :
    s.Accepts form (.formSubmit form formType params) ↔
      s.phase form = .ready ∧ ∃ config url, s.registry formType = some config ∧
        FormRegistry.fillUrl config.api.actionUrl params = .ok url := by
  constructor
  · rintro ⟨_, _, config, context, ⟨⟩, hconfig, hcontext, hready⟩
    obtain ⟨url, hurl, _⟩ := (FormRegistry.requestContext_eq_ok hconfig).mp hcontext
    exact ⟨(s.phase_eq_ready form config).mpr hready, config, url, hconfig, hurl⟩
  · rintro ⟨hready, config, url, hconfig, hurl⟩
    exact ⟨formType, params, config, _, rfl, hconfig,
      (FormRegistry.requestContext_eq_ok hconfig).mpr ⟨url, hurl, rfl⟩,
      (s.phase_eq_ready form config).mp hready⟩

/-- A form whose submission is accepted is posted as it is. -/
theorem posted_of_accepts {form : FormId} (h : s.Accepts form a) :
    ∃ formType params config url r,
      a = .formSubmit form formType params ∧
      s.registry formType = some config ∧
      FormRegistry.fillUrl config.api.actionUrl params = .ok url ∧
      (s.next a).forms.get? form = some r ∧
      r = ((s.forms.get? form).getD (.fresh config)).submitted ∧
      (s.outcomeOf a .collections).effects = [.postForm (config.submission url form r)] := by
  obtain ⟨formType, params, config, context, rfl, hconfig, hcontext, hready⟩ := h
  obtain ⟨url, hurl, rfl⟩ := (FormRegistry.requestContext_eq_ok hconfig).mp hcontext
  exact ⟨formType, params, config, url, _, rfl, hconfig, hurl,
    (FormStore.handle_formSubmit hconfig hcontext hready).2, rfl,
    Underway.postForm_of_accepted hconfig hcontext hready⟩

theorem eq_of_accepts {form form' : FormId} {formType : FormType} {params : UrlParams}
    (h : s.Accepts form' (.formSubmit form formType params)) : form' = form := by
  obtain ⟨_, _, _, _, ⟨⟩, _⟩ := h
  rfl

/-- A submission that is not accepted asks for nothing. -/
theorem effects_of_not_accepts {form : FormId} {formType : FormType} {params : UrlParams}
    (h : ¬s.Accepts form (.formSubmit form formType params)) :
    (s.outcomeOf (.formSubmit form formType params) .collections).effects = [] := by
  cases hsubmission : CollectionStore.submission? s.registry
      (s.next (.formSubmit form formType params)).forms form formType params with
  | none => rw [outcomeOf, CollectionStore.handle, hsubmission]; rfl
  | some p =>
      -- what is posted has been accepted
      have haccepts : s.Accepts p.form (.formSubmit form formType params) := by
        refine accepts_of_posted ?_
        rw [outcomeOf, CollectionStore.handle, hsubmission]
        exact List.mem_cons_self
      exact absurd (eq_of_accepts haccepts ▸ haccepts) h

end Stores

namespace StoreWiring.FormsFirst

variable {w : StoreWiring} {ks : List StoreKind}

theorem midway (h : w.FormsFirst ks) (s : Stores) (a : Action) :
    s.Midway a ks ((Dispatcher.mk s w).dispatch a).1.state ∧
      ((Dispatcher.mk s w).dispatch a).2.effects = (s.outcomeOf a .collections).effects := by
  have honce : ∀ k, k = .forms ∨ k = .collections → ([] ++ ks).count k ≤ 1 := by
    rintro k (rfl | rfl)
    · exact Nat.le_of_eq h.forms
    · exact Nat.le_of_eq h.collections
  have hmem : StoreKind.collections ∈ ks := List.count_pos_iff.mp (h.collections ▸ Nat.one_pos)
  obtain ⟨hmidway, heffects⟩ := s.runAll_midway a ks [] s honce
    (fun before after heq => by simpa using mem_of_idxOf_lt heq h.forms_first) ⟨rfl, rfl, rfl⟩
  rw [Dispatcher.dispatch, h.handlers]
  exact ⟨by simpa using hmidway, by simpa [hmem] using heffects⟩

/-- So the forms are as the wiring of the application would leave them. -/
theorem forms_dispatch (h : w.FormsFirst ks) (s : Stores) (a : Action) :
    ((Dispatcher.mk s w).dispatch a).1.state.forms = (s.next a).forms := by
  have hmem : StoreKind.forms ∈ ks := List.count_pos_iff.mp (h.forms ▸ Nat.one_pos)
  simp [(h.midway s a).1.forms, Stores.partway, hmem]

/--
**The forms hand over what they accept, and only that.**

The stores may hold anything, and a submission accepted by some earlier action
may still be remembered; the other stores of the wiring do not matter.
-/
theorem handsOff (h : w.FormsFirst ks) (s : Stores) (a : Action) :
    HandsOff s a ((Dispatcher.mk s w).dispatch a).1.state
      ((Dispatcher.mk s w).dispatch a).2.effects := by
  have hforms := h.forms_dispatch s a
  rw [(h.midway s a).2]
  refine ⟨⟨?_, ?_⟩, ?_, ?_, ?_⟩
  · rintro ⟨p, hp⟩
    exact ⟨p.form, (Stores.begins_iff_accepts hforms).mpr (Stores.accepts_of_posted hp)⟩
  · rintro ⟨form, hbegins⟩
    obtain ⟨_, _, config, url, r, -, -, -, -, -, heffects⟩ :=
      Stores.posted_of_accepts ((Stores.begins_iff_accepts hforms).mp hbegins)
    exact ⟨config.submission url form r, by rw [heffects]; exact List.mem_cons_self⟩
  · intro form hbegins
    have hposted := Stores.posted_of_accepts ((Stores.begins_iff_accepts hforms).mp hbegins)
    rwa [← hforms] at hposted
  · rintro form formType params rfl
    rw [Stores.begins_iff_accepts hforms, Stores.accepts_formSubmit]
  · rintro form formType params rfl hnot
    rw [Stores.begins_iff_accepts hforms] at hnot
    refine ⟨Stores.effects_of_not_accepts hnot, fun form' hw => ?_⟩
    have hw' : (s.next (.formSubmit form formType params)).phase form' = .waiting := by
      rwa [Stores.phase, ← hforms]
    exact (Stores.waiting_next hw').resolve_right fun haccepts =>
      hnot (Stores.eq_of_accepts haccepts ▸ haccepts)

end StoreWiring.FormsFirst

/-- Four of the stores; the menus do not wait for the user. -/
def StoreWiring.menuFirst : StoreWiring :=
  (extend {} [
    { store := .menu },
    { store := .forms },
    { store := .user },
    { store := .collections, after := ["forms"] }]).toOption.getD {}

theorem StoreWiring.menuFirst_formsFirst :
    menuFirst.FormsFirst [.menu, .forms, .user, .collections] where
  handlers := rfl
  forms := by decide
  collections := by decide
  forms_first := by decide

/-- A submission of another form is still remembered. -/
def Stores.remembering : Stores := { forms := { acceptedSubmit := some "g" } }

/-- A form is submitted that awards a badge. Its path names the issuer and the badge. -/
def Action.award : Action :=
  .formSubmit "f" .badgeInstanceCreate (.ofList [("issuer", "acme"), ("badge", "gold")])

/-- The form begins to wait there and is posted, under a path with both names filled in. -/
theorem StoreWiring.handsOff_menuFirst :
    menuFirst.FormsFirst [.menu, .forms, .user, .collections] ∧
      HandsOff Stores.remembering .award
        ((Dispatcher.mk Stores.remembering menuFirst).dispatch .award).1.state
        ((Dispatcher.mk Stores.remembering menuFirst).dispatch .award).2.effects ∧
      Stores.remembering.Begins
        ((Dispatcher.mk Stores.remembering menuFirst).dispatch .award).1.state "f" ∧
      ((Dispatcher.mk Stores.remembering menuFirst).dispatch .award).2.effects = [.postForm {
        form := "f"
        fields := FormConfig.badgeInstanceCreate.fields
        values := .ofList [("email", .text ""), ("evidence", .text ""),
          ("create_notification", .bool false)]
        context := {
          actionUrl := "/v1/issuer/issuers/acme/badges/gold/assertions"
          method := .post
          successfulStatuses := [200, 201]
          collection := "issuer_badgeinstances"
          formId := some "f" }
        successMessage := "Badge awarded." }] := by
  have hhands := menuFirst_formsFirst.handsOff Stores.remembering .award
  exact ⟨menuFirst_formsFirst, hhands, ⟨rfl, rfl⟩, rfl⟩

end OpenBadges
