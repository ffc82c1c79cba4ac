import OpenBadges.Store.FormStore

/-!
# What an action makes of one form

Forms have nothing to do with each other. What an action makes of a record hangs
on the record and the action alone, so the whole store can be understood one form
at a time: `recordAfter` is the life of a single form, and `get?_handle` says that
the store leads every form through just this life. Of a record that is there, no
more matters than its phase: the action gives it a `turn`, which is one of a few, and
what is to be known about records is shown turn by turn. A record that is not there
yet is made first (`recordAfter_none`).

The one thing that a dispatch remembers besides the records is the submission that
it accepted, and that is the only way for a form to begin to wait.
-/

namespace OpenBadges.FormStore

/-! ## Records are independent -/

theorem get?_put (s : FormStore) (form form' : FormId) (r : FormRecord) :
    (s.put form r).get? form' = if form' = form then some r else s.get? form' :=
  s.records.get?_insert form form' r

/-- What an action makes of the record of a form, if the form has one. -/
def recordAfter (registry : FormRegistry) (form : FormId) (r : Option FormRecord) :
    Action → Option FormRecord
  | .formDataPatched form' formType update =>
    match registry formType with
    | none => r
    | some config =>
      let r' := r.getD (.fresh config)
      if form = form' ∧ r'.state.phase = .ready then some (r'.patched update) else r
  | .formSubmit form' formType params =>
    match registry formType with
    | none => r
    | some config =>
      let r' := r.getD (.fresh config)
      if form = form' ∧ r'.state.phase = .ready then
        match registry.requestContext formType params form' with
        | .error e => some (r'.withMessage ⟨.danger, e.message⟩)
        | .ok _ => some r'.submitted
      else r
  | .formReset form' formType =>
    match registry formType with
    | none => r
    | some config => if form = form' then some (r.getD (.fresh config)).restarted else r
  | .apiFormResultSuccess form' _ result m => r.map fun r =>
    if form = form' ∧ r.state.phase = .waiting then r.completed result m else r
  | .apiFormResultFailure form' m => r.map fun r =>
    if form = form' ∧ r.state.phase = .waiting then r.refused m else r
  | .apiSubmitDataDidFail context failure => r.map fun r =>
    let m := failure.message "submitting data"
    if context.formId = some form then
      if r.state.phase = .waiting then r.refused m else r.withMessage m
    else r
  | _ => r

theorem get?_settle (s : FormStore) (form form' : FormId) (answer : FormRecord → FormRecord) :
    (s.settle form' answer).1.get? form = (s.get? form).map fun r =>
      if form = form' ∧ r.state.phase = .waiting then answer r else r := by
  rw [settle]
  by_cases hform : form = form'
  · subst hform
    cases hr : s.get? form with
    | none => simp [hr]
    | some r =>
        dsimp only
        split
        · rename_i hw; simp [store, get?_put, hw]
        · rename_i hw; simp [hr, hw]
  · have hother : ∀ r, (s.put form' r).get? form = s.get? form := fun r => by
      rw [get?_put, if_neg hform]
    cases s.get? form' with
    | none => simp [hform]
    | some r =>
        dsimp only
        split
        · simp [store, hother, hform]
        · simp [hform]

theorem get?_onFailure (s : FormStore) (form form' : FormId) (m : Message) :
    (s.onFailure form' m).1.get? form = (s.get? form).map fun r =>
      if form' = form then
        if r.state.phase = .waiting then r.refused m else r.withMessage m
      else r := by
  rw [onFailure]
  by_cases hform : form' = form
  · subst hform
    cases hr : s.get? form' with
    | none => simp [hr]
    | some r => simp [store, get?_put]
  · cases s.get? form' with
    | none => simp [hform]
    | some r => simp [store, get?_put, Ne.symm hform, hform]

/-- **Every form lives its own life.** -/
theorem get?_handle (registry : FormRegistry) (s : FormStore) (a : Action) (form : FormId) :
    (s.handle registry a).1.get? form = recordAfter registry form (s.get? form) a := by
  -- the submission accepted before is withdrawn first, which no record notices
  have hclear : ({ s with acceptedSubmit := none } : FormStore).get? form = s.get? form := rfl
  rw [handle]
  cases a with
  | formDataPatched form' formType update =>
      rw [react, recordAfter]
      cases registry formType with
      | none => rfl
      | some config =>
          by_cases hform : form = form'
          · subst hform
            simp only [onPatch, getOrFresh, hclear]
            split <;> simp [store, get?_put, *]
          · simp only [onPatch, hform, false_and, if_false]
            split
            · simp [store, get?_put, hform, hclear]
            · exact hclear
  | formSubmit form' formType params =>
      rw [react, recordAfter]
      cases registry formType with
      | none => rfl
      | some config =>
          by_cases hform : form = form'
          · subst hform
            simp only [onSubmit, getOrFresh, hclear]
            split
            · rename_i hready
              simp only [hready, and_self, if_true]
              cases registry.requestContext formType params form with
              | error e => simp [store, get?_put]
              | ok context => simp [store, get?_put]
            · rename_i hready
              simp [hready, hclear]
          · simp only [onSubmit, hform, false_and, if_false]
            split
            · cases registry.requestContext formType params form' with
              | error e => simp [store, get?_put, hform, hclear]
              | ok context =>
                  simp only [store, get?_put, hform, if_false]
                  rfl
            · exact hclear
  | formReset form' formType =>
      rw [react, recordAfter]
      cases registry formType with
      | none => rfl
      | some config =>
          by_cases hform : form = form'
          · subst hform
            simp [store, get?_put, getOrFresh, hclear]
          · simp [store, get?_put, hform, hclear]
  | apiFormResultSuccess form' context result m =>
      rw [react, recordAfter, get?_settle, hclear]
  | apiFormResultFailure form' m =>
      rw [react, recordAfter, get?_settle, hclear]
  | apiSubmitDataDidFail context failure =>
      rw [react, recordAfter]
      cases context.formId with
      | none => simp [hclear]
      | some form' => simp only [get?_onFailure, hclear, Option.some.injEq]
  | _ => rfl

/-! ## What becomes of a record -/

/-- What can become of a record. -/
inductive Turn where
  | keep
  | edit (update : FormValues)
  | tell (m : Message)
  | submit
  | restart
  | complete (result : Json) (m : Message)
  | refuse (m : Message)

namespace Turn

/-- The record after a turn. -/
def apply (r : FormRecord) : Turn → FormRecord
  | keep => r
  | edit update => r.patched update
  | tell m => r.withMessage m
  | submit => r.submitted
  | restart => r.restarted
  | complete result m => r.completed result m
  | refuse m => r.refused m

/-- The phase of a form after a turn. -/
def phase (p : FormPhase) : Turn → FormPhase
  | keep | edit _ | tell _ => p
  | submit => .waiting
  | restart | refuse _ => .ready
  | complete _ _ => .complete

/-- The phases in which a turn can come. -/
def Fits (p : FormPhase) : Turn → Prop
  | keep | restart => True
  | edit _ | submit => p = .ready
  | tell _ => p ≠ .waiting
  | complete _ _ | refuse _ => p = .waiting

@[simp] theorem phase_apply (r : FormRecord) (t : Turn) :
    (t.apply r).state.phase = t.phase r.state.phase := by
  cases t <;> rfl

theorem eq_submit_of_phase {p : FormPhase} {t : Turn} (h : t.phase p = .waiting)
    (hp : p ≠ .waiting) : t = .submit := by
  cases t <;> simp_all [phase]

end Turn

/-- The turn that an action gives to a form in some phase. -/
def turn (registry : FormRegistry) (form : FormId) (p : FormPhase) : Action → Turn
  | .formDataPatched form' formType update =>
    if form = form' ∧ (registry formType).isSome ∧ p = .ready then .edit update else .keep
  | .formSubmit form' formType params =>
    if form = form' ∧ (registry formType).isSome ∧ p = .ready then
      match registry.requestContext formType params form with
      | .error e => .tell ⟨.danger, e.message⟩
      | .ok _ => .submit
    else .keep
  | .formReset form' formType =>
    if form = form' ∧ (registry formType).isSome then .restart else .keep
  | .apiFormResultSuccess form' _ result m =>
    if form = form' ∧ p = .waiting then .complete result m else .keep
  | .apiFormResultFailure form' m => if form = form' ∧ p = .waiting then .refuse m else .keep
  | .apiSubmitDataDidFail context failure =>
    let m := failure.message "submitting data"
    if context.formId = some form then
      if p = .waiting then .refuse m else .tell m
    else .keep
  | _ => .keep

/-- **A record that is there stays, and its turn hangs on no more of it than its phase.** -/
theorem recordAfter_some (registry : FormRegistry) (form : FormId) (r : FormRecord) (a : Action) :
    recordAfter registry form (some r) a =
      some ((turn registry form r.state.phase a).apply r) := by
  cases a with
  | formDataPatched form' formType update =>
      rw [recordAfter, turn]
      cases registry formType with
      | none => simp [Turn.apply]
      | some config =>
          simp only [Option.getD_some, Option.isSome_some, true_and]
          split <;> rfl
  | formSubmit form' formType params =>
      rw [recordAfter, turn]
      cases registry formType with
      | none => simp [Turn.apply]
      | some config =>
          simp only [Option.getD_some, Option.isSome_some, true_and]
          split
          · rename_i hready
            rw [hready.1]
            cases registry.requestContext formType params form' <;> rfl
          · rfl
  | formReset form' formType =>
      rw [recordAfter, turn]
      cases registry formType with
      | none => simp [Turn.apply]
      | some config =>
          simp only [Option.getD_some, Option.isSome_some, and_true]
          split <;> rfl
  | apiFormResultSuccess form' context result m =>
      rw [recordAfter, turn, Option.map_some]
      split <;> rfl
  | apiFormResultFailure form' m =>
      rw [recordAfter, turn, Option.map_some]
      split <;> rfl
  | apiSubmitDataDidFail context failure =>
      rw [recordAfter, turn, Option.map_some]
      dsimp only
      split
      · split <;> rfl
      · rfl
  | _ => rfl

/-- The configuration that an action looks up for the form, if it is about the form. -/
def opens? (registry : FormRegistry) (form : FormId) : Action → Option FormConfig
  | .formDataPatched form' formType _ => if form = form' then registry formType else none
  | .formSubmit form' formType _ => if form = form' then registry formType else none
  | .formReset form' formType => if form = form' then registry formType else none
  | _ => none

/-- A record that is not there yet is made, and has its turn at once like one that was. -/
theorem recordAfter_none (registry : FormRegistry) (form : FormId) (a : Action) :
    recordAfter registry form none a =
      (opens? registry form a).bind fun config =>
        recordAfter registry form (some (.fresh config)) a := by
  cases a with
  | formDataPatched form' formType update =>
      rw [recordAfter, opens?]
      by_cases hform : form = form' <;> cases hconfig : registry formType <;>
        simp [recordAfter, hform, hconfig]
  | formSubmit form' formType params =>
      rw [recordAfter, opens?]
      by_cases hform : form = form' <;> cases hconfig : registry formType <;>
        simp [recordAfter, hform, hconfig]
  | formReset form' formType =>
      rw [recordAfter, opens?]
      by_cases hform : form = form' <;> cases hconfig : registry formType <;>
        simp [recordAfter, hform, hconfig]
  | _ => rfl

/-- Every record comes from one that was there, or from a fresh one. -/
theorem exists_turn {registry : FormRegistry} {form : FormId} {r : Option FormRecord} {a : Action}
    {r' : FormRecord} (h : recordAfter registry form r a = some r') :
    ∃ r₀, r' = (turn registry form r₀.state.phase a).apply r₀ ∧
      (r = some r₀ ∨ r = none ∧ ∃ config, opens? registry form a = some config ∧
        r₀ = .fresh config) := by
  cases r with
  | some r₀ =>
      rw [recordAfter_some] at h
      exact ⟨r₀, (Option.some.inj h).symm, .inl rfl⟩
  | none =>
      rw [recordAfter_none] at h
      obtain ⟨config, hconfig, h⟩ := Option.bind_eq_some_iff.mp h
      rw [recordAfter_some] at h
      exact ⟨.fresh config, (Option.some.inj h).symm, .inr ⟨rfl, config, hconfig, rfl⟩⟩

/-- Every turn comes in a phase that fits. -/
theorem fits_turn (registry : FormRegistry) (form : FormId) (p : FormPhase) (a : Action) :
    (turn registry form p a).Fits p := by
  cases a <;> grind [turn, Turn.Fits]

/-- Only the submission of a form lets it be submitted. -/
theorem turn_eq_submit {registry : FormRegistry} {form : FormId} {p : FormPhase} {a : Action}
    (h : turn registry form p a = .submit) :
    p = .ready ∧ ∃ formType params config context, a = .formSubmit form formType params ∧
      registry formType = some config ∧
      registry.requestContext formType params form = .ok context := by
  cases a with
  | formSubmit form' formType params =>
      rw [turn] at h
      split at h
      · rename_i hready
        obtain ⟨rfl, hsome, hready⟩ := hready
        obtain ⟨config, hconfig⟩ := Option.isSome_iff_exists.mp hsome
        split at h
        · exact absurd h (by simp)
        · rename_i context hcontext
          exact ⟨hready, formType, params, config, context, rfl, hconfig, hcontext⟩
      · exact absurd h (by simp)
  | _ => grind [turn]

/-! ## How a form begins to wait, and how it ends -/

/-- **A form waits if it did before, or if its submission has just been accepted.** -/
theorem waiting_recordAfter {registry : FormRegistry} {form : FormId} {r : Option FormRecord}
    {a : Action} {r' : FormRecord} (h : recordAfter registry form r a = some r')
    (hw : r'.state.phase = .waiting) :
    (∃ r₀, r = some r₀ ∧ r₀.state.phase = .waiting) ∨
      ∃ formType params config context, a = .formSubmit form formType params ∧
        registry formType = some config ∧
        registry.requestContext formType params form = .ok context ∧
        (r.getD (.fresh config)).state.phase = .ready := by
  obtain ⟨r₀, rfl, hr⟩ := exists_turn h
  rw [Turn.phase_apply] at hw
  by_cases hwaiting : r₀.state.phase = .waiting
  · rcases hr with rfl | ⟨_, config, _, rfl⟩
    · exact .inl ⟨r₀, rfl, hwaiting⟩
    · exact absurd hwaiting (by simp)
  · obtain ⟨hready, formType, params, config, context, ha, hconfig, hcontext⟩ :=
      turn_eq_submit (Turn.eq_submit_of_phase hw hwaiting)
    refine .inr ⟨formType, params, config, context, ha, hconfig, hcontext, ?_⟩
    rcases hr with rfl | ⟨rfl, _⟩
    · exact hready
    · rfl

/-- What comes of a submission ends the waiting. -/
theorem not_waiting_of_result {registry : FormRegistry} {form : FormId} {r : Option FormRecord}
    {a : Action} {r' : FormRecord}
    (ha : (∃ context result m, a = .apiFormResultSuccess form context result m) ∨
      ∃ m, a = .apiFormResultFailure form m)
    (h : recordAfter registry form r a = some r') : r'.state.phase ≠ .waiting := by
  obtain ⟨r₀, rfl, _⟩ := exists_turn h
  rw [Turn.phase_apply]
  rcases ha with ⟨context, result, m, rfl⟩ | ⟨m, rfl⟩ <;> grind [turn, Turn.phase]

/-- A submission that is accepted is remembered. -/
theorem handle_formSubmit {registry : FormRegistry} {s : FormStore} {form : FormId}
    {formType : FormType} {params : UrlParams} {config : FormConfig} {context : RequestContext}
    (hconfig : registry formType = some config)
    (hcontext : registry.requestContext formType params form = .ok context)
    (hready : ((s.get? form).getD (.fresh config)).state.phase = .ready) :
    let s' := (s.handle registry (.formSubmit form formType params)).1
    s'.acceptedSubmit = some form ∧
      s'.get? form = some ((s.get? form).getD (.fresh config)).submitted := by
  have hclear : ({ s with acceptedSubmit := none } : FormStore).get? form = s.get? form := rfl
  rw [handle, react, hconfig]
  simp only [onSubmit, getOrFresh, hclear, hready, if_true, hcontext, store]
  exact ⟨rfl, by rw [get?_put, if_pos rfl]⟩

/-! ## The submission that is remembered -/

/-- The action submits the form, and that can be done. -/
def Accepts (registry : FormRegistry) (s : FormStore) (form : FormId) (a : Action) : Prop :=
  ∃ formType params config context, a = .formSubmit form formType params ∧
    registry formType = some config ∧
    registry.requestContext formType params form = .ok context ∧
    ((s.get? form).getD (.fresh config)).state.phase = .ready

theorem acceptedSubmit_settle (s : FormStore) (form : FormId) (answer : FormRecord → FormRecord) :
    (s.settle form answer).1.acceptedSubmit = s.acceptedSubmit := by
  rw [settle]
  split
  · split <;> rfl
  · rfl

theorem acceptedSubmit_onFailure (s : FormStore) (form : FormId) (m : Message) :
    (s.onFailure form m).1.acceptedSubmit = s.acceptedSubmit := by
  rw [onFailure]
  split <;> rfl

theorem acceptedSubmit_onPatch (s : FormStore) (form : FormId) (config : FormConfig)
    (update : FormValues) : (s.onPatch form config update).1.acceptedSubmit = s.acceptedSubmit := by
  rw [onPatch]
  split <;> rfl

/-- **A submission is remembered just if it has been accepted.** -/
theorem acceptedSubmit_handle {registry : FormRegistry} {s : FormStore} {a : Action}
    {form : FormId} :
    (s.handle registry a).1.acceptedSubmit = some form ↔ Accepts registry s form a := by
  constructor
  · intro h
    rw [handle] at h
    cases a with
    | formDataPatched form' formType update =>
        rw [react] at h
        split at h
        · exact absurd h (by simp)
        · rw [acceptedSubmit_onPatch] at h
          exact absurd h (by simp)
    | formSubmit form' formType params =>
        rw [react] at h
        split at h
        · exact absurd h (by simp)
        · rename_i config hconfig
          simp only [onSubmit] at h
          split at h
          · rename_i hready
            split at h
            · exact absurd h (by simp [store, put])
            · rename_i context hcontext
              obtain rfl := Option.some.inj h
              exact ⟨formType, params, config, context, rfl, hconfig, hcontext, hready⟩
          · exact absurd h (by simp)
    | formReset form' formType =>
        rw [react] at h
        split at h <;> exact absurd h (by simp [store, put])
    | apiFormResultSuccess form' context result m =>
        rw [react, acceptedSubmit_settle] at h
        exact absurd h (by simp)
    | apiFormResultFailure form' m =>
        rw [react, acceptedSubmit_settle] at h
        exact absurd h (by simp)
    | apiSubmitDataDidFail context failure =>
        rw [react] at h
        split at h
        · exact absurd h (by simp)
        · rw [acceptedSubmit_onFailure] at h
          exact absurd h (by simp)
    | _ => exact absurd h (by simp [react])
  · rintro ⟨formType, params, config, context, rfl, hconfig, hcontext, hready⟩
    exact (handle_formSubmit hconfig hcontext hready).1

end OpenBadges.FormStore
