import OpenBadges.Proofs.Answers
import OpenBadges.Proofs.Course

/-!
# The life of a form

A form is ready, waits, and is complete. What an action does to it hangs on no more
of its record than the phase (`FormStore.turn`): a restart leads back to the beginning
from everywhere, what else the user does counts only while the form is ready, and what
comes of a submission only while it waits.

What a record shows goes with its phase: there is a result just if the form is
complete, nothing is said while it waits, and something is when it is complete. This
is not kept phase by phase. A request that has failed leaves its message on a form
that is complete, too, and a restart takes the result away from everywhere; so it is
shown of each turn that a record can take (`Coherent.apply`).
-/

namespace OpenBadges

/-! ## What an action is to a form -/

namespace Action

/-- Whether an action submits the form, and the path of its call can be filled in. -/
def submits (registry : FormRegistry) (form : FormId) : Action → Bool
  | .formSubmit form' formType params =>
    form = form' && (registry.requestContext formType params form).toOption.isSome
  | _ => false

/-- Whether an action starts the form over. -/
def restarts (registry : FormRegistry) (form : FormId) : Action → Bool
  | .formReset form' formType => form = form' && (registry formType).isSome
  | _ => false

/-- Whether an action says that the submission of the form has worked. -/
def succeeds (form : FormId) : Action → Bool
  | .apiFormResultSuccess form' _ _ _ => form = form'
  | _ => false

/-- Whether an action says that a request for the form has failed. -/
def fails (form : FormId) : Action → Bool
  | .apiFormResultFailure form' _ => form = form'
  | .apiSubmitDataDidFail context _ => context.formId = some form
  | _ => false

end Action

/-! ## What a record shows -/

/-- A record shows what its phase says. -/
structure FormRecord.Coherent (r : FormRecord) : Prop where
  /-- There is a result just if the form is complete. -/
  result : r.state.result.isSome ↔ r.state.phase = .complete
  /-- Nothing is said while the form waits. -/
  silent : r.state.phase = .waiting → r.state.message = none
  /-- Something is said when it is complete. -/
  spoken : r.state.phase = .complete → r.state.message.isSome

namespace FormRecord

theorem coherent_fresh (config : FormConfig) : (fresh config).Coherent where
  result := by simp [fresh]
  silent := fun h => absurd h (by simp)
  spoken := fun h => absurd h (by simp)

theorem coherent_restarted (r : FormRecord) : r.restarted.Coherent where
  result := by simp [restarted]
  silent := fun h => absurd h (by simp)
  spoken := fun h => absurd h (by simp)

theorem coherent_completed (r : FormRecord) (result : Json) (m : Message) :
    (r.completed result m).Coherent where
  result := by simp [completed]
  silent := fun h => absurd h (by simp)
  spoken := fun _ => rfl

namespace Coherent

variable {r : FormRecord}

theorem patched (h : r.Coherent) (update : FormValues) : (r.patched update).Coherent :=
  ⟨h.result, h.silent, h.spoken⟩

/-- A form that does not wait can be spoken of at any time. -/
theorem withMessage (h : r.Coherent) (hw : r.state.phase ≠ .waiting) (m : Message) :
    (r.withMessage m).Coherent :=
  ⟨h.result, fun hw' => absurd hw' hw, fun _ => rfl⟩

/-- A form has no result as long as it is not complete. -/
theorem result_eq_none (h : r.Coherent) (hc : r.state.phase ≠ .complete) :
    r.state.result = none := by
  rw [← Option.not_isSome_iff_eq_none, h.result]
  exact hc

theorem submitted (h : r.Coherent) (hready : r.state.phase = .ready) : r.submitted.Coherent where
  result := by simp [FormRecord.submitted, h.result_eq_none (by simp [hready])]
  silent := fun _ => rfl
  spoken := fun hc => absurd hc (by simp)

theorem refused (h : r.Coherent) (hw : r.state.phase = .waiting) (m : Message) :
    (r.refused m).Coherent where
  result := by simp [FormRecord.refused, h.result_eq_none (by simp [hw])]
  silent := fun hw' => absurd hw' (by simp)
  spoken := fun hc => absurd hc (by simp)

/-- **No turn that comes in its phase spoils a record.** -/
theorem apply (h : r.Coherent) {t : FormStore.Turn} (ht : t.Fits r.state.phase) :
    (t.apply r).Coherent := by
  cases t with
  | keep => exact h
  | edit update => exact h.patched update
  | tell m => exact h.withMessage ht m
  | submit => exact h.submitted ht
  | restart => exact r.coherent_restarted
  | complete result m => exact r.coherent_completed result m
  | refuse m => exact h.refused ht m

end Coherent

end FormRecord

/-- What an action makes of a record shows what its phase says, and so does what it makes anew. -/
theorem FormStore.coherent_recordAfter {registry : FormRegistry} {form : FormId}
    {r : Option FormRecord} {a : Action} {r' : FormRecord} (hr : ∀ r₀, r = some r₀ → r₀.Coherent)
    (h : recordAfter registry form r a = some r') : r'.Coherent := by
  obtain ⟨r₀, rfl, hr₀⟩ := exists_turn h
  have hcoherent : r₀.Coherent := by
    rcases hr₀ with hr₀ | ⟨_, config, _, rfl⟩
    · exact hr r₀ hr₀
    · exact FormRecord.coherent_fresh config
  exact hcoherent.apply (fits_turn registry form r₀.state.phase a)

namespace Stores

/-- The stores before anything has happened. -/
def fresh (specs : Dict CollectionSpec) (registry : FormRegistry) : Stores :=
  { collections := { specs := specs }, registry := registry }

theorem registry_after (s : Stores) (as : List Action) : (s.after as).registry = s.registry := by
  induction as using List.reverseRecOn with
  | nil => rfl
  | append_singleton as a ih =>
      rw [after_snoc]
      exact ih

theorem get?_forms_after_snoc (s : Stores) (as : List Action) (a : Action) (form : FormId) :
    (s.after (as ++ [a])).forms.get? form =
      FormStore.recordAfter s.registry form ((s.after as).forms.get? form) a := by
  rw [after_snoc, get?_forms_next, registry_after]

/-- All records show what their phase says. -/
theorem coherent_after (specs : Dict CollectionSpec) (registry : FormRegistry)
    (as : List Action) {form : FormId} {r : FormRecord}
    (h : ((fresh specs registry).after as).forms.get? form = some r) : r.Coherent := by
  induction as using List.reverseRecOn generalizing r with
  | nil => exact absurd h (by simp [after_eq_foldl, fresh, FormStore.get?])
  | append_singleton as a ih =>
      rw [get?_forms_after_snoc] at h
      exact FormStore.coherent_recordAfter (fun _ => ih) h

end Stores

/-! ## From one phase to another -/

/-- How an action takes a form that has a record from phase `p` to phase `p'`. -/
structure FormPhase.Progress (registry : FormRegistry) (form : FormId) (a : Action)
    (p p' : FormPhase) : Prop where
  /-- It begins to wait just when it is submitted. -/
  begins : p = .ready → (p' = .waiting ↔ a.submits registry form)
  /-- It is completed just when its submission has worked. -/
  completes : p = .waiting → (p' = .complete ↔ a.succeeds form)
  /-- It is ready again just when a request for it has failed or it is started over. -/
  returns : p = .waiting → (p' = .ready ↔ a.fails form ∨ a.restarts registry form)
  /-- It stays complete until it is started over. -/
  reopens : p = .complete → (p' ≠ .complete ↔ a.restarts registry form)
  /-- It is not completed without having waited. -/
  notCompleted : p = .ready → p' ≠ .complete
  /-- It does not wait again without having been ready. -/
  notResumed : p = .complete → p' ≠ .waiting

namespace FormStore

/-- A form that is ready is submitted just when its call can be made. -/
theorem turn_eq_submit_iff {registry : FormRegistry} {form : FormId} {a : Action} :
    turn registry form .ready a = .submit ↔ a.submits registry form := by
  constructor
  · intro h
    obtain ⟨_, formType, params, config, context, rfl, _, hcontext⟩ := turn_eq_submit h
    simp [Action.submits, hcontext, Except.toOption]
  · intro h
    cases a with
    | formSubmit form' formType params =>
        simp only [Action.submits, Bool.and_eq_true, decide_eq_true_eq] at h
        obtain ⟨rfl, hcontext⟩ := h
        cases hconfig : registry formType with
        | none => simp [FormRegistry.requestContext, hconfig, Except.toOption] at hcontext
        | some config =>
            cases hcall : registry.requestContext formType params form with
            | error e => simp [hcall, Except.toOption] at hcontext
            | ok context => simp [turn, hconfig, hcall]
    | _ => exact absurd h (by simp [Action.submits])

/-- **A form goes from phase to phase as its life has it.** -/
theorem progress_turn (registry : FormRegistry) (form : FormId) (p : FormPhase) (a : Action) :
    FormPhase.Progress registry form a p ((turn registry form p a).phase p) where
  begins hp := by
    subst hp
    rw [← turn_eq_submit_iff]
    exact ⟨fun h => Turn.eq_submit_of_phase h (by decide), fun h => by rw [h]; rfl⟩
  completes hp := by
    subst hp
    cases a <;> grind [turn, Turn.phase, Action.succeeds]
  returns hp := by
    subst hp
    cases a <;> grind [turn, Turn.phase, Action.fails, Action.restarts]
  reopens hp := by
    subst hp
    cases a <;> grind [turn, Turn.phase, Action.restarts]
  notCompleted hp := by
    subst hp
    cases a <;> grind [turn, Turn.phase]
  notResumed hp := by
    subst hp
    cases a <;> grind [turn, Turn.phase]

end FormStore

namespace Stores

/--
**Every form goes through its life in order.**

After any actions, the record of a form shows what its phase says; whatever
action comes next, the record stays, and goes on from there to the phase that
comes next in its life, if to any.
-/
theorem form_life (specs : Dict CollectionSpec) (registry : FormRegistry) (as : List Action)
    {form : FormId} {r : FormRecord}
    (h : ((fresh specs registry).after as).forms.get? form = some r) :
    r.Coherent ∧ ∀ a, ∃ r',
      ((fresh specs registry).after (as ++ [a])).forms.get? form = some r' ∧
        FormPhase.Progress registry form a r.state.phase r'.state.phase := by
  refine ⟨coherent_after specs registry as h, fun a => ?_⟩
  refine ⟨(FormStore.turn registry form r.state.phase a).apply r, ?_, ?_⟩
  · rw [get?_forms_after_snoc, h]
    exact FormStore.recordAfter_some registry form r a
  · rw [FormStore.Turn.phase_apply]
    exact FormStore.progress_turn registry form r.state.phase a

/-- A new collection is submitted under the form `f`. -/
def collectionSubmitted : Action := .formSubmit "f" .earnerCollectionCreate ∅

/-- It has been created. -/
def collectionCreated : Action :=
  .apiFormResultSuccess "f"
    { actionUrl := "/v1/earner/collections", collection := "earner_collections" }
    .null ⟨.success, "New collection created."⟩

/-- A form that has been submitted waits in silence, and its result completes it. -/
theorem form_life_submitted :
    ∃ r r',
      ((fresh CollectionSpec.builtin .builtin).after
        [collectionSubmitted]).forms.get? "f" = some r ∧
      r.Coherent ∧ r.state.phase = .waiting ∧
      ((fresh CollectionSpec.builtin .builtin).after
        ([collectionSubmitted] ++ [collectionCreated])).forms.get? "f" = some r' ∧
      r'.state.phase = .complete := by
  obtain ⟨hcoherent, hnext⟩ :=
    @form_life CollectionSpec.builtin .builtin [collectionSubmitted] "f" _ rfl
  obtain ⟨r', hr', hprogress⟩ := hnext collectionCreated
  exact ⟨_, r', rfl, hcoherent, rfl, hr', (hprogress.completes rfl).mpr rfl⟩

end Stores

end OpenBadges
