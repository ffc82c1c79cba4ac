import OpenBadges.Proofs.FormLife

/-!
# What a form holds

The values of a form are a matter of its history. An edit counts if the form was
ready when it came, and as long as the form has not been started over since; the
values are those that the form started with, and over them all edits that count, in
the order in which they came.

So the edits of a run are collected from the run alone (`Stores.edits`), by looking at
each action, at the phase of the form when it came, and at what came after it. One
more action adds at most one edit, or takes them all away (`edits_snoc`), and it does
just the same to the values (`values_turn`).
-/

namespace OpenBadges

namespace Action

/-- The edit that an action makes of the form when the form is in a phase. -/
def edit? (registry : FormRegistry) (form : FormId) (p : FormPhase) : Action → Option FormValues
  | .formDataPatched form' formType update =>
    if form = form' ∧ (registry formType).isSome ∧ p = .ready then some update else none
  | _ => none

end Action

/-! ## One action -/

namespace FormStore

/-- No turn changes the defaults. -/
theorem Turn.defaults_apply (r : FormRecord) (t : Turn) : (t.apply r).defaults = r.defaults := by
  cases t <;> rfl

/-- **An action changes the values by its edit, or puts the defaults back.** -/
theorem values_turn (registry : FormRegistry) (form : FormId) (r : FormRecord) (a : Action) :
    ((turn registry form r.state.phase a).apply r).state.values =
      if a.restarts registry form then r.defaults
      else (a.edit? registry form r.state.phase).toList.foldl Dict.overlay r.state.values := by
  cases a with
  | formDataPatched form' formType update =>
      rw [turn, Action.edit?]
      split <;> rfl
  | formSubmit form' formType params =>
      rw [turn]
      split
      · cases registry.requestContext formType params form <;> rfl
      · rfl
  | formReset form' formType =>
      rw [turn]
      split
      · rename_i hform
        simp [Action.restarts, hform, Turn.apply, FormRecord.restarted]
      · rename_i hnot
        rw [Action.restarts, if_neg (by simpa using hnot)]
        rfl
  | apiFormResultSuccess form' context result m =>
      rw [turn]
      split <;> rfl
  | apiFormResultFailure form' m =>
      rw [turn]
      split <;> rfl
  | apiSubmitDataDidFail context failure =>
      rw [turn]
      split
      · split <;> rfl
      · rfl
  | _ => rfl

end FormStore

/-! ## A run -/

namespace Stores

/--
The edit that an action at some place of a run from `s` has made of a form, if it counts:
the form was ready when it came, and has not been started over since.
-/
def editAt? (s : Stores) (form : FormId) (as : List Action) (place : Nat) : Option FormValues :=
  if (as.drop place).any (·.restarts s.registry form) then none
  else as[place]?.bind (·.edit? s.registry form ((s.after (as.take place)).phase form))

/-- The edits of a form that count at the end of a run, in the order in which they came. -/
def edits (s : Stores) (form : FormId) (as : List Action) : List FormValues :=
  (List.range as.length).filterMap (s.editAt? form as)

/-- An edit goes on counting unless the next action is a restart. -/
theorem editAt?_snoc (s : Stores) (form : FormId) {as : List Action} (a : Action) {place : Nat}
    (h : place < as.length) :
    s.editAt? form (as ++ [a]) place =
      if a.restarts s.registry form then none else s.editAt? form as place := by
  rw [editAt?, editAt?, List.drop_append_of_le_length (Nat.le_of_lt h),
    List.take_append_of_le_length (Nat.le_of_lt h), List.getElem?_append_left h]
  cases ha : a.restarts s.registry form <;> simp [ha]

theorem editAt?_last (s : Stores) (form : FormId) (as : List Action) (a : Action) :
    s.editAt? form (as ++ [a]) as.length =
      if a.restarts s.registry form then none
      else a.edit? s.registry form ((s.after as).phase form) := by
  rw [editAt?, List.drop_left, List.take_left, List.getElem?_concat_length]
  cases ha : a.restarts s.registry form <;> simp [ha]

/-- **One more action takes all edits away, or adds its own.** -/
theorem edits_snoc (s : Stores) (form : FormId) (as : List Action) (a : Action) :
    s.edits form (as ++ [a]) =
      if a.restarts s.registry form then []
      else s.edits form as ++ (a.edit? s.registry form ((s.after as).phase form)).toList := by
  have hold : (List.range as.length).filterMap (s.editAt? form (as ++ [a])) =
      if a.restarts s.registry form then [] else s.edits form as := by
    rw [List.filterMap_congr fun i hi => s.editAt?_snoc form a (List.mem_range.mp hi)]
    split
    · exact List.filterMap_eq_nil_iff.mpr fun _ _ => rfl
    · rfl
  have hlast : [as.length].filterMap (s.editAt? form (as ++ [a])) =
      (s.editAt? form (as ++ [a]) as.length).toList := by
    cases h : s.editAt? form (as ++ [a]) as.length <;> simp [h]
  rw [edits, List.length_append, List.length_singleton, List.range_succ, List.filterMap_append,
    hold, hlast, editAt?_last]
  split <;> rfl

/-! ## The values of a form -/

theorem after_append (s : Stores) (as bs : List Action) :
    s.after (as ++ bs) = (s.after as).after bs := by
  rw [after_eq_foldl, after_eq_foldl, after_eq_foldl, List.foldl_append]

theorem phase_of_get? {s : Stores} {form : FormId} {r : FormRecord}
    (h : s.forms.get? form = some r) : s.phase form = r.state.phase := by
  rw [phase, h]
  rfl

/-- Values that are the defaults with all edits over them are so after one more action. -/
theorem values_snoc {s : Stores} {form : FormId} {as : List Action} {a : Action}
    {r r' : FormRecord} (hphase : (s.after as).phase form = r.state.phase)
    (hvalues : r.state.values = (s.edits form as).foldl Dict.overlay r.defaults)
    (h : r' = (FormStore.turn s.registry form r.state.phase a).apply r) :
    r'.state.values = (s.edits form (as ++ [a])).foldl Dict.overlay r'.defaults := by
  subst h
  rw [FormStore.values_turn, FormStore.Turn.defaults_apply, edits_snoc, hphase]
  split
  · rfl
  · rw [List.foldl_append, ← hvalues]

/--
How a form has come to hold what its record `r` holds, in a run from `s`: the action
`a` made the record, with the defaults of its form type, which have stayed, and over
them lie the edits that count, from that action on.
-/
structure Made (s : Stores) (form : FormId) (r : FormRecord) (before : List Action) (a : Action)
    (after : List Action) : Prop where
  /-- There was no record before. -/
  absent : (s.after before).forms.get? form = none
  /-- Then there was one. -/
  present : ((s.after (before ++ [a])).forms.get? form).isSome
  defaults : ∃ config, FormStore.opens? s.registry form a = some config ∧
    r.defaults = config.defaults
  values : r.state.values =
    ((s.after before).edits form (a :: after)).foldl Dict.overlay r.defaults

/-- A field has the value of the last edit that sets it, or else its default. -/
theorem Made.value {s : Stores} {form : FormId} {r : FormRecord} {before after : List Action}
    {a : Action} (h : s.Made form r before a after) (field : String) :
    r.state.values.get? field =
      (((s.after before).edits form (a :: after)).reverse.findSome? (·.get? field)).or
        (r.defaults.get? field) := by
  rw [h.values, Dict.get?_foldl_overlay]

/-- Every record has been made by some action of the run. -/
theorem exists_made (specs : Dict CollectionSpec) (registry : FormRegistry)
    (as : List Action) {form : FormId} {r : FormRecord}
    (h : ((fresh specs registry).after as).forms.get? form = some r) :
    ∃ before a after, as = before ++ a :: after ∧
      (fresh specs registry).Made form r before a after := by
  induction as using List.reverseRecOn generalizing r with
  | nil => exact absurd h (by simp [after_eq_foldl, fresh, FormStore.get?])
  | append_singleton as a ih =>
      obtain ⟨r₀, hr, hr₀ | ⟨hr₀, config, hconfig, rfl⟩⟩ :=
        FormStore.exists_turn ((get?_forms_after_snoc _ as a form).symm.trans h)
      · obtain ⟨before, a₀, after, rfl, hmade⟩ := ih hr₀
        obtain ⟨config, hconfig, hdefaults⟩ := hmade.defaults
        have hphase := phase_of_get? hr₀
        rw [after_append] at hphase
        refine ⟨before, a₀, after ++ [a], List.append_assoc .., hmade.absent, hmade.present,
          ⟨config, hconfig, ?_⟩, ?_⟩
        · rw [hr, FormStore.Turn.defaults_apply, hdefaults]
        · rw [← registry_after _ before] at hr
          exact values_snoc hphase hmade.values hr
      · -- the action makes the record, and it is the first whose edit counts
        have hphase : ((fresh specs registry).after as).phase form = .ready := by
          rw [phase, hr₀]
          rfl
        refine ⟨as, a, [], rfl, hr₀, h ▸ rfl, ⟨config, hconfig, ?_⟩, ?_⟩
        · rw [hr, FormStore.Turn.defaults_apply]
          rfl
        · rw [← registry_after _ as] at hr
          exact @values_snoc ((fresh specs registry).after as) form [] a (.fresh config) r hphase
            rfl hr

/-- An action that neither edits a form nor starts it over leaves its values alone. -/
theorem values_kept (registry : FormRegistry) {form : FormId} (r : FormRecord) {a : Action}
    (hedit : ∀ formType update, a ≠ .formDataPatched form formType update)
    (hreset : ∀ formType, a ≠ .formReset form formType) :
    ((FormStore.turn registry form r.state.phase a).apply r).state.values = r.state.values := by
  have hnot : a.restarts registry form = false := by
    cases a <;> grind [Action.restarts]
  have hnone : a.edit? registry form r.state.phase = none := by
    cases a <;> grind [Action.edit?]
  rw [FormStore.values_turn, hnot, hnone]
  rfl

/--
**A form holds its defaults and the edits that were accepted, and nothing gets lost.**

Whatever has happened, the values of a form are those it was made with and over them
the edits that came when it was ready, since it was made or last started over. No
other action changes them, be it a submission, what came of one, or anything about
another form.
-/
theorem values_eq_edits (specs : Dict CollectionSpec) (registry : FormRegistry)
    (as : List Action) {form : FormId} {r : FormRecord}
    (h : ((fresh specs registry).after as).forms.get? form = some r) :
    (∃ before a after, as = before ++ a :: after ∧
      (fresh specs registry).Made form r before a after) ∧
    ∀ a, ∃ r', ((fresh specs registry).after (as ++ [a])).forms.get? form = some r' ∧
      r'.defaults = r.defaults ∧
      ((∀ formType update, a ≠ .formDataPatched form formType update) →
        (∀ formType, a ≠ .formReset form formType) → r'.state.values = r.state.values) := by
  refine ⟨exists_made specs registry as h, fun a => ?_⟩
  refine ⟨(FormStore.turn registry form r.state.phase a).apply r, ?_,
    FormStore.Turn.defaults_apply r _, values_kept registry r⟩
  rw [get?_forms_after_snoc, h]
  exact FormStore.recordAfter_some registry form r a

/-- A form is named, submitted, named again too late, refused, and described. -/
def refusedOnce : List Action := [
  .formDataPatched "f" .earnerCollectionCreate (.ofList [("name", .text "Mine")]),
  .formSubmit "f" .earnerCollectionCreate ∅,
  .formDataPatched "f" .earnerCollectionCreate (.ofList [("name", .text "Yours")]),
  .apiFormResultFailure "f" ⟨.danger, "Error submitting form: no connection"⟩,
  .formDataPatched "f" .earnerCollectionCreate (.ofList [("description", .text "All")])]

/-- It keeps its first name. -/
theorem values_eq_edits_refusedOnce :
    ∃ r, ((fresh CollectionSpec.builtin .builtin).after refusedOnce).forms.get? "f" = some r ∧
      r.state.values = .ofList [("name", .text "Mine"), ("description", .text "All")] ∧
      (∃ before a after, refusedOnce = before ++ a :: after ∧
        (fresh CollectionSpec.builtin .builtin).Made "f" r before a after) ∧
      ∃ r', ((fresh CollectionSpec.builtin .builtin).after
        (refusedOnce ++ [.formSubmit "f" .earnerCollectionCreate ∅])).forms.get? "f" = some r' ∧
        r'.state.values = r.state.values := by
  obtain ⟨hmade, hkept⟩ :=
    @values_eq_edits CollectionSpec.builtin .builtin refusedOnce "f" _ rfl
  obtain ⟨r', hr', _, hvalues⟩ := hkept (.formSubmit "f" .earnerCollectionCreate ∅)
  exact ⟨_, rfl, by decide, hmade, r', hr', hvalues (by simp) (by simp)⟩

end Stores

end OpenBadges
