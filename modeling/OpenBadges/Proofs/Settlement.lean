import OpenBadges.Proofs.Answers
import OpenBadges.Proofs.Course
import OpenBadges.Proofs.Pending

/-!
# Which submission settles a form

What comes of a submission says for which form it is, and nothing else. A form
that waits takes the first answer that comes. Since a form can be started over
while it waits, and then submitted again, and since no request is ever withdrawn,
this need not be the answer to the submission that it waits for.

`Standing` is what holds in any case: a form that waits has the submission under
way that made it wait. It is bound to be settled by that one exactly when no other
submission of the form is under way (`settledByOwn_iff`), and this is so as long
as nothing but the answer to a submission has ended its waiting (`single_run`),
which is to say that the form has not been started over meanwhile
(`recalls_cases`).
-/

namespace OpenBadges

/-! ## How a form begins to wait, and goes on to -/

/-- A form that waits does not hear of what is done to it, unless it is to start over. -/
theorem FormStore.recordAfter_of_waiting {registry : FormRegistry} {form : FormId} {r : FormRecord}
    {a : Action} (hw : r.state.phase = .waiting) (ha : a.isAnswer = false)
    (hnot : ∀ formType, a ≠ .formReset form formType) :
    recordAfter registry form (some r) a = some r := by
  have hkeep : turn registry form .waiting a = .keep := by
    cases a <;> grind [turn, Action.isAnswer]
  rw [recordAfter_some, hw, hkeep]
  rfl

namespace Stores

/-- The action submits the form, and that can be done. -/
def Accepts (s : Stores) (form : FormId) (a : Action) : Prop :=
  FormStore.Accepts s.registry s.forms form a

theorem phase_eq_waiting {s : Stores} {form : FormId} :
    s.phase form = .waiting ↔
      ∃ r, s.forms.get? form = some r ∧ r.state.phase = .waiting := by
  rw [phase]
  cases s.forms.get? form <;> simp

/-- A form is ready when its submission is accepted, and waits after that. -/
theorem phase_of_accepts {s : Stores} {form : FormId} {a : Action} (h : s.Accepts form a) :
    s.phase form = .ready ∧ (s.next a).phase form = .waiting := by
  obtain ⟨formType, params, config, context, rfl, hconfig, hcontext, hready⟩ := h
  constructor
  · rw [phase]
    cases hr : s.forms.get? form with
    | none => rfl
    | some r => simpa [hr] using hready
  · have hrecord := (FormStore.handle_formSubmit hconfig hcontext hready).2
    exact phase_eq_waiting.mpr ⟨_, hrecord, FormRecord.phase_submitted _⟩

/-- **Only a submission that is accepted makes a form wait.** -/
theorem waiting_next {s : Stores} {form : FormId} {a : Action}
    (h : (s.next a).phase form = .waiting) : s.phase form = .waiting ∨ s.Accepts form a := by
  obtain ⟨r, hr, hw⟩ := phase_eq_waiting.mp h
  have hrec := (FormStore.get?_handle s.registry s.forms a form).symm.trans hr
  rcases FormStore.waiting_recordAfter hrec hw with hold | haccepts
  · exact .inl (phase_eq_waiting.mpr hold)
  · exact .inr haccepts

theorem not_accepts_of_waiting {s : Stores} {form : FormId} {a : Action}
    (hw : s.phase form = .waiting) : ¬s.Accepts form a := by
  intro h
  rw [(phase_of_accepts h).1] at hw
  exact absurd hw (by decide)

/-! ## What is posted -/

/-- Nothing is posted but a submission that has just been accepted. -/
theorem accepts_of_posted {s : Stores} {a : Action} {p : Submission}
    (h : Effect.postForm p ∈ (s.outcomeOf a .collections).effects) : s.Accepts p.form a := by
  rw [outcomeOf] at h
  cases a with
  | formSubmit form formType params =>
      rw [CollectionStore.handle] at h
      split at h
      · rename_i p' hsubmission
        obtain rfl := Effect.postForm.inj (List.mem_singleton.mp h)
        -- the collections post only what the forms have remembered in the same dispatch
        have haccepted : (s.next (.formSubmit form formType params)).forms.acceptedSubmit =
            some form ∧ form = p.form := by
          simp only [CollectionStore.submission?, Option.bind_eq_bind, Option.bind_eq_some_iff,
            Option.pure_def, Option.some.injEq] at hsubmission
          obtain ⟨_, hguard, _, _, _, _, _, _, rfl⟩ := hsubmission
          exact ⟨by simpa [guard] using hguard, rfl⟩
        rw [← haccepted.2]
        exact FormStore.acceptedSubmit_handle.mp haccepted.1
      · exact absurd h List.not_mem_nil
  | apiGetData context =>
      rw [CollectionStore.handle] at h
      split at h
      · exact absurd h List.not_mem_nil
      · exact absurd (List.mem_singleton.mp h) (by simp)
  | apiFetchCollections keys =>
      obtain ⟨context, hget⟩ := CollectionStore.getData_of_mem_fetchCollections keys h
      exact absurd hget (by simp)
  | apiSubmitData data context => exact absurd (List.mem_singleton.mp h) (by simp)
  | apiFormResultSuccess form context result m =>
      rw [CollectionStore.effects_of_isAnswer rfl] at h
      exact absurd h List.not_mem_nil
  | apiSubmitDataDidSucceed context body =>
      rw [CollectionStore.effects_of_isAnswer rfl] at h
      exact absurd h List.not_mem_nil
  | _ => exact absurd h List.not_mem_nil

end Stores

/-- The record of a form that waits, when a submission of it has come back. -/
def Submission.settled (p : Submission) (r : FormRecord) :
    Except RequestFailure Json → FormRecord
  | .ok result => r.completed result ⟨.success, p.successMessage⟩
  | .error failure => r.refused (failure.message "submitting form")

namespace Submission

@[simp] theorem phase_settled (p : Submission) (r : FormRecord)
    (result : Except RequestFailure Json) : (p.settled r result).state.phase ≠ .waiting := by
  cases result <;> simp [settled]

/-- What comes of a submission settles its form, if that waits, and no other. -/
theorem get?_forms_answer (p : Submission) (s : Stores) (form : FormId)
    (result : Except RequestFailure Json) :
    (s.next ((Effect.postForm p).answer result)).forms.get? form =
      (s.forms.get? form).map fun r =>
        if form = p.form ∧ r.state.phase = .waiting then p.settled r result else r := by
  have h := FormStore.get?_handle s.registry s.forms ((Effect.postForm p).answer result) form
  refine h.trans ?_
  cases result <;> rfl

theorem waiting_answer_iff (p : Submission) {s : Stores} {form : FormId}
    (hw : s.phase form = .waiting) (result : Except RequestFailure Json) :
    (s.next ((Effect.postForm p).answer result)).phase form = .waiting ↔ p.form ≠ form := by
  obtain ⟨r, hr, hwaiting⟩ := Stores.phase_eq_waiting.mp hw
  rw [Stores.phase, get?_forms_answer, hr]
  by_cases hform : form = p.form
  · simp [hform, hwaiting]
  · simp [hform, hwaiting, Ne.symm hform]

end Submission

theorem Effect.submits?_eq_some {e : Effect} {form : FormId} :
    e.submits? = some form ↔ ∃ p, e = .postForm p ∧ p.form = form := by
  cases e <;> simp [submits?]

namespace Course

/-! ## The submissions under way -/

/-- A form waits for an answer. -/
def Waits (c : Course) (form : FormId) : Prop := c.stores.phase form = .waiting

instance (c : Course) (form : FormId) : Decidable (c.Waits form) :=
  inferInstanceAs (Decidable (_ = _))

/-- The numbers of the submissions of a form that are under way, first the oldest. -/
def posts (c : Course) (form : FormId) : List Nat :=
  (c.errands.filter (·.effect.submits? = some form)).map (·.asked)

theorem mem_posts {c : Course} {form : FormId} {t : Nat} :
    t ∈ c.posts form ↔ ∃ e ∈ c.errands, e.effect.submits? = some form ∧ e.asked = t := by
  simp [posts, and_assoc]

/-- A dispatch adds the submission that it accepts. -/
theorem posts_dispatch (c : Course) (a : Action) (form : FormId) :
    (c.stores.Accepts form a ∧ (c.dispatch a).posts form = c.posts form ++ [c.clock]) ∨
      ¬c.stores.Accepts form a ∧ (c.dispatch a).posts form = c.posts form := by
  by_cases haccepts : c.stores.Accepts form a
  · refine .inl ⟨haccepts, ?_⟩
    obtain ⟨formType, params, config, context, rfl, hconfig, hcontext, hready⟩ := haccepts
    rw [posts, errands_dispatch, Underway.postForm_of_accepted hconfig hcontext hready]
    simp [posts, Effect.submits?]
  · refine .inr ⟨haccepts, ?_⟩
    -- whatever else is asked for does not submit the form
    have hnone : ((c.stores.outcomeOf a .collections).effects.map (Errand.mk · c.clock)).filter
        (·.effect.submits? = some form) = [] := by
      rw [List.filter_eq_nil_iff]
      intro e he hsubmits
      obtain ⟨effect, heffect, rfl⟩ := List.mem_map.mp he
      obtain ⟨p, rfl, rfl⟩ := Effect.submits?_eq_some.mp (of_decide_eq_true hsubmits)
      exact haccepts (Stores.accepts_of_posted heffect)
    rw [posts, errands_dispatch, List.filter_append, hnone, List.append_nil, posts]

theorem posts_without_sublist (c : Course) (place : Nat) (form : FormId) :
    ((c.without place).posts form).Sublist (c.posts form) :=
  ((List.eraseIdx_sublist _ _).filter _).map _

/-- What comes back is not under way any more; other submissions still are. -/
theorem posts_without {c : Course} {place : Nat} {e : Errand} (h : c.errands[place]? = some e)
    (form : FormId) :
    ∃ before after, (c.without place).posts form = before ++ after ∧
      c.posts form =
        before ++ (if e.effect.submits? = some form then [e.asked] else []) ++ after := by
  obtain ⟨before, after, heq, hrest⟩ := errands_without h
  refine ⟨(before.filter (·.effect.submits? = some form)).map (·.asked),
    (after.filter (·.effect.submits? = some form)).map (·.asked), ?_, ?_⟩
  · rw [posts, hrest, List.filter_append, List.map_append]
  · rw [posts, heq]
    by_cases hsubmits : e.effect.submits? = some form <;> simp [hsubmits]

/-! ## A form that waits -/

/-- What holds of a form in any case. -/
structure Standing (form : FormId) (c : Course) : Prop where
  /-- Later submissions have larger numbers, and all numbers are in the past. -/
  ordered : (c.posts form ++ [c.clock]).Pairwise (· < ·)
  /-- If the form waits, the submission that made it wait is under way. -/
  current : c.Waits form → ∃ t ∈ c.posts form, c.begun form = some t

theorem standing_start (specs : Dict CollectionSpec) (registry : FormRegistry) (form : FormId) :
    (start specs registry).Standing form where
  ordered := List.pairwise_singleton _ _
  current := fun h => absurd h (by simp [Waits, Stores.phase, start, FormStore.get?])

/-- A dispatch needs the submission of a form only if the form goes on waiting. -/
theorem standing_dispatch {c : Course} {form : FormId} {a : Action}
    (hordered : (c.posts form ++ [c.clock]).Pairwise (· < ·))
    (hcurrent : c.Waits form → (c.dispatch a).Waits form →
      ∃ t ∈ c.posts form, c.begun form = some t) :
    (c.dispatch a).Standing form where
  ordered := by
    have hclock : (c.dispatch a).clock = c.clock + 1 := rfl
    obtain ⟨_, _, hpast⟩ := List.pairwise_append.mp hordered
    -- whether or not this dispatch posts anything, all numbers are among these
    have hlong : (c.posts form ++ [c.clock] ++ [c.clock + 1]).Pairwise (· < ·) := by
      refine List.pairwise_append.mpr ⟨hordered, List.pairwise_singleton _ _, ?_⟩
      intro t ht n hn
      obtain rfl := List.mem_singleton.mp hn
      rcases List.mem_append.mp ht with ht | ht
      · exact Nat.lt_succ_of_lt (hpast t ht c.clock List.mem_cons_self)
      · rw [List.mem_singleton.mp ht]
        exact Nat.lt_succ_self _
    rw [hclock]
    rcases posts_dispatch c a form with ⟨_, hadded⟩ | ⟨_, hsame⟩
    · rw [hadded]
      exact hlong
    · rw [hsame]
      exact hlong.sublist ((List.sublist_append_left _ _).append (List.Sublist.refl _))
  current := by
    intro hw
    have hbegun : (c.dispatch a).begun form =
        if c.stores.phase form = .ready ∧ (c.dispatch a).stores.phase form = .waiting
          then some c.clock else c.begun form := rfl
    rcases posts_dispatch c a form with ⟨haccepts, hadded⟩ | ⟨hnot, hsame⟩
    · -- the form has just begun to wait
      have hready := (Stores.phase_of_accepts haccepts).1
      rw [hadded, hbegun, if_pos ⟨hready, hw⟩]
      exact ⟨c.clock, List.mem_append_right _ List.mem_cons_self, rfl⟩
    · have hbefore : c.Waits form := by
        have hw' := hw
        rw [Waits, stores_dispatch] at hw'
        exact (Stores.waiting_next hw').resolve_right hnot
      have hnotReady : c.stores.phase form ≠ .ready := by
        rw [hbefore]
        decide
      rw [hsame, hbegun, if_neg fun h => hnotReady h.1]
      exact hcurrent hbefore hw

/-- What comes back of a submission ends the waiting of its form. -/
theorem waits_answer_iff {c : Course} {place : Nat} {e : Errand} {form form' : FormId}
    (he : c.errands[place]? = some e) (hsubmits : e.effect.submits? = some form')
    (result : Except RequestFailure Json) (hw : c.Waits form) :
    (c.move (.answer place result)).Waits form ↔ form' ≠ form := by
  obtain ⟨p, hp, rfl⟩ := Effect.submits?_eq_some.mp hsubmits
  rw [Waits, move_answer he, stores_dispatch, hp]
  exact p.waiting_answer_iff hw result

theorem standing_move {c : Course} {form : FormId} (h : c.Standing form) (m : Move) :
    (c.move m).Standing form := by
  cases m with
  | act a => exact standing_dispatch h.ordered fun hw _ => h.current hw
  | answer place result =>
      cases he : c.errands[place]? with
      | none =>
          rw [move, he]
          exact h
      | some e =>
          have hsub := posts_without_sublist c place form
          rw [move_answer he]
          refine standing_dispatch (h.ordered.sublist (hsub.append (List.Sublist.refl _))) ?_
          intro hw hstill
          -- so what has come back is not a submission of this form
          have hother : e.effect.submits? ≠ some form := by
            intro hsubmits
            have hends := waits_answer_iff he hsubmits result hw
            rw [move_answer he] at hends
            exact hends.mp hstill rfl
          obtain ⟨before, after, hrest, hposts⟩ := posts_without he form
          rw [if_neg hother, List.append_nil] at hposts
          rw [hrest, ← hposts]
          exact h.current hw

theorem standing_run (specs : Dict CollectionSpec) (registry : FormRegistry) (form : FormId)
    (ms : List Move) : ((start specs registry).run ms).Standing form :=
  run_induction (standing_start specs registry form) fun _ m _ h => standing_move h m

/-! ## Settling a form -/

/-- A submission comes back, and the form does not wait any longer. -/
structure Settles (c : Course) (form : FormId) (place : Nat)
    (result : Except RequestFailure Json) (e : Errand) : Prop where
  /-- It is this one. -/
  found : c.errands[place]? = some e
  submission : e.effect.submits?.isSome
  /-- The form waits, -/
  before : c.Waits form
  /-- until then. -/
  after : ¬(c.move (.answer place result)).Waits form

/-- Whichever submission settles the form is the one that made it wait. -/
def SettledByOwn (c : Course) (form : FormId) : Prop :=
  ∀ place result e, c.Settles form place result e → c.begun form = some e.asked

theorem submits_of_settles {c : Course} {form : FormId} {place : Nat}
    {result : Except RequestFailure Json} {e : Errand} (h : c.Settles form place result e) :
    e.effect.submits? = some form := by
  obtain ⟨form', hsubmits⟩ := Option.isSome_iff_exists.mp h.submission
  rw [hsubmits]
  by_contra hne
  exact h.after ((waits_answer_iff h.found hsubmits result h.before).mpr fun heq => hne (heq ▸ rfl))

/-- **A form is bound to be settled by its own submission just if no other is under way.** -/
theorem settledByOwn_iff {c : Course} {form : FormId} (h : c.Standing form) :
    c.SettledByOwn form ↔ (c.Waits form → (c.posts form).length ≤ 1) := by
  constructor
  · intro hown hw
    have hbegun : ∀ t ∈ c.posts form, c.begun form = some t := by
      intro t ht
      obtain ⟨e, he, hsubmits, rfl⟩ := mem_posts.mp ht
      obtain ⟨place, hplace⟩ := List.mem_iff_getElem?.mp he
      -- any result will do
      refine hown place (.ok .null) e ⟨hplace, by rw [hsubmits]; rfl, hw, fun hstill => ?_⟩
      exact (waits_answer_iff hplace hsubmits _ hw).mp hstill rfl
    have hordered := (List.pairwise_append.mp h.ordered).1
    -- and two of them cannot both have made it wait
    match hposts : c.posts form with
    | [] => exact Nat.zero_le _
    | [t] => exact Nat.le_refl _
    | t :: u :: rest =>
        rw [hposts] at hbegun hordered
        have hlt : t < u := (List.pairwise_cons.mp hordered).1 u List.mem_cons_self
        have heq : some t = some u := (hbegun t (by simp)).symm.trans (hbegun u (by simp))
        exact absurd (Option.some.inj heq) (Nat.ne_of_lt hlt)
  · intro hone place result e hsettles
    obtain ⟨t, ht, hbegun⟩ := h.current hsettles.before
    have hasked : e.asked ∈ c.posts form :=
      mem_posts.mpr ⟨e, List.mem_of_getElem? hsettles.found, submits_of_settles hsettles, rfl⟩
    -- the one that made it wait and the one that settles it are both the only one
    obtain ⟨u, hu⟩ := List.length_eq_one_iff.mp
      (Nat.le_antisymm (hone hsettles.before) (List.length_pos_of_mem ht))
    rw [hu, List.mem_singleton] at ht hasked
    rw [hbegun, ht, hasked]

/-! ## Forms that are not started over while they wait -/

/-- A form waits no longer, and not because a submission comes back. -/
def Recalls (c : Course) (form : FormId) (m : Move) : Prop :=
  c.Waits form ∧ ¬(c.move m).Waits form ∧
    ∀ place result e, m = .answer place result → c.errands[place]? = some e →
      e.effect.submits? = none

theorem waits_move_of_get? {c : Course} {form : FormId} {m : Move} (hw : c.Waits form)
    (h : (c.move m).stores.forms.get? form = c.stores.forms.get? form) :
    (c.move m).Waits form := by
  rw [Waits, Stores.phase, h]
  exact hw

/-- **Nothing else ends the waiting but starting over with the form, and data sent in its name that
does not arrive.** -/
theorem recalls_cases {c : Course} {form : FormId} {m : Move} (h : c.Recalls form m) :
    (∃ a formType, m = .act a ∧ a.1 = .formReset form formType) ∨
      ∃ place e data context failure, m = .answer place (.error failure) ∧
        c.errands[place]? = some e ∧ e.effect = .requestData data context ∧
        context.formId = some form := by
  obtain ⟨hw, hends, hnot⟩ := h
  obtain ⟨r, hr, hwaiting⟩ := Stores.phase_eq_waiting.mp hw
  cases m with
  | act a =>
      refine .inl ⟨a, ?_⟩
      by_contra hother
      refine hends (waits_move_of_get? hw ?_)
      rw [move, stores_dispatch, Stores.get?_forms_next, hr]
      refine FormStore.recordAfter_of_waiting hwaiting a.2 fun formType hreset => ?_
      exact hother ⟨formType, rfl, hreset⟩
  | answer place result =>
      refine .inr ?_
      cases he : c.errands[place]? with
      | none => exact absurd (waits_move_of_get? hw (by rw [move, he])) hends
      | some e =>
          have hmove : (c.move (.answer place result)).stores.forms.get? form =
              FormStore.recordAfter c.stores.registry form (some r) (e.effect.answer result) := by
            rw [move_answer he, stores_dispatch, Stores.get?_forms_next, ← hr]
            rfl
          -- the record is as it was, unless the errand was sent in the name of the form
          have hsame : FormStore.recordAfter c.stores.registry form (some r)
              (e.effect.answer result) ≠ some r :=
            fun hsame => hends (waits_move_of_get? hw (hmove.trans (hsame.trans hr.symm)))
          cases heffect : e.effect with
          | getData context =>
              rw [heffect] at hsame
              cases result <;> exact absurd rfl hsame
          | postForm p =>
              have hsubmits := hnot place result e rfl he
              rw [heffect] at hsubmits
              exact absurd hsubmits (by simp [Effect.submits?])
          | requestData data context =>
              rw [heffect] at hsame
              cases result with
              | ok body => exact absurd rfl hsame
              | error failure =>
                  refine ⟨place, e, data, context, failure, rfl, he, heffect, ?_⟩
                  by_contra hname
                  exact hsame (by simp [Effect.answer, FormStore.recordAfter, hname])

/-- No more than one submission is under way, and only while the form waits. -/
structure Single (form : FormId) (c : Course) : Prop where
  one : (c.posts form).length ≤ 1
  waits : c.posts form ≠ [] → c.Waits form

theorem single_start (specs : Dict CollectionSpec) (registry : FormRegistry) (form : FormId) :
    (start specs registry).Single form where
  one := Nat.zero_le _
  waits := fun h => absurd rfl h

theorem single_act {c : Course} {form : FormId} (h : c.Single form) {a : Intent}
    (hnot : ¬c.Recalls form (.act a)) : (c.move (.act a)).Single form := by
  have hkeeps : c.Waits form → (c.dispatch a).Waits form := by
    intro hw
    by_contra hends
    exact hnot ⟨hw, hends, fun _ _ _ heq => absurd heq (by simp)⟩
  rw [move]
  rcases posts_dispatch c a form with ⟨haccepts, hadded⟩ | ⟨_, hsame⟩
  · -- a form that is ready has nothing under way yet
    obtain ⟨hready, hw⟩ := Stores.phase_of_accepts haccepts
    have hnone : c.posts form = [] := by
      by_contra hsome
      exact Stores.not_accepts_of_waiting (h.waits hsome) haccepts
    refine ⟨by rw [hadded, hnone]; exact Nat.le_refl _, fun _ => ?_⟩
    rw [Waits, stores_dispatch]
    exact hw
  · refine ⟨hsame ▸ h.one, fun hsome => hkeeps (h.waits ?_)⟩
    rwa [hsame] at hsome

theorem single_answer {c : Course} {form : FormId} (h : c.Single form) {place : Nat} {e : Errand}
    (he : c.errands[place]? = some e) {result : Except RequestFailure Json}
    (hnot : ¬c.Recalls form (.answer place result)) :
    (c.move (.answer place result)).Single form := by
  obtain ⟨before, after, hrest, hposts⟩ := posts_without he form
  have hmove : (c.move (.answer place result)).posts form = before ++ after := by
    rw [move_answer he, posts, errands_dispatch_answer _ (Effect.isAnswer_answer ..)]
    exact hrest
  by_cases hsubmits : e.effect.submits? = some form
  · -- this was the one submission, and now there is none
    have hone := h.one
    rw [hposts, if_pos hsubmits] at hone
    have hnone : before ++ after = [] := by
      rw [List.length_append, List.length_append, List.length_singleton] at hone
      refine List.eq_nil_of_length_eq_zero ?_
      rw [List.length_append]
      omega
    rw [hnone] at hmove
    exact ⟨by rw [hmove]; exact Nat.zero_le _, fun hsome => absurd hmove hsome⟩
  · rw [if_neg hsubmits, List.append_nil] at hposts
    rw [← hposts] at hmove
    refine ⟨hmove ▸ h.one, fun hsome => ?_⟩
    have hw := h.waits (hmove ▸ hsome)
    by_contra hends
    refine hnot ⟨hw, hends, fun place' result' e' heq he' => ?_⟩
    obtain ⟨rfl, rfl⟩ := Move.answer.inj heq
    obtain rfl := Option.some.inj (he.symm.trans he')
    -- a submission of another form would not have ended the waiting
    cases hother : e.effect.submits? with
    | none => rfl
    | some form' =>
        refine absurd ((waits_answer_iff he hother result hw).mpr fun heq => ?_) hends
        exact hsubmits (heq ▸ hother)

theorem single_move {c : Course} {form : FormId} (h : c.Single form) {m : Move}
    (hnot : ¬c.Recalls form m) : (c.move m).Single form := by
  cases m with
  | act a => exact single_act h hnot
  | answer place result =>
      cases he : c.errands[place]? with
      | some e => exact single_answer h he hnot
      | none =>
          rw [move, he]
          exact h

theorem single_run {specs : Dict CollectionSpec} {registry : FormRegistry} {form : FormId}
    {ms : List Move}
    (h : ∀ ns m, ns ++ [m] <+: ms → ¬((start specs registry).run ns).Recalls form m) :
    ((start specs registry).run ms).Single form :=
  run_induction (single_start specs registry form) fun ns m hpre hns => single_move hns (h ns m hpre)

/--
**When a form is settled by its own submission.**

What ends the waiting of a form is the answer to a submission of this very form,
and that is what the form shows; and the submission that made the form wait has
not come back before. It is that one whatever happens, exactly when no other
submission of the form is under way; and so it is as long as nothing has ended the
waiting of the form but a submission that came back.
-/
theorem settles_run (specs : Dict CollectionSpec) (registry : FormRegistry) (ms : List Move)
    (form : FormId) :
    let c := (start specs registry).run ms
    (∀ place result e, c.Settles form place result e →
      ∃ p r, e.effect = .postForm p ∧ p.form = form ∧ c.stores.forms.get? form = some r ∧
        (c.move (.answer place result)).stores.forms.get? form = some (p.settled r result) ∧
        ∃ t ∈ c.posts form, c.begun form = some t) ∧
    (c.SettledByOwn form ↔ (c.Waits form → (c.posts form).length ≤ 1)) ∧
    ((∀ ns m, ns ++ [m] <+: ms → ¬((start specs registry).run ns).Recalls form m) →
      c.SettledByOwn form) := by
  intro c
  have hstanding : c.Standing form := standing_run specs registry form ms
  refine ⟨fun place result e hsettles => ?_, settledByOwn_iff hstanding, fun hfree => ?_⟩
  · obtain ⟨p, hp, hform⟩ := Effect.submits?_eq_some.mp (submits_of_settles hsettles)
    obtain ⟨r, hr, hwaiting⟩ := Stores.phase_eq_waiting.mp hsettles.before
    refine ⟨p, r, hp, hform, hr, ?_, hstanding.current hsettles.before⟩
    rw [move_answer hsettles.found, stores_dispatch, hp, Submission.get?_forms_answer]
    have hr' : (c.without place).stores.forms.get? form = some r := hr
    rw [hr', Option.map_some, if_pos ⟨hform.symm, hwaiting⟩]
  · exact (settledByOwn_iff hstanding).mpr fun _ => (single_run hfree).one

/-- A form is submitted, started over while it waits, and submitted again. -/
def startedOver : List Move := [
  .act ⟨.formSubmit "f" .earnerCollectionCreate ∅, rfl⟩,
  .act ⟨.formReset "f" .earnerCollectionCreate, rfl⟩,
  .act ⟨.formSubmit "f" .earnerCollectionCreate ∅, rfl⟩]

/-- It may then be settled by the submission that has been given up. -/
theorem settled_by_earlier :
    ¬((start CollectionSpec.builtin .builtin).run startedOver).SettledByOwn "f" := by
  intro h
  have hfirst := h 0 (.error (.transport "no connection")) _ ⟨rfl, rfl, rfl, by decide⟩
  exact absurd hfirst (by decide)

end Course

end OpenBadges
