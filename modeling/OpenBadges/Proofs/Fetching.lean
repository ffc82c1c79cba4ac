import OpenBadges.Proofs.Answers
import OpenBadges.Proofs.Course

/-!
# What is on the way, and what is known of it

A note is kept of every collection that is being fetched, and while it is there
the whole collection is not asked for again. It is one note for the collection,
however many requests into it are on the way: an action may ask for any path, and
does not look at the note. The first of them to be answered takes the note away,
and the others are still on their way then.

This is all that can go wrong. As long as no answer overtakes another request
into the same collection, what is on the way is known (`covered_move`); and as
long as it is known, no whole collection is asked for that is on the way already.
-/

namespace OpenBadges

/-! ## Asking for whole collections -/

namespace CollectionStore

/-- The call that fetches a collection names that collection. -/
def FetchesOwn (s : CollectionStore) : Prop :=
  ∀ key context, (s.specs.get? key).bind (·.fetch) = some context → context.collection = key

theorem fetchesOwn_builtin {s : CollectionStore} (h : s.specs = CollectionSpec.builtin) :
    s.FetchesOwn := by
  -- there are but five of them
  have hall : ∀ e ∈ CollectionSpec.builtin.toList, ∀ context ∈ e.2.fetch,
      context.collection = e.1 := by decide
  intro key context hfetch
  rw [h] at hfetch
  obtain ⟨spec, hspec, hcontext⟩ := Option.bind_eq_some_iff.mp hfetch
  exact hall (key, spec) (Entries.mem_of_find?_eq_some hspec) context hcontext

theorem specs_handle (registry : FormRegistry) (forms : FormStore) (s : CollectionStore)
    (a : Action) : (s.handle registry forms a).1.specs = s.specs := by
  cases a with
  | appWillMount bootstrap =>
      rw [handle, loadAll_frame]
  | formSubmit form formType params =>
      rw [handle]
      split <;> rfl
  | apiGetData context =>
      rw [handle]
      split <;> rfl
  | apiFetchCollections keys =>
      have hframe := congrArg (·.specs) (s.fetchCollections_frame keys)
      exact hframe
  | apiFormResultSuccess form context result m =>
      rw [handle, onFormResult_frame]
  | apiSubmitDataDidSucceed context body =>
      rw [handle, onDataSent_frame]
  | _ => rfl

/-- **Whole collections are asked for once each, and none of those that are being fetched.** -/
theorem fetches_fetchCollections (keys : List String) : ∀ {s : CollectionStore}, s.FetchesOwn →
    let asked := (s.fetchCollections keys).1.filterMap Effect.fetches?
    asked.Nodup ∧ ∀ key ∈ asked, s.isFetching key = false := by
  induction keys with
  | nil => intro s _; exact ⟨List.nodup_nil, fun key h => absurd h List.not_mem_nil⟩
  | cons key keys ih =>
    intro s hown
    rw [fetchCollections]
    split
    · exact ih hown
    · rename_i context hcontext
      obtain rfl := hown key context hcontext
      split
      · exact ih hown
      · rename_i hidle
        -- what the rest asks for is not being fetched even with the note just made
        have hown' : (s.getData context).2.FetchesOwn := hown
        obtain ⟨hnodup, hfree⟩ := ih hown'
        have hrest : ∀ key ∈ ((s.getData context).2.fetchCollections keys).1.filterMap
            Effect.fetches?, key ≠ context.collection ∧ s.isFetching key = false := by
          intro key hkey
          have h := hfree key hkey
          rw [isFetching_getData, Bool.or_eq_false_iff, decide_eq_false_iff_not] at h
          exact h
        refine ⟨List.nodup_cons.mpr ⟨fun hmem => (hrest _ hmem).1 rfl, hnodup⟩, ?_⟩
        intro key hkey
        rcases List.mem_cons.mp hkey with rfl | hkey
        · exact Bool.eq_false_iff.mpr hidle
        · exact (hrest key hkey).2

/-- What ends the fetching of a collection is the answer to a request for it. -/
theorem fetchEnded_answer (e : Effect) (result : Except RequestFailure Json) :
    fetchEnded? (e.answer result) = e.fetches? := by
  cases e <;> cases result <;> rfl

theorem fetchEnded_of_not_isAnswer {a : Action} (h : a.isAnswer = false) :
    fetchEnded? a = none := by
  cases a with
  | apiGetDataDidLoad context body => exact absurd h (by simp [Action.isAnswer])
  | apiGetDataDidFail context failure => exact absurd h (by simp [Action.isAnswer])
  | _ => rfl

end CollectionStore

theorem Effect.fetches?_eq_some {e : Effect} {key : String} :
    e.fetches? = some key ↔ ∃ c, e = .getData c ∧ c.collection = key := by
  cases e <;> simp [fetches?]

namespace Course

/-! ## What is on the way -/

/-- The collections of the requests under way. -/
def onTheWay (c : Course) : List String := c.errands.filterMap (·.effect.fetches?)

/-- What is on the way is known to be. -/
def Covered (c : Course) : Prop :=
  ∀ key ∈ c.onTheWay, c.stores.collections.isFetching key = true

/-- A request is answered while another into its collection is on the way. -/
def Overtakes (c : Course) : Move → Prop
  | .act _ => False
  | .answer place _ => ∃ e key, c.errands[place]? = some e ∧ e.effect.fetches? = some key ∧
      key ∈ (c.without place).onTheWay

/-- The collections that would be asked for if these were wanted as a whole. -/
def asked (c : Course) (keys : List String) : List String :=
  let r := (Dispatcher.mk c.stores StoreWiring.application).dispatch (.apiFetchCollections keys)
  r.2.effects.filterMap Effect.fetches?

/-- Whichever are wanted, none would be asked for that is on the way, and none twice. -/
def FetchesOnce (c : Course) : Prop :=
  ∀ keys, (c.asked keys).Nodup ∧ ∀ key ∈ c.asked keys, key ∉ c.onTheWay

theorem onTheWay_without_subset (c : Course) (place : Nat) :
    (c.without place).onTheWay ⊆ c.onTheWay :=
  ((List.eraseIdx_sublist _ _).filterMap _).subset

/-! ## One move -/

theorem covered_act {c : Course} (h : c.Covered) (a : Intent) : (c.dispatch a).Covered := by
  intro key hkey
  have hnot : CollectionStore.fetchEnded? a.1 ≠ some key := by
    rw [CollectionStore.fetchEnded_of_not_isAnswer a.2]
    simp
  rw [stores_dispatch]
  refine CollectionStore.isFetching_handle_iff.mpr ?_
  rw [onTheWay, errands_dispatch, List.filterMap_append, List.mem_append] at hkey
  rcases hkey with hold | hnew
  · exact .inl ⟨h key hold, hnot⟩
  · -- a note is made of what the action asks for
    obtain ⟨e, he, hfetches⟩ := List.mem_filterMap.mp hnew
    obtain ⟨effect, heffect, rfl⟩ := List.mem_map.mp he
    obtain ⟨context, rfl, hcollection⟩ := Effect.fetches?_eq_some.mp hfetches
    exact .inr ⟨context, heffect, hcollection⟩

/-- **An answer leaves all that is on the way known just if it overtakes none of it.** -/
theorem covered_answer {c : Course} (h : c.Covered) {place : Nat} {e : Errand}
    (he : c.errands[place]? = some e) (result : Except RequestFailure Json) :
    (c.move (.answer place result)).Covered ↔ ¬c.Overtakes (.answer place result) := by
  have hanswer := Effect.isAnswer_answer e.effect result
  -- an answer asks for nothing, so only the others are left
  have hway : (c.move (.answer place result)).onTheWay = (c.without place).onTheWay := by
    rw [onTheWay, move_answer he, errands_dispatch_answer _ hanswer, onTheWay]
  have hnote : ∀ key ∈ (c.without place).onTheWay,
      (c.move (.answer place result)).stores.collections.isFetching key = true ↔
        e.effect.fetches? ≠ some key := by
    intro key hkey
    rw [move_answer he, stores_dispatch, Stores.isFetching_next hanswer,
      CollectionStore.fetchEnded_answer]
    exact and_iff_right (h key (onTheWay_without_subset c place hkey))
  constructor
  · rintro hcovered ⟨e', key, he', hfetches, hkey⟩
    obtain rfl := Option.some.inj (he.symm.trans he')
    exact (hnote key hkey).mp (hcovered key (hway ▸ hkey)) hfetches
  · intro hfree key hkey
    rw [hway] at hkey
    exact (hnote key hkey).mpr fun hfetches => hfree ⟨e, key, he, hfetches, hkey⟩

/-- **What is on the way stays known just if nothing overtakes it.** -/
theorem covered_move {c : Course} (h : c.Covered) (m : Move) :
    (c.move m).Covered ↔ ¬c.Overtakes m := by
  cases m with
  | act a => exact iff_of_true (covered_act h a) id
  | answer place result =>
      cases he : c.errands[place]? with
      | some e => exact covered_answer h he result
      | none =>
          rw [move, he]
          refine iff_of_true h ?_
          rintro ⟨e, _, he', _⟩
          exact absurd (he.symm.trans he') (by simp)

/-- As long as all that is on the way is known, none of it is asked for again. -/
theorem fetchesOnce_of_covered {c : Course} (h : c.Covered)
    (hown : c.stores.collections.FetchesOwn) : c.FetchesOnce := by
  intro keys
  have hasked : c.asked keys =
      (c.stores.collections.fetchCollections keys).1.filterMap Effect.fetches? := by
    rw [asked, Stores.effects_dispatch]
    rfl
  obtain ⟨hnodup, hfree⟩ := CollectionStore.fetches_fetchCollections keys hown
  rw [hasked]
  refine ⟨hnodup, fun key hkey hway => ?_⟩
  exact absurd ((h key hway).symm.trans (hfree key hkey)) (by simp)

/-! ## Whole runs -/

theorem covered_start (specs : Dict CollectionSpec) (registry : FormRegistry) :
    (start specs registry).Covered :=
  fun _ h => absurd h List.not_mem_nil

theorem specs_move (c : Course) (m : Move) :
    (c.move m).stores.collections.specs = c.stores.collections.specs := by
  have hdispatch : ∀ (d : Course) (a : Action),
      (d.dispatch a).stores.collections.specs = d.stores.collections.specs := by
    intro d a
    rw [stores_dispatch]
    exact CollectionStore.specs_handle ..
  cases m with
  | act a => exact hdispatch c a
  | answer place result =>
      rw [move]
      split
      · exact hdispatch (c.without place) _
      · rfl

theorem specs_run (specs : Dict CollectionSpec) (registry : FormRegistry) (ms : List Move) :
    ((start specs registry).run ms).stores.collections.specs = specs :=
  run_induction (P := fun c => c.stores.collections.specs = specs) rfl
    fun _ m _ h => (specs_move _ m).trans h

/--
**What is on the way is known exactly as long as no answer overtakes another request.**

As long as it is known, whole collections are not asked for while they are on the
way. Forms may be configured in any way, and anything may happen in between.
-/
theorem covered_iff_not_overtakes (registry : FormRegistry) (ms : List Move) :
    let c := start CollectionSpec.builtin registry
    ((∀ ns, ns <+: ms → (c.run ns).Covered) ↔
      ∀ ns m, ns ++ [m] <+: ms → ¬(c.run ns).Overtakes m) ∧
    ((c.run ms).Covered → (c.run ms).FetchesOnce) := by
  intro c
  refine ⟨⟨fun hcovered ns m hpre => ?_, fun hfree ns hns => ?_⟩, fun hcovered => ?_⟩
  · have hbefore := hcovered ns ((List.prefix_append ns [m]).trans hpre)
    have hafter := hcovered (ns ++ [m]) hpre
    rw [run_snoc] at hafter
    exact (covered_move hbefore m).mp hafter
  · refine run_induction (covered_start _ registry) fun ns' m hpre hbefore => ?_
    exact (covered_move hbefore m).mpr (hfree ns' m (hpre.trans hns))
  · refine fetchesOnce_of_covered hcovered (CollectionStore.fetchesOwn_builtin ?_)
    exact specs_run CollectionSpec.builtin registry ms

/-- Two badges are asked for, and the first of them arrives. -/
def oneOfTwo : List Move := [
  .act ⟨.apiGetData (.get "/v1/earner/badges/1" "earner_badges"), rfl⟩,
  .act ⟨.apiGetData (.get "/v1/earner/badges/2" "earner_badges"), rfl⟩,
  .answer 0 (.ok (.ofFields [("id", .int 1)]))]

/-- The second is then on the way without a note, and all badges can be asked for beside it. -/
theorem second_not_covered :
    ¬((start CollectionSpec.builtin .builtin).run oneOfTwo).Covered ∧
      ¬((start CollectionSpec.builtin .builtin).run oneOfTwo).FetchesOnce := by
  have hway : "earner_badges" ∈ ((start CollectionSpec.builtin .builtin).run oneOfTwo).onTheWay :=
    List.mem_singleton_self _
  refine ⟨fun h => ?_, fun h => ?_⟩
  · exact absurd (h "earner_badges" hway) (by decide)
  · exact (h ["earner_badges"]).2 "earner_badges" (List.mem_singleton_self _) hway

end Course

end OpenBadges
