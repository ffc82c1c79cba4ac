import Mathlib.Data.List.Pairwise
import OpenBadges.Proofs.Contents
import OpenBadges.Proofs.FormRecords
import OpenBadges.Proofs.StoreOrder

/-!
# Answers may come in any order

Requests are answered in whatever order the server pleases. An answer looks at and
changes only the collection and the forms that it names, so answers that name
different ones can change places, and the stores come to the same in the end. What
tells the orders apart is the failure to show, since there is room for one only
and every answer that brings bad news writes over the one before.

That two answers can change places is said for each collection and each form
alone: one of the two does not name it, and so might as well not be there.
-/

namespace OpenBadges

namespace Action

/-- The collection that an answer names. -/
def collectionNames : Action → List String
  | .apiFormResultSuccess _ context _ _ | .apiGetDataDidLoad context _
  | .apiGetDataDidFail context _ | .apiSubmitDataDidSucceed context _
  | .apiSubmitDataDidFail context _ => [context.collection]
  | _ => []

/-- The forms that an answer names, itself or in the call that it answers. -/
def formNames : Action → List FormId
  | .apiFormResultSuccess form context _ _ => form :: context.formId.toList
  | .apiFormResultFailure form _ => [form]
  | .apiGetDataDidLoad context _ | .apiGetDataDidFail context _
  | .apiSubmitDataDidSucceed context _ | .apiSubmitDataDidFail context _ => context.formId.toList
  | _ => []

/-- Two answers that have neither a collection nor a form in common. -/
structure Independent (a b : Action) : Prop where
  /-- They name different collections. -/
  collections : ∀ key ∈ a.collectionNames, key ∉ b.collectionNames
  /-- They name different forms. -/
  forms : ∀ form ∈ a.formNames, form ∉ b.formNames

instance (a b : Action) : Decidable (a.Independent b) :=
  decidable_of_iff ((∀ key ∈ a.collectionNames, key ∉ b.collectionNames) ∧
      ∀ form ∈ a.formNames, form ∉ b.formNames)
    ⟨fun h => ⟨h.1, h.2⟩, fun h => ⟨h.collections, h.forms⟩⟩

end Action

/-! ## What an answer leaves alone -/

theorem CollectionStore.rewritten?_of_not_named {a : Action} {field key : String}
    {items : List Item} (ha : a.isAnswer = true) (h : key ∉ a.collectionNames) :
    rewritten? field key items a = none := by
  cases a with
  | apiFormResultSuccess form context result m =>
      rw [rewritten?, if_neg (List.ne_of_not_mem_cons h)]
  | apiGetDataDidLoad context body => rw [rewritten?, if_neg (List.ne_of_not_mem_cons h)]
  | apiSubmitDataDidSucceed context body => rw [rewritten?, if_neg (List.ne_of_not_mem_cons h)]
  | appWillMount bootstrap => exact absurd ha (by simp [Action.isAnswer])
  | _ => rfl

theorem FormStore.recordAfter_of_not_named {registry : FormRegistry} {a : Action} {form : FormId}
    {r : Option FormRecord} (ha : a.isAnswer = true) (h : form ∉ a.formNames) :
    recordAfter registry form r a = r := by
  cases a with
  | apiFormResultSuccess form' context result m =>
      have hne : form ≠ form' := List.ne_of_not_mem_cons h
      simp [recordAfter, hne]
  | apiFormResultFailure form' m =>
      have hne : form ≠ form' := List.ne_of_not_mem_cons h
      simp [recordAfter, hne]
  | apiSubmitDataDidFail context failure =>
      have hne : context.formId ≠ some form := fun heq => h (by simp [Action.formNames, heq])
      simp [recordAfter, hne]
  | apiGetDataDidLoad context body => rfl
  | apiGetDataDidFail context failure => rfl
  | apiSubmitDataDidSucceed context body => rfl
  | _ => exact absurd ha (by simp [Action.isAnswer])

/-- No submission is accepted by an answer. -/
theorem FormStore.acceptedSubmit_of_isAnswer {registry : FormRegistry} {s : FormStore} {a : Action}
    (ha : a.isAnswer = true) : (s.handle registry a).1.acceptedSubmit = none := by
  refine Option.eq_none_iff_forall_ne_some.mpr fun form h => ?_
  obtain ⟨_, _, _, _, rfl, _⟩ := acceptedSubmit_handle.mp h
  exact absurd ha (by simp [Action.isAnswer])

theorem CollectionStore.handle_of_isAnswer {registry : FormRegistry} {forms : FormStore}
    {s : CollectionStore} {a : Action} (ha : a.isAnswer = true) :
    (s.handle registry forms a).1 = { s with
      data := (s.handle registry forms a).1.data
      fetching := (s.handle registry forms a).1.fetching
      lastFailure := (s.handle registry forms a).1.lastFailure } := by
  cases a with
  | apiFormResultSuccess form context result m =>
      rw [handle, onFormResult_frame]
  | apiSubmitDataDidSucceed context body =>
      rw [handle, onDataSent_frame]
  | apiFormResultFailure form m => rfl
  | apiGetDataDidLoad context body => rfl
  | apiGetDataDidFail context failure => rfl
  | apiSubmitDataDidFail context failure => rfl
  | _ => exact absurd ha (by simp [Action.isAnswer])

namespace Stores

/-- The stores with other contents in all that answers write to. -/
def overwrite (s : Stores) (data : Dict (List Item)) (fetching : NameSet)
    (records : Dict FormRecord) (failure : Option Message) : Stores :=
  { s with
    collections := { s.collections with
      data := data, fetching := fetching, lastFailure := failure }
    forms := { records := records } }

/-- The stores with another failure to show. -/
def withFailure (s : Stores) (m : Option Message) : Stores :=
  { s with collections := { s.collections with lastFailure := m } }

/-- An answer writes to nothing else. -/
theorem next_of_isAnswer {a : Action} (ha : a.isAnswer = true) (s : Stores) :
    s.next a = s.overwrite (s.next a).collections.data (s.next a).collections.fetching
      (s.next a).forms.records (s.next a).collections.lastFailure := by
  -- the stores behind the screen do not hear of answers
  have hviews : s.next a = { s with
      forms := (s.next a).forms, collections := (s.next a).collections } := by
    cases a with
    | apiFormResultSuccess form context result m => rfl
    | apiFormResultFailure form m => rfl
    | apiGetDataDidLoad context body => rfl
    | apiGetDataDidFail context failure => rfl
    | apiSubmitDataDidSucceed context body => rfl
    | apiSubmitDataDidFail context failure => rfl
    | _ => exact absurd ha (by simp [Action.isAnswer])
  have hforms : (s.next a).forms = { records := (s.next a).forms.records } := by
    have h : (s.next a).forms.acceptedSubmit = none := FormStore.acceptedSubmit_of_isAnswer ha
    rw [← h]
  have hcollections : (s.next a).collections = { s.collections with
      data := (s.next a).collections.data
      fetching := (s.next a).collections.fetching
      lastFailure := (s.next a).collections.lastFailure } :=
    CollectionStore.handle_of_isAnswer ha
  refine hviews.trans ?_
  rw [overwrite, ← hforms, ← hcollections]

/-! ## What an answer makes of each collection and each form -/

theorem get?_data_next (s : Stores) (a : Action) (key : String) :
    (s.next a).collections.data.get? key =
      (CollectionStore.rewritten? (s.collections.identifyingField key) key
        (s.collections.items key) a).or (s.collections.data.get? key) :=
  CollectionStore.get?_handle ..

theorem isFetching_next {a : Action} (ha : a.isAnswer = true) (s : Stores) (key : String) :
    (s.next a).collections.isFetching key = true ↔
      s.collections.isFetching key = true ∧ CollectionStore.fetchEnded? a ≠ some key := by
  refine CollectionStore.isFetching_handle_iff.trans ?_
  rw [CollectionStore.effects_of_isAnswer ha]
  simp

theorem get?_forms_next (s : Stores) (a : Action) (form : FormId) :
    (s.next a).forms.get? form =
      FormStore.recordAfter s.registry form (s.forms.get? form) a :=
  FormStore.get?_handle ..

/-- Stores that answers have written to are the same, but for the failure to show, if each
collection and each form is. -/
theorem overwrite_congr (s : Stores) {data data' : Dict (List Item)} {fetching fetching' : NameSet}
    {records records' : Dict FormRecord} {failure failure' : Option Message}
    (hdata : ∀ key, data.get? key = data'.get? key)
    (hfetching : ∀ key, fetching.contains key = true ↔ fetching'.contains key = true)
    (hrecords : ∀ form, records.get? form = records'.get? form) :
    (s.overwrite data fetching records failure).withFailure none =
      (s.overwrite data' fetching' records' failure').withFailure none := by
  obtain rfl : data = data' := Dict.ext hdata
  obtain rfl : records = records' := Dict.ext hrecords
  obtain rfl : fetching = fetching' := by
    refine Dict.ext fun key => ?_
    have hsome : (fetching.get? key).isSome = (fetching'.get? key).isSome :=
      Bool.eq_iff_iff.mpr (hfetching key)
    -- there is but one thing to find in a set of names
    cases hold : fetching.get? key <;> cases hnew : fetching'.get? key <;> simp_all
  rfl

/-- The failure to show has no part in what an answer does. -/
theorem next_withFailure {a : Action} (ha : a.isAnswer = true) (s : Stores) (m : Option Message) :
    ((s.withFailure m).next a).withFailure none = (s.next a).withFailure none := by
  rw [next_of_isAnswer ha s, next_of_isAnswer ha (s.withFailure m)]
  refine overwrite_congr s (fun key => ?_) (fun key => ?_) (fun form => rfl)
  · rw [get?_data_next, get?_data_next]
    rfl
  · exact (isFetching_next ha _ key).trans (isFetching_next ha s key).symm

/-! ## Two answers -/

/-- The items of a collection that one of two answers does not name. -/
theorem get?_data_next_next {b : Action} {key : String} (hb : b.isAnswer = true)
    (h : key ∉ b.collectionNames) (s : Stores) (a : Action) :
    ((s.next a).next b).collections.data.get? key =
      ((s.next b).next a).collections.data.get? key := by
  -- early or late, this answer may as well not be there
  have hskip : ∀ t : Stores, (t.next b).collections.data.get? key = t.collections.data.get? key := by
    intro t
    rw [get?_data_next, CollectionStore.rewritten?_of_not_named hb h, Option.none_or]
  have hitems : (s.next b).collections.items key = s.collections.items key := by
    rw [CollectionStore.items, hskip]
    rfl
  have hfield : (s.next b).collections.identifyingField key = s.collections.identifyingField key :=
    congrArg (·.collections.identifyingField key) (next_of_isAnswer hb s)
  rw [hskip, get?_data_next, get?_data_next, hskip, hitems, hfield]

/-- The record of a form that one of two answers does not name. -/
theorem get?_records_next_next {b : Action} {form : FormId} (hb : b.isAnswer = true)
    (h : form ∉ b.formNames) (s : Stores) (a : Action) :
    ((s.next a).next b).forms.get? form = ((s.next b).next a).forms.get? form := by
  have hskip : ∀ t : Stores, (t.next b).forms.get? form = t.forms.get? form := by
    intro t
    rw [get?_forms_next, FormStore.recordAfter_of_not_named hb h]
  rw [hskip, get?_forms_next, get?_forms_next, hskip]
  rfl

theorem next_next_of_isAnswer {a b : Action} (ha : a.isAnswer = true) (hb : b.isAnswer = true)
    (s : Stores) :
    (s.next a).next b = s.overwrite ((s.next a).next b).collections.data
      ((s.next a).next b).collections.fetching ((s.next a).next b).forms.records
      ((s.next a).next b).collections.lastFailure :=
  calc (s.next a).next b
    _ = (s.next a).overwrite _ _ _ _ := next_of_isAnswer hb (s.next a)
    _ = (s.overwrite _ _ _ _).overwrite _ _ _ _ :=
        congrArg (overwrite · _ _ _ _) (next_of_isAnswer ha s)

/-- **Two answers that have nothing in common can change places.** -/
theorem next_next_comm {a b : Action} (ha : a.isAnswer = true) (hb : b.isAnswer = true)
    (h : a.Independent b) (s : Stores) :
    ((s.next a).next b).withFailure none = ((s.next b).next a).withFailure none := by
  rw [next_next_of_isAnswer ha hb s, next_next_of_isAnswer hb ha s]
  refine overwrite_congr s (fun key => ?_) (fun key => ?_) (fun form => ?_)
  · -- the collection is not named by both
    by_cases hkey : key ∈ a.collectionNames
    · exact get?_data_next_next hb (h.collections key hkey) s a
    · exact (get?_data_next_next ha hkey s b).symm
  · have hab := (isFetching_next hb (s.next a) key).trans (and_congr_left' (isFetching_next ha s key))
    have hba := (isFetching_next ha (s.next b) key).trans (and_congr_left' (isFetching_next hb s key))
    exact hab.trans (and_right_comm.trans hba.symm)
  · by_cases hform : form ∈ a.formNames
    · exact get?_records_next_next hb (h.forms form hform) s a
    · exact (get?_records_next_next ha hform s b).symm

/-! ## Any number of answers -/

/-- The stores after an action, with no failure to show. -/
def quiet (s : Stores) (a : Action) : Stores := (s.next a).withFailure none

theorem withFailure_foldl {as : List Action} (h : ∀ a ∈ as, a.isAnswer = true) : ∀ s : Stores,
    (as.foldl next s).withFailure none = as.foldl quiet (s.withFailure none) := by
  induction as with
  | nil => intro s; rfl
  | cons a as ih =>
    intro s
    have hfirst : quiet (s.withFailure none) a = (s.next a).withFailure none :=
      next_withFailure (h a List.mem_cons_self) s none
    rw [List.foldl_cons, List.foldl_cons, hfirst]
    exact ih (fun b hb => h b (List.mem_cons_of_mem a hb)) (s.next a)

/-- Two of several answers that have nothing in common can change places; so can an answer with
itself. -/
theorem quiet_comm {as : List Action} (hanswers : ∀ a ∈ as, a.isAnswer = true)
    (hind : as.Pairwise Action.Independent) :
    ∀ a ∈ as, ∀ b ∈ as, ∀ s : Stores, (s.quiet a).quiet b = (s.quiet b).quiet a := by
  have hsymm : Std.Symm fun a b : Action =>
      ∀ s : Stores, (s.quiet a).quiet b = (s.quiet b).quiet a := ⟨fun _ _ h s => (h s).symm⟩
  -- the failure to show is taken out between the two answers, which makes no difference
  have hpair : as.Pairwise fun a b => ∀ s : Stores, (s.quiet a).quiet b = (s.quiet b).quiet a := by
    refine hind.imp_of_mem fun {a b} ha hb h s => ?_
    have ha' := hanswers a ha
    have hb' := hanswers b hb
    calc (s.quiet a).quiet b
      _ = ((s.next a).next b).withFailure none := next_withFailure hb' (s.next a) none
      _ = ((s.next b).next a).withFailure none := next_next_comm ha' hb' h s
      _ = (s.quiet b).quiet a := (next_withFailure ha' (s.next b) none).symm
  intro a ha b hb
  exact hpair.forall_of_forall (fun _ _ _ => rfl) ha hb

/--
**Answers that have nothing in common may come in any order.**

Whatever the stores hold, and in whatever order the answers come: all collections,
what is being fetched, what has been requested and all forms are the same in the
end, and so is everything else but the failure to show.
-/
theorem after_perm {as bs : List Action} (hperm : as.Perm bs)
    (hanswers : ∀ a ∈ as, a.isAnswer = true) (hind : as.Pairwise Action.Independent) (s : Stores) :
    (s.after as).withFailure none = (s.after bs).withFailure none := by
  have hanswers' : ∀ b ∈ bs, b.isAnswer = true := fun b hb => hanswers b (hperm.mem_iff.mpr hb)
  rw [after_eq_foldl, after_eq_foldl, withFailure_foldl hanswers, withFailure_foldl hanswers']
  exact hperm.foldl_eq' (fun a ha b hb t => quiet_comm hanswers hind a ha b hb t) _

/-- A form has been submitted, and two collections are being fetched. -/
def asking : Stores :=
  ({} : Stores).after [
    .formSubmit "f" .earnerCollectionCreate ∅,
    .apiFetchCollections ["earner_badges", "issuer_issuers"]]

/-- All that is asked for there is answered, and some data that was sent did not arrive. -/
def answers : List Action := [
  .apiGetDataDidLoad (.get "/v1/earner/badges" "earner_badges") (.arr [.ofFields [("id", .int 1)]]),
  .apiFormResultSuccess "f" (.get "/v1/earner/collections" "earner_collections")
    (.ofFields [("slug", .str "s")]) ⟨.success, "New collection created."⟩,
  .apiGetDataDidFail (.get "/v1/issuer/issuers" "issuer_issuers") (.transport "no connection"),
  .apiSubmitDataDidFail { actionUrl := "/v1/x", collection := "x", formId := some "g" }
    (.status 500 "no")]

/-- The last answer may as well come first; but it is then no more the one that shows. -/
theorem after_perm_answers :
    answers.Perm answers.reverse ∧ (∀ a ∈ answers, a.isAnswer = true) ∧
      answers.Pairwise Action.Independent ∧
      (asking.after answers).withFailure none = (asking.after answers.reverse).withFailure none ∧
      (asking.after answers).collections.lastFailure ≠
        (asking.after answers.reverse).collections.lastFailure := by
  have hperm : answers.Perm answers.reverse := (List.reverse_perm answers).symm
  have hanswers : ∀ a ∈ answers, a.isAnswer = true := by decide
  have hind : answers.Pairwise Action.Independent := by decide
  exact ⟨hperm, hanswers, hind, after_perm hperm hanswers hind asking, by decide⟩

end Stores

end OpenBadges
