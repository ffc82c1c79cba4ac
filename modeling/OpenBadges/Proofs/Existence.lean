import Mathlib.Data.List.Induction
import OpenBadges.Proofs.Contents
import OpenBadges.Proofs.FormLife

/-!
# Which collections exist

A collection that exists is taken for one that has been fetched, and views ask no more
for it. But a collection comes to exist with the first items that are written to it,
whoever brings them. An answer to a request for data brings what the server keeps
(`Action.brings`), and so does the first content of the page; the result of a submission
brings the one item of a form (`Action.files`). Nothing else brings an item to a
collection that does not exist, and nothing ever makes a collection go away.

So a collection that exists has been fetched as long as no form has filed an item in a
collection that has not: `hasAll_iff_brought_or_filed` says so for all runs, and
`hasAll_of_filed` is a run in which a form has.
-/

namespace OpenBadges

namespace Action

/-- Whether an action brings what the server keeps of a collection. -/
def brings (key : String) : Action → Bool
  | .appWillMount bootstrap => bootstrap.initialData.contains key
  | .apiGetDataDidLoad context _ => context.collection = key
  | _ => false

/-- Whether an action brings the item that a form has stored in a collection. -/
def files (key : String) : Action → Bool
  | .apiFormResultSuccess _ context result _ =>
    context.collection = key && context.method != .delete && !result.isNull
  | _ => false

end Action

/-! ## Collections without items -/

namespace Items

theorem remove?_nil (field : String) (item : Item) : remove? field [] item = none := by
  rw [remove?, position?]
  cases identity? field item <;> rfl

theorem setField?_nil (searchKey : String) (searchValue : Json) (updateKey : String)
    (updateValue : Json) : setField? searchKey searchValue updateKey updateValue [] = none := rfl

end Items

namespace CollectionStore

/-- There is nothing to take out of a collection without items, but any other result is stored. -/
theorem isSome_resultItems?_nil (field : String) (result : Json) (method : Method) :
    (resultItems? field [] result method).isSome = (method != .delete && !result.isNull) := by
  cases method with
  | delete => rw [resultItems?, Items.remove?_nil]; rfl
  | get | post | put =>
      simp only [resultItems?]
      cases result.isNull <;> rfl

/-- There is nothing to update in a collection without items. -/
theorem sentItems?_nil (body : Json) (update : Option PartialUpdate) :
    sentItems? [] body update = none := by
  cases update with
  | none => rfl
  | some u => rw [sentItems?, Option.bind_some, Items.setField?_nil]; rfl

/-- A collection without items gets some from the server or from a form. -/
theorem isSome_rewritten?_nil (field key : String) (a : Action) :
    (rewritten? field key [] a).isSome = (a.brings key || a.files key) := by
  cases a with
  | appWillMount bootstrap =>
      simp only [rewritten?, Option.isSome_map, Action.brings, Action.files, Bool.or_false]
      rfl
  | apiGetDataDidLoad context body =>
      simp only [rewritten?, Action.brings, Action.files, Bool.or_false]
      by_cases hkey : key = context.collection
      · simp [hkey]
      · simp [hkey, Ne.symm hkey]
  | apiFormResultSuccess form context result m =>
      simp only [rewritten?, Action.brings, Action.files, Bool.false_or]
      by_cases hkey : key = context.collection
      · simp [hkey, isSome_resultItems?_nil]
      · simp [hkey, Ne.symm hkey]
  | apiSubmitDataDidSucceed context body =>
      rw [rewritten?, sentItems?_nil, ite_self]
      rfl
  | _ => rfl

/-- **What exists remains, and what does not is brought or filed.** -/
theorem hasCollection_handle (registry : FormRegistry) (forms : FormStore) (s : CollectionStore)
    (a : Action) (key : String) :
    (s.handle registry forms a).1.hasCollection key =
      (s.hasCollection key || (a.brings key || a.files key)) := by
  rw [hasCollection, hasCollection, Dict.contains, Dict.contains, get?_handle, Option.isSome_or]
  cases hold : s.data.get? key with
  | none =>
      have hitems : s.items key = [] := by rw [items, hold]; rfl
      rw [hitems, isSome_rewritten?_nil, Option.isSome_none, Bool.or_false, Bool.false_or]
  | some items => rw [Option.isSome_some, Bool.or_true, Bool.true_or]

end CollectionStore

/-! ## Runs -/

namespace Stores

theorem hasCollection_next (s : Stores) (a : Action) (key : String) :
    (s.next a).collections.hasCollection key =
      (s.collections.hasCollection key || (a.brings key || a.files key)) :=
  CollectionStore.hasCollection_handle ..

theorem hasCollection_after (specs : Dict CollectionSpec) (registry : FormRegistry)
    (as : List Action) (key : String) :
    ((fresh specs registry).after as).collections.hasCollection key =
      as.any fun a => a.brings key || a.files key := by
  induction as using List.reverseRecOn with
  | nil => rfl
  | append_singleton as a ih => rw [after_snoc, hasCollection_next, ih, List.any_append]; simp

/--
**A collection exists just if it has been fetched or a form has filed an item in it.**

Collections and forms may be configured in any way. So whether a collection exists says
whether it has been fetched just in the runs where forms file items only in collections
that are fetched as well. Failures, data that was sent, and the results of deletions make
no difference, neither does anything else.
-/
theorem hasAll_iff_brought_or_filed (specs : Dict CollectionSpec) (registry : FormRegistry)
    (as : List Action) (key : String) :
    let s := ((Dispatcher.mk (fresh specs registry) StoreWiring.application).dispatchAll as).1.state
    (s.collections.hasAll [key] = true ↔
      (∃ a ∈ as, a.brings key = true) ∨ ∃ a ∈ as, a.files key = true) ∧
    ((s.collections.hasAll [key] = true ↔ ∃ a ∈ as, a.brings key = true) ↔
      ((∃ a ∈ as, a.files key = true) → ∃ a ∈ as, a.brings key = true)) := by
  intro s
  have hexists : s.collections.hasAll [key] = true ↔
      (∃ a ∈ as, a.brings key = true) ∨ ∃ a ∈ as, a.files key = true := by
    have hone : s.collections.hasAll [key] = s.collections.hasCollection key := Bool.and_true _
    have hafter := hasCollection_after specs registry as key
    rw [hone, show s.collections.hasCollection key = _ from hafter, List.any_eq_true]
    simp only [Bool.or_eq_true, and_or_left, exists_or]
  refine ⟨hexists, ?_⟩
  rw [hexists]
  exact ⟨fun h hfiled => h.mp (.inr hfiled), fun h => ⟨fun h' => h'.elim id h, .inl⟩⟩

/-- A form has created an earner's collection, and the list of collections, which nothing has
asked for, exists with this one item. -/
theorem hasAll_of_filed :
    let created : Action := .apiFormResultSuccess "f"
      { actionUrl := "/v1/earner/collections", collection := "earner_collections", method := .post }
      (.ofFields [("slug", .str "a")]) ⟨.success, "The collection was created."⟩
    let s := ((Dispatcher.mk ({} : Stores) StoreWiring.application).dispatchAll [created]).1.state
    ¬(s.collections.hasAll ["earner_collections"] = true ↔
        ∃ a ∈ [created], a.brings "earner_collections" = true) ∧
      s.collections.items "earner_collections" = [.ofFields [("slug", .str "a")]] := by
  refine ⟨fun h => ?_, rfl⟩
  obtain ⟨a, hmem, hbrings⟩ := h.mp rfl
  obtain rfl := List.mem_singleton.mp hmem
  exact Bool.noConfusion hbrings

end Stores

end OpenBadges
