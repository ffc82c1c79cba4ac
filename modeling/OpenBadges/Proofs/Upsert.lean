import OpenBadges.Proofs.Uniqueness

/-!
# What loading comes to

Items are stored one after another, and each looks for its place anew. What comes of
it in the end can be said without that: an item that was there stays in its place, an
identity that was not there gets the place where it came up first, and both show the
last item that came with the identity. `upserted` says this, and `addAll_eq_upserted`
that storing does it.

The proof goes through the places from left to right. An item that comes is either meant
for the first place, or it passes it by and does what it would have done if the place
were not there (`addAll_cons`). So the first place takes from what comes all that
is meant for it, and the others share the rest.
-/

namespace OpenBadges

namespace Items

theorem not_sameIdentity_of_anonymous {field : String} {b : Item} (h : identity? field b = none)
    (a : Item) : ¬SameIdentity field a b := by
  rintro ⟨_, w, _, hw, _⟩
  rw [h] at hw
  exact absurd hw (by simp)

instance (field : String) (a b : Item) : Decidable (SameIdentity field a b) :=
  decidable_of_iff ((identity? field b).any fun v => holds field v a) (by
    cases hb : identity? field b with
    | none => exact iff_of_false (by simp) (not_sameIdentity_of_anonymous hb a)
    | some v => exact (sameIdentity_iff_holds hb).symm)

/-- The form of an item when more have come, which is that of the last with its identity. -/
def latest (field : String) (more : List Item) (item : Item) : Item :=
  (more.reverse.find? fun b => SameIdentity field b item).getD item

/-- Of the items that come, those whose identity is neither there nor has come before. -/
def newcomers (field : String) (items : List Item) : List Item → List Item
  | [] => []
  | b :: more =>
    if items.any fun a => SameIdentity field a b then newcomers field items more
    else b :: newcomers field (items ++ [b]) more

/-- Some items when more have come: those that are the first with their identity and then those
that are new, all in their latest form. -/
def upserted (field : String) (items more : List Item) : List Item :=
  (items.mapIdx fun i a =>
    if (items.take i).any fun c => SameIdentity field c a then a else latest field more a) ++
    (newcomers field items more).map (latest field more)

/-! ## The first place -/

theorem sameIdentity_congr {field : String} {a b : Item} (h : SameIdentity field a b) (c : Item) :
    SameIdentity field c a ↔ SameIdentity field c b :=
  ⟨fun hc => hc.trans h, fun hc => hc.trans h.symm⟩

theorem replace_nil (field : String) (b : Item) : replace field [] b = [b] := by
  rw [replace, position?]
  cases identity? field b <;> rfl

/-- An item is stored in the first place, or in the list without that place. -/
theorem replace_cons (field : String) (a : Item) (items : List Item) (b : Item) :
    replace field (a :: items) b =
      if SameIdentity field a b then b :: items else a :: replace field items b := by
  rw [replace, replace]
  cases hb : identity? field b with
  | none =>
      rw [if_neg (not_sameIdentity_of_anonymous hb a), position?, position?, hb]
      rfl
  | some v =>
      rw [position?, position?, hb, Option.bind_some, Option.bind_some, List.findIdx?_cons]
      by_cases hv : holds field v a = true
      · rw [if_pos ((sameIdentity_iff_holds hb).mpr hv), if_pos hv]
        rfl
      · rw [if_neg (fun h => hv ((sameIdentity_iff_holds hb).mp h)), if_neg hv]
        cases items.findIdx? (holds field v) <;> rfl

theorem addAll_replace (field : String) (items : List Item) (b : Item) (more : List Item) :
    addAll field items (b :: more) = addAll field (replace field items b) more := by
  rw [← add_eq_replace field false]
  rfl

theorem latest_cons (field : String) (b : Item) (more : List Item) (a : Item) :
    latest field (b :: more) a =
      if SameIdentity field b a then latest field more b else latest field more a := by
  rw [latest, List.reverse_cons, List.find?_append]
  split
  · rename_i h
    -- the same items are looked for in what comes later
    have hsame : (fun c => decide (SameIdentity field c a)) =
        fun c => decide (SameIdentity field c b) := by
      funext c
      exact decide_eq_decide.mpr (sameIdentity_congr h.symm c)
    have hfirst : [b].find? (fun c => decide (SameIdentity field c a)) = some b := by
      rw [List.find?_cons, decide_eq_true h]
    rw [hfirst, hsame, latest]
    cases more.reverse.find? fun c => decide (SameIdentity field c b) <;> rfl
  · rename_i h
    have hnone : [b].find? (fun c => decide (SameIdentity field c a)) = none := by
      rw [List.find?_cons, decide_eq_false h]
      rfl
    rw [hnone, Option.or_none, latest]

/-- **The first place takes what is meant for it, and the others share the rest.** -/
theorem addAll_cons (field : String) (more : List Item) : ∀ (a : Item) (items : List Item),
    addAll field (a :: items) more = latest field more a ::
      addAll field items (more.filter fun b => ¬SameIdentity field b a) := by
  induction more with
  | nil => intro a items; rfl
  | cons b more ih =>
    intro a items
    rw [addAll_replace, replace_cons, latest_cons]
    by_cases h : SameIdentity field b a
    · -- what is meant for the one is meant for the other
      have hrest : ((b :: more).filter fun c => ¬SameIdentity field c a) =
          more.filter fun c => ¬SameIdentity field c b := by
        rw [List.filter_cons_of_neg (by simpa using h)]
        refine List.filter_congr fun c _ => ?_
        exact decide_eq_decide.mpr (not_congr (sameIdentity_congr h.symm c))
      rw [if_pos h.symm, if_pos h, ih, hrest]
    · have hrest : ((b :: more).filter fun c => ¬SameIdentity field c a) =
          b :: more.filter fun c => ¬SameIdentity field c a :=
        List.filter_cons_of_pos (by simpa using h)
      rw [if_neg (fun hab => h hab.symm), if_neg h, ih, hrest, addAll_replace]

/-! ## All places -/

/-- Items with another identity are not missed. -/
theorem latest_filter {field : String} {a x : Item} (h : ¬SameIdentity field a x)
    (more : List Item) :
    latest field (more.filter fun b => ¬SameIdentity field b a) x = latest field more x := by
  rw [latest, ← List.filter_reverse, List.find?_filter, latest]
  refine congrArg (fun p => (more.reverse.find? p).getD x) (funext fun b => ?_)
  by_cases hb : SameIdentity field b x
  · have hnot : ¬SameIdentity field b a := fun hba => h (hba.symm.trans hb)
    simp [hb, hnot]
  · simp [hb]

theorem latest_of_none {field : String} {x : Item} {more : List Item}
    (h : ∀ b ∈ more, ¬SameIdentity field b x) : latest field more x = x := by
  have hnone : (more.reverse.find? fun b => SameIdentity field b x) = none :=
    List.find?_eq_none.mpr fun b hb hbx => h b (List.mem_reverse.mp hb) (of_decide_eq_true hbx)
  rw [latest, hnone]
  rfl

/-- An item with the same identity finds nothing left. -/
theorem latest_filter_self {field : String} {a x : Item} (h : SameIdentity field a x)
    (more : List Item) :
    latest field (more.filter fun b => ¬SameIdentity field b a) x = x := by
  refine latest_of_none fun b hb hbx => ?_
  have hnot := (List.mem_filter.mp hb).2
  exact of_decide_eq_true hnot (hbx.trans h.symm)

theorem mem_of_mem_newcomers {field : String} {x : Item} (more : List Item) :
    ∀ {items : List Item}, x ∈ newcomers field items more → x ∈ more := by
  induction more with
  | nil => intro items h; exact h
  | cons b more ih =>
    intro items h
    rw [newcomers] at h
    split at h
    · exact List.mem_cons_of_mem _ (ih h)
    · rcases List.mem_cons.mp h with rfl | h
      · exact List.mem_cons_self
      · exact List.mem_cons_of_mem _ (ih h)

/-- What is meant for the first place is not new to the others either. -/
theorem newcomers_cons (field : String) (a : Item) (more : List Item) : ∀ items : List Item,
    newcomers field (a :: items) more =
      newcomers field items (more.filter fun b => ¬SameIdentity field b a) := by
  induction more with
  | nil => intro items; rfl
  | cons b more ih =>
    intro items
    rw [newcomers, List.any_cons]
    by_cases h : SameIdentity field a b
    · rw [List.filter_cons_of_neg (by simpa using h.symm), decide_eq_true h, Bool.true_or,
        if_pos rfl, ih]
    · have hba : ¬SameIdentity field b a := fun hba => h hba.symm
      rw [List.filter_cons_of_pos (by simpa using hba), decide_eq_false h, Bool.false_or,
        newcomers, ih]
      have hrest := ih (items ++ [b])
      rw [← List.cons_append] at hrest
      rw [hrest]

theorem map_latest_newcomers (field : String) (a : Item) (items more : List Item) :
    (newcomers field items (more.filter fun b => ¬SameIdentity field b a)).map
        (latest field more) =
      (newcomers field items (more.filter fun b => ¬SameIdentity field b a)).map
        (latest field (more.filter fun b => ¬SameIdentity field b a)) := by
  refine List.map_congr_left fun x hx => ?_
  have hnot := (List.mem_filter.mp (mem_of_mem_newcomers _ hx)).2
  exact (latest_filter (fun hax => of_decide_eq_true hnot hax.symm) more).symm

theorem upserted_cons (field : String) (a : Item) (items more : List Item) :
    upserted field (a :: items) more = latest field more a ::
      upserted field items (more.filter fun b => ¬SameIdentity field b a) := by
  rw [upserted, List.mapIdx_cons, newcomers_cons, map_latest_newcomers, List.cons_append, upserted]
  have hkept : (items.mapIdx fun i c =>
      if ((a :: items).take (i + 1)).any fun d => SameIdentity field d c then c
      else latest field more c) =
      items.mapIdx fun i c =>
        if (items.take i).any fun d => SameIdentity field d c then c
        else latest field (more.filter fun b => ¬SameIdentity field b a) c := by
    congr 1
    funext i c
    rw [List.take_succ_cons, List.any_cons]
    by_cases h : SameIdentity field a c
    · -- the place behind is not the first one any more, and nothing is left for it
      rw [decide_eq_true h, Bool.true_or, if_pos rfl, latest_filter_self h, ite_self]
    · rw [decide_eq_false h, Bool.false_or, latest_filter h]
  rw [hkept]
  rfl

/-- An identity that was not there gets the place where it came up first. -/
theorem upserted_nil_cons (field : String) (b : Item) (more : List Item) :
    upserted field [] (b :: more) = latest field more b ::
      upserted field [] (more.filter fun c => ¬SameIdentity field c b) := by
  have hnew : newcomers field [] (b :: more) =
      b :: newcomers field [] (more.filter fun c => ¬SameIdentity field c b) := by
    rw [newcomers, ← newcomers_cons]
    rfl
  have hfirst : latest field (b :: more) b = latest field more b := by
    rw [latest_cons, ite_self]
  rw [upserted, upserted, hnew, List.map_cons, hfirst, ← map_latest_newcomers]
  refine congrArg (latest field more b :: ·) (List.map_congr_left fun x hx => ?_)
  have hnot := (List.mem_filter.mp (mem_of_mem_newcomers _ hx)).2
  rw [latest_cons, if_neg fun hbx => of_decide_eq_true hnot hbx.symm]

/-- **Storing items one after another overwrites each first place with the last item meant for
it, and then adds what is new.** -/
theorem addAll_eq_upserted (field : String) (items : List Item) : ∀ more : List Item,
    addAll field items more = upserted field items more := by
  induction items with
  | cons a items ih =>
    intro more
    rw [addAll_cons, upserted_cons, ih]
  | nil =>
    intro more
    induction hlen : more.length using Nat.strongRecOn generalizing more with
    | ind n ih =>
      cases more with
      | nil => rfl
      | cons b more =>
        -- the first that comes makes a place, and what is left is shorter
        have hlt : (more.filter fun c => ¬SameIdentity field c b).length < n := by
          have hle := List.length_filter_le (fun c => decide ¬SameIdentity field c b) more
          rw [List.length_cons] at hlen
          omega
        rw [addAll_replace, replace_nil, addAll_cons, upserted_nil_cons, ih _ hlt _ rfl]

/-- An old item keeps its place, and a new one comes up where it is first heard of. The second
item of an identity, and items without one, are left alone. -/
example :
    let badge (id : Int) (name : String) : Item := .ofFields [("id", .int id), ("name", .str name)]
    upserted "id" [badge 1 "a", .null, badge 1 "b"]
        [badge 2 "c", badge 1 "d", .null, badge 2 "e", badge 1 "f"] =
      [badge 1 "f", .null, badge 1 "b", badge 2 "e", .null] := rfl

end Items

/-! ## Collections -/

namespace CollectionStore

/-- One collection exists and has these items, and all else is as in the store before. -/
structure Writes (s s' : CollectionStore) (key : String) (items : List Item) : Prop where
  exists_after : s'.hasCollection key = true
  items_after : s'.items key = items
  /-- The other collections are as they were, those that do not exist included. -/
  others : ∀ key', key' ≠ key → s'.data.get? key' = s.data.get? key'
  rest : s' = { s with data := s'.data }

theorem writes_setItems (s : CollectionStore) (key : String) (items : List Item) :
    s.Writes (s.setItems key items) key items where
  exists_after := by rw [hasCollection_setItems, decide_eq_true rfl, Bool.true_or]
  items_after := by rw [items_setItems, if_pos rfl]
  others := fun _ hne => s.data.get?_insert_of_ne hne items
  rest := rfl

/-- What a body brings: its items, nothing if it is `null`, or else itself. -/
theorem bodyItems_eq (body : Json) :
    bodyItems body = body.items?.getD (if body.isNull then [] else [body]) := by
  cases body <;> rfl

theorem load_eq (s : CollectionStore) (context : RequestContext) (body : Json) :
    s.load context body = s.setItems context.collection
      (Items.upserted (s.identifyingField context.collection)
        (if context.replacesCollection then [] else s.items context.collection)
        (body.items?.getD (if body.isNull then [] else [body]))) := by
  rw [load, Items.addAll_eq_upserted, bodyItems_eq]

/-- One item is stored like many. -/
theorem replaceItem_eq (s : CollectionStore) (key : String) (item : Item) :
    s.replaceItem key item =
      s.setItems key (Items.upserted (s.identifyingField key) (s.items key) [item]) := by
  rw [← Items.addAll_eq_upserted, Items.addAll_replace, Items.addAll, List.foldl_nil, replaceItem]

/--
**Loading is an upsert by identity.**

Whatever the collections hold, and whatever is loaded into one of them: the collection
exists and has its items, or none if they are to be replaced, with each identity that
comes overwritten where it is first, and new ones added in the order in which they
come up. To store one item is the same with that item alone, however it is done.
-/
theorem load_writes_upserted (s : CollectionStore) (context : RequestContext) (body : Json) :
    s.Writes (s.load context body) context.collection
      (Items.upserted (s.identifyingField context.collection)
        (if context.replacesCollection then [] else s.items context.collection)
        (body.items?.getD (if body.isNull then [] else [body]))) ∧
    ∀ (key : String) (item : Item),
      (∀ isNew, s.addItem key item isNew = s.replaceItem key item) ∧
      s.Writes (s.replaceItem key item) key
        (Items.upserted (s.identifyingField key) (s.items key) [item]) := by
  refine ⟨?_, fun key item => ⟨fun isNew => ?_, ?_⟩⟩
  · rw [load_eq]
    exact s.writes_setItems _ _
  · rw [addItem, Items.add_eq_replace, replaceItem]
  · rw [replaceItem_eq]
    exact s.writes_setItems _ _

end CollectionStore

end OpenBadges
