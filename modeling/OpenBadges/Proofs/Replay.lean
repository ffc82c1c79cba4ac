import OpenBadges.Proofs.Upsert

/-!
# Loading the same again

A response may come twice. The second time every identity it brings is there already,
and what is found under it is the last item that came with it (`find?_addAll`), which
is just what the response would put there. Halfway through, older items of the same
response show again, but not in the end. Only items without an identity have no place
to be found in, and so they come once more.
-/

namespace OpenBadges

namespace Items

/-! ## What is found after loading -/

theorem sameIdentity_self {field : String} {a : Item} (h : (identity? field a).isSome) :
    SameIdentity field a a := by
  obtain ⟨v, hv⟩ := Option.isSome_iff_exists.mp h
  exact ⟨v, v, hv, hv, Json.same_refl v⟩

theorem find?_replace (field : String) (x b : Item) (items : List Item) :
    (replace field items x).find? (fun a => SameIdentity field a b) =
      if SameIdentity field x b then some x
      else items.find? fun a => SameIdentity field a b := by
  induction items with
  | nil =>
      rw [replace_nil, List.find?_cons]
      by_cases h : SameIdentity field x b
      · rw [decide_eq_true h, if_pos h]
      · rw [decide_eq_false h, if_neg h]
  | cons a items ih =>
      rw [replace_cons]
      by_cases ha : SameIdentity field a x
      · rw [if_pos ha, List.find?_cons]
        by_cases h : SameIdentity field x b
        · rw [decide_eq_true h, if_pos h]
        · -- the item that gave way would not have been found either
          have hab : ¬SameIdentity field a b := fun hab => h (ha.symm.trans hab)
          rw [decide_eq_false h, if_neg h, List.find?_cons, decide_eq_false hab]
      · rw [if_neg ha, List.find?_cons, List.find?_cons]
        by_cases hab : SameIdentity field a b
        · have h : ¬SameIdentity field x b := fun h => ha (hab.trans h.symm)
          rw [decide_eq_true hab, if_neg h]
        · rw [decide_eq_false hab]
          exact ih

/-- **The last item that comes with an identity is found under it, whatever was there.** -/
theorem find?_addAll (field : String) (b : Item) (items more : List Item) :
    (addAll field items more).find? (fun a => SameIdentity field a b) =
      (more.reverse.find? fun a => SameIdentity field a b).or
        (items.find? fun a => SameIdentity field a b) := by
  induction more using List.reverseRecOn with
  | nil => rfl
  | append_singleton more x ih =>
    have hlast : addAll field items (more ++ [x]) = replace field (addAll field items more) x := by
      rw [addAll, List.foldl_append]
      exact addAll_replace field (addAll field items more) x []
    rw [hlast, find?_replace, ih, List.reverse_append, List.reverse_singleton,
      List.singleton_append, List.find?_cons]
    by_cases h : SameIdentity field x b
    · rw [decide_eq_true h, if_pos h]
      rfl
    · rw [decide_eq_false h, if_neg h]

/-! ## The second time -/

/-- The first place of an identity shows its latest item already. -/
theorem latest_of_first {field : String} {items more before after : List Item} {a : Item}
    (h : addAll field items more = before ++ a :: after)
    (hfirst : ∀ c ∈ before, ¬SameIdentity field c a) : latest field more a = a := by
  rw [latest]
  cases hfound : more.reverse.find? fun b => SameIdentity field b a with
  | none => rfl
  | some b =>
      have hheld := List.find?_some hfound
      have hb : SameIdentity field b a := of_decide_eq_true hheld
      have hfind := find?_addAll field a items more
      rw [hfound, h, List.find?_append, List.find?_eq_none.mpr (by simpa using hfirst),
        List.find?_cons, decide_eq_true (hb.symm.trans hb)] at hfind
      exact (Option.some.inj hfind).symm

theorem mapIdx_latest_addAll (field : String) (items more : List Item) :
    let loaded := addAll field items more
    (loaded.mapIdx fun i a =>
      if (loaded.take i).any fun c => SameIdentity field c a then a
      else latest field more a) = loaded := by
  intro loaded
  refine List.ext_getElem? fun i => ?_
  rw [List.getElem?_mapIdx]
  cases ha : loaded[i]? with
  | none => rfl
  | some a =>
      rw [Option.map_some]
      split
      · rfl
      · rename_i hnone
        obtain ⟨hlt, rfl⟩ := List.getElem?_eq_some_iff.mp ha
        have hsplit : loaded = loaded.take i ++ loaded[i] :: loaded.drop (i + 1) := by
          rw [List.getElem_cons_drop, List.take_append_drop]
        refine congrArg some (latest_of_first hsplit fun c hc hsame => ?_)
        exact hnone (List.any_eq_true.mpr ⟨c, hc, decide_eq_true hsame⟩)

/-- Where every identity that comes is there already, only anonymous items are new. -/
theorem newcomers_of_known {field : String} (more : List Item) : ∀ {items : List Item},
    (∀ b ∈ more, (identity? field b).isSome → ∃ a ∈ items, SameIdentity field a b) →
    newcomers field items more = more.filter fun b => (identity? field b).isNone := by
  induction more with
  | nil => intro items _; rfl
  | cons b more ih =>
    intro items h
    rw [newcomers]
    cases hb : identity? field b with
    | none =>
        have hnew : (items.any fun a => SameIdentity field a b) = false := by
          refine List.any_eq_false.mpr fun a _ hsame => ?_
          exact not_sameIdentity_of_anonymous hb a (of_decide_eq_true hsame)
        rw [hnew, if_neg Bool.false_ne_true, List.filter_cons, hb, if_pos Option.isNone_none]
        refine congrArg (b :: ·) (ih fun c hc hsome => ?_)
        obtain ⟨a, ha, hsame⟩ := h c (List.mem_cons_of_mem _ hc) hsome
        exact ⟨a, List.mem_append_left _ ha, hsame⟩
    | some v =>
        obtain ⟨a, ha, hsame⟩ := h b List.mem_cons_self (by rw [hb]; rfl)
        have hknown : (items.any fun a => SameIdentity field a b) = true :=
          List.any_eq_true.mpr ⟨a, ha, decide_eq_true hsame⟩
        rw [hknown, if_pos rfl, List.filter_cons, hb, if_neg (by simp)]
        exact ih fun c hc => h c (List.mem_cons_of_mem _ hc)

/-- **Storing the same items again changes nothing, but for those without an identity.** -/
theorem addAll_addAll (field : String) (items more : List Item) :
    addAll field (addAll field items more) more =
      addAll field items more ++ more.filter fun b => (identity? field b).isNone := by
  have hknown : ∀ b ∈ more, (identity? field b).isSome →
      ∃ a ∈ addAll field items more, SameIdentity field a b := by
    intro b hb hsome
    have hcame : (more.reverse.find? fun a => SameIdentity field a b).isSome :=
      List.find?_isSome.mpr ⟨b, List.mem_reverse.mpr hb, decide_eq_true (sameIdentity_self hsome)⟩
    have hfound : ((addAll field items more).find? fun a => SameIdentity field a b).isSome := by
      rw [find?_addAll, Option.isSome_or, hcame]
      rfl
    obtain ⟨a, ha, hsame⟩ := List.find?_isSome.mp hfound
    exact ⟨a, ha, of_decide_eq_true hsame⟩
  have hsame : ∀ b ∈ more.filter fun b => (identity? field b).isNone, latest field more b = b := by
    intro b hb
    have hanon := Option.isNone_iff_eq_none.mp (List.mem_filter.mp hb).2
    exact latest_of_none fun c _ => not_sameIdentity_of_anonymous hanon c
  rw [addAll_eq_upserted field (addAll field items more), upserted, mapIdx_latest_addAll,
    newcomers_of_known more hknown, List.map_congr_left hsame, List.map_id']

end Items

/-! ## Responses -/

namespace CollectionStore

theorem setItems_items {s : CollectionStore} {key : String} (h : s.hasCollection key = true) :
    s.setItems key (s.items key) = s := by
  obtain ⟨items, hitems⟩ := Option.isSome_iff_exists.mp h
  have hsame : s.data.insert key (s.items key) = s.data := by
    refine Dict.ext fun key' => ?_
    rw [Dict.get?_insert]
    split
    · rename_i hkey
      have hget : s.data.get? key = some items := hitems
      rw [hkey, CollectionStore.items, hget]
      rfl
    · rfl
  rw [setItems, hsame]

/-- The second time adds the items without an identity, if anything is kept of the first. -/
theorem load_load (s : CollectionStore) (context : RequestContext) (body : Json) :
    (s.load context body).load context body =
      (s.load context body).setItems context.collection
        ((s.load context body).items context.collection ++
          if context.replacesCollection then []
          else (bodyItems body).filter fun b =>
            (Items.identity? (s.identifyingField context.collection) b).isNone) := by
  have hitems : (s.load context body).items context.collection =
      Items.addAll (s.identifyingField context.collection)
        (if context.replacesCollection then [] else s.items context.collection)
        (bodyItems body) := by
    rw [load, items_setItems, if_pos rfl]
  have hagain : (s.load context body).load context body =
      (s.load context body).setItems context.collection
        (Items.addAll (s.identifyingField context.collection)
          (if context.replacesCollection then []
            else (s.load context body).items context.collection) (bodyItems body)) := rfl
  rw [hagain, hitems]
  split
  · rw [List.append_nil]
  · rw [Items.addAll_addAll]

/--
**Loading a response again is harmless.**

Whatever the collections hold, and whatever the response brings: if it replaces the
collection, the second time leaves it as the first did; if it is merged, the items
without an identity come once more at the end, in the order of the response, and nothing
else changes. So with an identity in every item the second time does nothing at all.
-/
theorem load_twice (s : CollectionStore) (context : RequestContext) (body : Json) :
    let once := s.load context body
    let brought := body.items?.getD (if body.isNull then [] else [body])
    let field := s.identifyingField context.collection
    once.Writes (once.load context body) context.collection
      (once.items context.collection ++
        if context.replacesCollection then []
        else brought.filter fun b => (Items.identity? field b).isNone) ∧
    ((context.replacesCollection = true ∨ ∀ b ∈ brought, (Items.identity? field b).isSome) →
      once.load context body = once) := by
  intro once brought field
  have hagain : once.load context body = _ := s.load_load context body
  rw [bodyItems_eq] at hagain
  rw [hagain]
  refine ⟨once.writes_setItems _ _, fun h => ?_⟩
  have hnone : (if context.replacesCollection then []
      else brought.filter fun b => (Items.identity? field b).isNone) = [] := by
    rcases h with hreplaces | hidentified
    · rw [if_pos hreplaces]
    · rw [List.filter_eq_nil_iff.mpr fun b hb hanon => ?_, ite_self]
      have hsome := hidentified b hb
      rw [Option.isNone_iff_eq_none.mp hanon] at hsome
      exact Bool.noConfusion hsome
  rw [hnone, List.append_nil]
  exact setItems_items (s.writes_setItems _ _).exists_after

/-- A response that brings the first badge twice. -/
def renamedBadge : List Item := [
  .ofFields [("id", .int 2)],
  .ofFields [("id", .int 1), ("name", .str "old")],
  .ofFields [("id", .int 1), ("name", .str "new")]]

/-- Each time it is the later name that stays. -/
theorem load_twice_renamedBadge :
    let context := RequestContext.get "/v1/earner/badges" "earner_badges"
    let s := ({} : CollectionStore).setItems "earner_badges" [.ofFields [("id", .int 1)], .null]
    (∀ b ∈ renamedBadge, (Items.identity? "id" b).isSome) ∧
      (s.load context (.arr renamedBadge)).load context (.arr renamedBadge) =
        s.load context (.arr renamedBadge) ∧
      (s.load context (.arr renamedBadge)).items "earner_badges" =
        [.ofFields [("id", .int 1), ("name", .str "new")], .null, .ofFields [("id", .int 2)]] := by
  have hidentified : ∀ b ∈ renamedBadge, (Items.identity? "id" b).isSome := by decide
  exact ⟨hidentified, (load_twice _ _ (.arr renamedBadge)).2 (.inr hidentified), rfl⟩

end CollectionStore

end OpenBadges
