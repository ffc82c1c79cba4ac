import OpenBadges.Collections.Items
import OpenBadges.Proofs.JsonEquality

/-!
# Items with an identity of their own

`Distinct` says that no two items of a list have the same identity. Storing and
removing keep it, since an item is only ever put in the place of one that has its
identity, or behind others none of which has. Setting a field keeps it too, unless
the field is the one that identifies items and another item has the new value
there already (`distinct_setField?`).
-/

namespace OpenBadges.Items

/-- Both items are identified, and by equal values. -/
def SameIdentity (field : String) (a b : Item) : Prop :=
  ∃ v w, identity? field a = some v ∧ identity? field b = some w ∧ (v == w) = true

/-- No two items have the same identity. -/
def Distinct (field : String) (items : List Item) : Prop :=
  ∀ (i j : Nat) (a b : Item), i ≠ j → items[i]? = some a → items[j]? = some b →
    ¬SameIdentity field a b

/-! ## Identities -/

theorem SameIdentity.symm {field : String} {a b : Item} (h : SameIdentity field a b) :
    SameIdentity field b a := by
  obtain ⟨v, w, hv, hw, heq⟩ := h
  exact ⟨w, v, hw, hv, (Json.same_symm w v).trans heq⟩

theorem SameIdentity.trans {field : String} {a b c : Item} (h₁ : SameIdentity field a b)
    (h₂ : SameIdentity field b c) : SameIdentity field a c := by
  obtain ⟨u, v, hu, hv, huv⟩ := h₁
  obtain ⟨v', w, hv', hw, hvw⟩ := h₂
  obtain rfl : v = v' := Option.some.inj (hv.symm.trans hv')
  exact ⟨u, w, hu, hw, Json.same_trans huv hvw⟩

theorem identity?_eq_some {field : String} {a : Item} {v : Json} :
    identity? field a = some v ↔ a.get? field = some v ∧ v.isNull = false := by
  rw [identity?, Option.filter_eq_some_iff]
  simp

/-- For a value other than `null`, to hold it in the field is to be identified by it. -/
theorem holds_iff {field : String} {a : Item} {v : Json} (hv : v.isNull = false) :
    holds field v a = true ↔ ∃ u, identity? field a = some u ∧ (u == v) = true := by
  constructor
  · intro h
    obtain ⟨u, hu, heq⟩ := (Option.any_eq_true _ _).mp h
    exact ⟨u, identity?_eq_some.mpr ⟨hu, (Json.isNull_congr heq).trans hv⟩, heq⟩
  · rintro ⟨u, hu, heq⟩
    exact (Option.any_eq_true _ _).mpr ⟨u, (identity?_eq_some.mp hu).1, heq⟩

theorem sameIdentity_iff_holds {field : String} {a b : Item} {v : Json}
    (hb : identity? field b = some v) : SameIdentity field a b ↔ holds field v a = true := by
  rw [holds_iff (identity?_eq_some.mp hb).2]
  constructor
  · rintro ⟨u, w, hu, hw, heq⟩
    obtain rfl : v = w := Option.some.inj (hb.symm.trans hw)
    exact ⟨u, hu, heq⟩
  · rintro ⟨u, hu, heq⟩
    exact ⟨u, v, hu, hb, heq⟩

/-- The place found for an item is that of one with its identity. -/
theorem sameIdentity_of_position? {field : String} {items : List Item} {item : Item} {i : Nat}
    (h : position? field items item = some i) :
    ∃ old, items[i]? = some old ∧ SameIdentity field old item := by
  obtain ⟨v, hv, hi⟩ := Option.bind_eq_some_iff.mp h
  obtain ⟨hlt, hholds, _⟩ := List.findIdx?_eq_some_iff_getElem.mp hi
  exact ⟨items[i], List.getElem?_eq_getElem hlt, (sameIdentity_iff_holds hv).mpr hholds⟩

/-- An item without a place has an identity that is not there yet, or none. -/
theorem not_sameIdentity_of_position? {field : String} {items : List Item} {item : Item}
    (h : position? field items item = none) : ∀ old ∈ items, ¬SameIdentity field old item := by
  intro old hmem hsame
  have hsame' := hsame
  obtain ⟨_, v, _, hv, _⟩ := hsame
  rw [position?, hv, Option.bind_some, List.findIdx?_eq_none_iff] at h
  have := h old hmem
  rw [(sameIdentity_iff_holds hv).mp hsame'] at this
  exact absurd this (by simp)

/-! ## Storing and removing -/

theorem distinct_nil (field : String) : Distinct field [] := by
  intro i j a b _ ha; simp at ha

/-- An item may take the place of another if nobody else has its identity. -/
theorem distinct_set {field : String} {items : List Item} (h : Distinct field items) {i : Nat}
    {x : Item} (hx : ∀ (j : Nat) (b : Item), j ≠ i → items[j]? = some b →
      ¬SameIdentity field b x) : Distinct field (items.set i x) := by
  intro j k a b hne ha hb
  rw [List.getElem?_set] at ha hb
  split at ha
  · rename_i hij
    subst hij
    split at ha
    · obtain rfl := Option.some.inj ha
      rw [if_neg hne] at hb
      exact fun hsame => hx k b (Ne.symm hne) hb hsame.symm
    · exact absurd ha (by simp)
  · rename_i hij
    split at hb
    · rename_i hik
      subst hik
      split at hb
      · obtain rfl := Option.some.inj hb
        exact hx j a hne ha
      · exact absurd hb (by simp)
    · exact h j k a b hne ha hb

/-- An item may come behind the others if none of them has its identity. -/
theorem distinct_snoc {field : String} {items : List Item} (h : Distinct field items) {x : Item}
    (hx : ∀ b ∈ items, ¬SameIdentity field b x) : Distinct field (items ++ [x]) := by
  -- an item of the longer list is an old one, or the new one in the last place
  have place : ∀ {j : Nat} {a : Item}, (items ++ [x])[j]? = some a →
      items[j]? = some a ∨ j = items.length ∧ a = x := by
    intro j a ha
    rcases Nat.lt_or_ge j items.length with hlt | hge
    · rw [List.getElem?_append_left hlt] at ha
      exact .inl ha
    · rw [List.getElem?_append_right hge, List.getElem?_singleton] at ha
      split at ha
      · exact .inr ⟨by omega, (Option.some.inj ha).symm⟩
      · exact absurd ha (by simp)
  intro j k a b hne ha hb
  rcases place ha with hold | ⟨hj, hnew⟩
  · rcases place hb with hold' | ⟨_, hnew⟩
    · exact h j k a b hne hold hold'
    · exact hnew ▸ hx a (List.mem_of_getElem? hold)
  · rcases place hb with hold | ⟨hk, _⟩
    · exact fun hsame => hx b (List.mem_of_getElem? hold) (hnew ▸ hsame.symm)
    · exact absurd (hj.trans hk.symm) hne

theorem distinct_replace {field : String} {items : List Item} (h : Distinct field items)
    (item : Item) : Distinct field (replace field items item) := by
  rw [replace]
  split
  · rename_i i hi
    obtain ⟨old, hold, hsame⟩ := sameIdentity_of_position? hi
    refine distinct_set h fun j b hne hb hb' => ?_
    exact h j i b old hne hb hold (hb'.trans hsame.symm)
  · rename_i hi
    exact distinct_snoc h (not_sameIdentity_of_position? hi)

/-- Storing an item overwrites or appends, whether or not it is known to be new. -/
theorem add_eq_replace (field : String) (isNew : Bool) (items : List Item) (item : Item) :
    add field isNew items item = replace field items item := by
  rw [add]
  split
  · rfl
  · rename_i hnot
    rw [Bool.or_eq_true, not_or, Option.not_isSome_iff_eq_none] at hnot
    rw [replace, hnot.2]

theorem distinct_addAll {field : String} (more : List Item) : ∀ {items : List Item},
    Distinct field items → Distinct field (addAll field items more) := by
  induction more with
  | nil => intro items h; exact h
  | cons item more ih =>
    intro items h
    refine ih ?_
    rw [add_eq_replace]
    exact distinct_replace h item

theorem distinct_remove? {field : String} {items rest : List Item} {item removed : Item}
    (h : Distinct field items) (hr : remove? field items item = some (removed, rest)) :
    Distinct field rest := by
  obtain ⟨i, _, hr⟩ := Option.bind_eq_some_iff.mp hr
  obtain ⟨old, _, hr⟩ := Option.bind_eq_some_iff.mp hr
  obtain ⟨_, rfl⟩ := Prod.mk.inj (Option.some.inj hr)
  -- the places behind the removed one move down by one
  intro j k a b hne ha hb
  rw [List.getElem?_eraseIdx] at ha hb
  split at ha <;> split at hb
  · exact h j k a b hne ha hb
  · exact h j (k + 1) a b (by omega) ha hb
  · exact h (j + 1) k a b (by omega) ha hb
  · exact h (j + 1) (k + 1) a b (by omega) ha hb

/-! ## Setting a field -/

/-- Setting a field would give an item the identity of another. -/
def TakesIdentity (field searchKey : String) (searchValue : Json) (updateKey : String)
    (updateValue : Json) (items : List Item) : Prop :=
  updateKey = field ∧ updateValue.isNull = false ∧
    ∃ i j other, items.findIdx? (holds searchKey searchValue) = some i ∧ j ≠ i ∧
      items[j]? = some other ∧ holds field updateValue other = true

theorem get?_set? {object changed : Json} {k : String} {v : Json}
    (h : object.set? k v = some changed) (k' : String) :
    changed.get? k' = if k' = k then some v else object.get? k' := by
  cases object with
  | obj fields =>
      obtain rfl := Option.some.inj h
      split
      · rename_i heq; subst heq; exact Entries.find?_insert_self _ _ _
      · rename_i hne; exact Entries.find?_insert_of_ne hne _ _
  | _ => exact absurd h (by simp [Json.set?])

theorem setField?_eq_some {searchKey updateKey : String} {searchValue updateValue : Json}
    {items items' : List Item} {changed : Item}
    (h : setField? searchKey searchValue updateKey updateValue items = some (changed, items')) :
    ∃ i old, items.findIdx? (holds searchKey searchValue) = some i ∧ items[i]? = some old ∧
      old.set? updateKey updateValue = some changed ∧ items' = items.set i changed := by
  obtain ⟨i, hi, h⟩ := Option.bind_eq_some_iff.mp h
  obtain ⟨old, hold, h⟩ := Option.bind_eq_some_iff.mp h
  obtain ⟨_, hset, h⟩ := Option.bind_eq_some_iff.mp h
  obtain ⟨rfl, rfl⟩ := Prod.mk.inj (Option.some.inj h)
  exact ⟨i, old, hi, hold, hset, rfl⟩

/-- Where no field can be set, no identity is taken: a field is set in every item that is found. -/
theorem not_takesIdentity_of_setField? {field searchKey updateKey : String}
    {searchValue updateValue : Json} {items : List Item}
    (h : setField? searchKey searchValue updateKey updateValue items = none) :
    ¬TakesIdentity field searchKey searchValue updateKey updateValue items := by
  rintro ⟨_, _, i, _, _, hi, _⟩
  obtain ⟨hlt, hholds, _⟩ := List.findIdx?_eq_some_iff_getElem.mp hi
  obtain ⟨v, hv, _⟩ := (Option.any_eq_true _ _).mp hholds
  rw [setField?, hi, Option.bind_eq_bind, Option.bind_some, List.getElem?_eq_getElem hlt] at h
  -- only objects have fields
  cases hobj : items[i] with
  | obj fields => rw [hobj] at h; exact absurd h (by simp [Json.set?])
  | _ => rw [hobj] at hv; exact absurd hv (by simp [Json.get?])

/-- **Setting a field keeps identities apart unless it takes one that is there already.** -/
theorem distinct_setField? {field searchKey updateKey : String} {searchValue updateValue : Json}
    {items items' : List Item} {changed : Item} (h : Distinct field items)
    (hset : setField? searchKey searchValue updateKey updateValue items =
      some (changed, items')) :
    Distinct field items' ↔
      ¬TakesIdentity field searchKey searchValue updateKey updateValue items := by
  obtain ⟨i, old, hi, hold, hchanged, rfl⟩ := setField?_eq_some hset
  have hfield := get?_set? hchanged field
  have hlt : i < items.length := (List.getElem?_eq_some_iff.mp hold).1
  constructor
  · rintro hdist ⟨rfl, hnull, i', j, other, hi', hne, hother, hholds⟩
    obtain rfl : i = i' := Option.some.inj (hi.symm.trans hi')
    have hid : identity? updateKey changed = some updateValue :=
      identity?_eq_some.mpr ⟨by simpa using hfield, hnull⟩
    refine hdist j i other changed hne ?_ ?_ ((sameIdentity_iff_holds hid).mpr hholds)
    · rw [List.getElem?_set, if_neg (Ne.symm hne), hother]
    · rw [List.getElem?_set, if_pos rfl, if_pos hlt]
  · intro hfree
    refine distinct_set h fun j b hne hb hsame => ?_
    by_cases hkey : field = updateKey
    · subst hkey
      rw [if_pos rfl] at hfield
      have hsame' := hsame
      obtain ⟨_, w, _, hw, _⟩ := hsame
      obtain ⟨hget, hnull⟩ := identity?_eq_some.mp hw
      obtain rfl : updateValue = w := Option.some.inj (hfield.symm.trans hget)
      exact hfree ⟨rfl, hnull, i, j, b, hi, hne, hb, (sameIdentity_iff_holds hw).mp hsame'⟩
    · -- another field: the item keeps its identity
      rw [if_neg hkey] at hfield
      obtain ⟨v, w, hv, hw, heq⟩ := hsame
      have hw' : identity? field old = some w := by
        rw [identity?_eq_some] at hw ⊢
        exact ⟨hfield ▸ hw.1, hw.2⟩
      exact h j i b old hne hb hold ⟨v, w, hv, hw', heq⟩

end OpenBadges.Items
