/-!
# Dictionaries with text keys

Everything the client holds is looked up by a name: collections, forms, panels,
the fields of a JSON object. A dictionary is a list of entries in strictly
increasing order of key, so two dictionaries with the same look-ups are the same
value and the order in which entries were written leaves no trace.

The operations come in two layers. `Entries` works on bare entry lists; its
look-up laws hold of *any* list, sorted or not, because insertion replaces at the
first place it can. `Dict` bundles a list with its order and inherits the laws.
The split is there for JSON values, whose objects cannot carry a proof inside
their own definition and so keep a bare list.
-/

namespace OpenBadges

namespace Entries

variable {α β : Type}

/-- The first value stored under `k`. -/
def find? (k : String) : List (String × α) → Option α
  | [] => none
  | (k', v) :: rest => if k' = k then some v else find? k rest

/-- Stores `v` under `k`, in key order, replacing what was there. -/
def insert (k : String) (v : α) : List (String × α) → List (String × α)
  | [] => [(k, v)]
  | (k', v') :: rest =>
    if k < k' then (k, v) :: (k', v') :: rest
    else if k = k' then (k, v) :: rest
    else (k', v') :: insert k v rest

/-- Drops every entry under `k`. -/
def erase (k : String) (es : List (String × α)) : List (String × α) :=
  es.filter fun e => e.1 ≠ k

/-- Strictly increasing in key. -/
def Sorted (es : List (String × α)) : Prop := es.Pairwise fun a b => a.1 < b.1

/-! ## Look-up -/

@[simp] theorem find?_nil (k : String) : find? k ([] : List (String × α)) = none := rfl

theorem find?_insert_self (k : String) (v : α) (es : List (String × α)) :
    find? k (insert k v es) = some v := by
  induction es with
  | nil => simp [insert, find?]
  | cons e rest ih =>
    obtain ⟨k', v'⟩ := e
    rw [insert]
    split
    · simp [find?]
    · split
      · simp [find?]
      · next _ hne => simp [find?, Ne.symm hne, ih]

theorem find?_insert_of_ne {k k' : String} (h : k' ≠ k) (v : α) (es : List (String × α)) :
    find? k' (insert k v es) = find? k' es := by
  induction es with
  | nil => simp [insert, find?, Ne.symm h]
  | cons e rest ih =>
    obtain ⟨k'', v''⟩ := e
    rw [insert]
    split
    · simp [find?, Ne.symm h]
    · split
      · next _ heq => subst heq; simp [find?, Ne.symm h]
      · by_cases hk : k'' = k' <;> simp [find?, hk, ih]

theorem find?_erase_self (k : String) (es : List (String × α)) : find? k (erase k es) = none := by
  induction es with
  | nil => rfl
  | cons e rest ih =>
    obtain ⟨k', v⟩ := e
    by_cases hk : k' = k
    · simpa [erase, hk] using ih
    · simpa [erase, hk, find?] using ih

theorem find?_erase_of_ne {k k' : String} (h : k' ≠ k) (es : List (String × α)) :
    find? k' (erase k es) = find? k' es := by
  induction es with
  | nil => rfl
  | cons e rest ih =>
    obtain ⟨k'', v⟩ := e
    by_cases hk : k'' = k
    · subst hk
      simpa [erase, find?, Ne.symm h] using ih
    · by_cases hk' : k'' = k'
      · subst hk'
        simp [erase, h, find?]
      · simpa [erase, hk, find?, hk'] using ih

theorem find?_eq_none_of_lt {k : String} {es : List (String × α)}
    (h : ∀ e ∈ es, k < e.1) : find? k es = none := by
  induction es with
  | nil => rfl
  | cons e rest ih =>
    obtain ⟨k', v⟩ := e
    have hne : k' ≠ k := fun heq => String.lt_irrefl k (heq ▸ h (k', v) (by simp))
    simp only [find?, if_neg hne]
    exact ih fun e he => h e (List.mem_cons_of_mem _ he)

/-- What is found is an entry. -/
theorem mem_of_find?_eq_some {k : String} {v : α} {es : List (String × α)}
    (h : find? k es = some v) : (k, v) ∈ es := by
  induction es with
  | nil => exact absurd h (by simp)
  | cons e rest ih =>
    obtain ⟨k', v'⟩ := e
    rw [find?] at h
    split at h
    · next hk =>
        obtain rfl := Option.some.inj h
        rw [hk]
        exact List.mem_cons_self
    · exact List.mem_cons_of_mem _ (ih h)

/-! ## Order -/

theorem sorted_nil : Sorted ([] : List (String × α)) := List.Pairwise.nil

theorem mem_of_mem_insert {k : String} {v : α} {e : String × α} {es : List (String × α)}
    (h : e ∈ insert k v es) : e = (k, v) ∨ e ∈ es := by
  induction es with
  | nil => simpa [insert] using h
  | cons e' rest ih =>
    obtain ⟨k', v'⟩ := e'
    rw [insert] at h
    split at h
    · rcases List.mem_cons.1 h with h | h
      · exact .inl h
      · exact .inr h
    · split at h
      · rcases List.mem_cons.1 h with h | h
        · exact .inl h
        · exact .inr (List.mem_cons_of_mem _ h)
      · rcases List.mem_cons.1 h with h | h
        · exact .inr (h ▸ List.mem_cons_self)
        · rcases ih h with h | h
          · exact .inl h
          · exact .inr (List.mem_cons_of_mem _ h)

/-- Keys are totally ordered: a key that is neither below nor equal to another is above it. -/
theorem lt_of_not_lt_of_ne {k k' : String} (h₁ : ¬k < k') (h₂ : k ≠ k') : k' < k := by
  rcases Classical.em (k' < k) with h | h
  · exact h
  · exact absurd (String.le_antisymm (String.not_lt.1 h) (String.not_lt.1 h₁)) h₂

theorem Sorted.insert {k : String} {v : α} {es : List (String × α)} (h : Sorted es) :
    Sorted (insert k v es) := by
  induction es with
  | nil => simp [Entries.insert, Sorted]
  | cons e rest ih =>
    obtain ⟨k', v'⟩ := e
    obtain ⟨hhead, htail⟩ := List.pairwise_cons.1 h
    rw [Entries.insert]
    split
    · next hlt =>
      refine List.pairwise_cons.2 ⟨fun e he => ?_, h⟩
      rcases List.mem_cons.1 he with rfl | he
      · exact hlt
      · exact String.lt_trans hlt (hhead e he)
    · next hnlt =>
      split
      · next heq => subst heq; exact List.pairwise_cons.2 ⟨hhead, htail⟩
      · next hne =>
        refine List.pairwise_cons.2 ⟨fun e he => ?_, ih htail⟩
        rcases mem_of_mem_insert he with rfl | he
        · exact lt_of_not_lt_of_ne hnlt hne
        · exact hhead e he

theorem Sorted.erase {k : String} {es : List (String × α)} (h : Sorted es) :
    Sorted (erase k es) :=
  h.sublist List.filter_sublist

/-- **Sorted lists with the same look-ups are the same list.** -/
theorem eq_of_find?_eq {es fs : List (String × α)} (he : Sorted es) (hf : Sorted fs)
    (h : ∀ k, find? k es = find? k fs) : es = fs := by
  induction es generalizing fs with
  | nil =>
    cases fs with
    | nil => rfl
    | cons f fs => exact absurd (h f.1) (by simp [find?])
  | cons e es ih =>
    obtain ⟨k, v⟩ := e
    obtain ⟨hek, hes⟩ := List.pairwise_cons.1 he
    cases fs with
    | nil => exact absurd (h k) (by simp [find?])
    | cons f fs =>
      obtain ⟨k', v'⟩ := f
      obtain ⟨hfk, hfs⟩ := List.pairwise_cons.1 hf
      have hkk : k = k' := by
        -- the smaller head would be missing from the other list
        rcases Classical.em (k = k') with hkk | hkk
        · exact hkk
        · exfalso
          rcases Classical.em (k < k') with hlt | hlt
          · have hnone : find? k ((k', v') :: fs) = none :=
              find?_eq_none_of_lt fun e hmem => by
                rcases List.mem_cons.1 hmem with rfl | hmem
                · exact hlt
                · exact String.lt_trans hlt (hfk e hmem)
            have := h k
            rw [hnone] at this
            simp [find?] at this
          · have hgt := lt_of_not_lt_of_ne hlt hkk
            have hnone : find? k' ((k, v) :: es) = none :=
              find?_eq_none_of_lt fun e hmem => by
                rcases List.mem_cons.1 hmem with rfl | hmem
                · exact hgt
                · exact String.lt_trans hgt (hek e hmem)
            have := h k'
            rw [hnone] at this
            simp [find?] at this
      subst hkk
      have hv : v = v' := by
        have := h k
        simpa [find?] using this
      subst hv
      have hrest : ∀ j, find? j es = find? j fs := by
        intro j
        by_cases hj : k = j
        · subst hj
          rw [find?_eq_none_of_lt hek, find?_eq_none_of_lt hfk]
        · have := h j
          simpa [find?, hj] using this
      rw [ih hes hfs hrest]

end Entries

/-- A dictionary with text keys. Equal look-ups make equal dictionaries. -/
structure Dict (α : Type) where
  /-- The entries, in key order. -/
  entries : List (String × α) := []
  /-- The keys increase strictly, so none occurs twice. -/
  sorted : Entries.Sorted entries := by exact Entries.sorted_nil

namespace Dict

variable {α β : Type}

instance : EmptyCollection (Dict α) := ⟨{}⟩

instance : Inhabited (Dict α) := ⟨∅⟩

instance [DecidableEq α] : DecidableEq (Dict α) := fun m n =>
  if h : m.entries = n.entries then
    isTrue (by cases m; cases n; cases h; rfl)
  else isFalse fun heq => h (heq ▸ rfl)

/-- The value stored under `k`. -/
def get? (m : Dict α) (k : String) : Option α := Entries.find? k m.entries

/-- Whether something is stored under `k`. -/
def contains (m : Dict α) (k : String) : Bool := (m.get? k).isSome

/-- Stores `v` under `k`, replacing what was there. -/
def insert (m : Dict α) (k : String) (v : α) : Dict α where
  entries := Entries.insert k v m.entries
  sorted := m.sorted.insert

/-- Removes what is stored under `k`. -/
def erase (m : Dict α) (k : String) : Dict α where
  entries := Entries.erase k m.entries
  sorted := m.sorted.erase

/-- The entries, in key order. -/
def toList (m : Dict α) : List (String × α) := m.entries

def size (m : Dict α) : Nat := m.entries.length

/-- Stores the entries one after another, so a later entry wins over an earlier one. -/
def insertAll (m : Dict α) (es : List (String × α)) : Dict α :=
  es.foldl (fun m e => m.insert e.1 e.2) m

/-- The dictionary of these entries; of two under one key the later counts. -/
def ofList (es : List (String × α)) : Dict α := (∅ : Dict α).insertAll es

/-- All of `m`, overlaid by all of `n`. -/
def overlay (m n : Dict α) : Dict α := m.insertAll n.entries

@[simp] theorem get?_empty (k : String) : (∅ : Dict α).get? k = none := rfl

@[simp] theorem get?_insert_self (m : Dict α) (k : String) (v : α) :
    (m.insert k v).get? k = some v :=
  Entries.find?_insert_self k v m.entries

theorem get?_insert_of_ne (m : Dict α) {k k' : String} (h : k' ≠ k) (v : α) :
    (m.insert k v).get? k' = m.get? k' :=
  Entries.find?_insert_of_ne h v m.entries

theorem get?_insert (m : Dict α) (k k' : String) (v : α) :
    (m.insert k v).get? k' = if k' = k then some v else m.get? k' := by
  split
  · next h => subst h; exact get?_insert_self m k' v
  · next h => exact get?_insert_of_ne m h v

theorem get?_insertAll {es : List (String × α)} (h : Entries.Sorted es) (m : Dict α) (k : String) :
    (m.insertAll es).get? k = (Entries.find? k es).or (m.get? k) := by
  induction es generalizing m with
  | nil => rfl
  | cons e es ih =>
    obtain ⟨k', v⟩ := e
    obtain ⟨hhead, htail⟩ := List.pairwise_cons.1 h
    have hrest : (m.insertAll ((k', v) :: es)).get? k = ((m.insert k' v).insertAll es).get? k := rfl
    rw [hrest, ih htail, Entries.find?]
    split
    · next hk =>
      -- no later entry has the same key
      subst hk
      rw [Entries.find?_eq_none_of_lt hhead, get?_insert_self]
      rfl
    · next hk => rw [get?_insert_of_ne m (Ne.symm hk)]

theorem get?_overlay (m n : Dict α) (k : String) :
    (m.overlay n).get? k = (n.get? k).or (m.get? k) :=
  get?_insertAll n.sorted m k

/-- Of many dictionaries laid over one another, the last that has a key counts. -/
theorem get?_foldl_overlay (ns : List (Dict α)) (m : Dict α) (k : String) :
    (ns.foldl overlay m).get? k = (ns.reverse.findSome? (·.get? k)).or (m.get? k) := by
  induction ns generalizing m with
  | nil => rfl
  | cons n ns ih =>
    rw [List.foldl_cons, ih, get?_overlay, List.reverse_cons, List.findSome?_append,
      Option.or_assoc]
    cases hn : n.get? k <;> simp [hn]

@[simp] theorem get?_erase_self (m : Dict α) (k : String) : (m.erase k).get? k = none :=
  Entries.find?_erase_self k m.entries

theorem get?_erase_of_ne (m : Dict α) {k k' : String} (h : k' ≠ k) :
    (m.erase k).get? k' = m.get? k' :=
  Entries.find?_erase_of_ne h m.entries

theorem get?_erase (m : Dict α) (k k' : String) :
    (m.erase k).get? k' = if k' = k then none else m.get? k' := by
  split
  · next h => subst h; exact get?_erase_self m k'
  · next h => exact get?_erase_of_ne m h

/-- **A dictionary is what its look-ups say.** -/
@[ext] theorem ext {m n : Dict α} (h : ∀ k, m.get? k = n.get? k) : m = n := by
  have hes : m.entries = n.entries := Entries.eq_of_find?_eq m.sorted n.sorted h
  cases m
  cases n
  cases hes
  rfl

/-- What is stored under a key gives way to what is stored there next. -/
theorem insert_insert (m : Dict α) (k : String) (v w : α) :
    (m.insert k v).insert k w = m.insert k w :=
  ext fun j => by
    simp only [get?_insert]
    split <;> rfl

theorem erase_of_get?_eq_none {m : Dict α} {k : String} (h : m.get? k = none) : m.erase k = m :=
  ext fun j => by
    rw [get?_erase]
    split
    · rename_i hj
      rw [hj, h]
    · rfl

/-- Entries that hang on their keys alone. -/
theorem get?_ofList_map (f : String → α) (keys : List String) (k : String) :
    (ofList (keys.map fun key => (key, f key))).get? k = if k ∈ keys then some (f k) else none := by
  have hall : ∀ m : Dict α, (m.insertAll (keys.map fun key => (key, f key))).get? k =
      if k ∈ keys then some (f k) else m.get? k := by
    induction keys with
    | nil => intro m; simp [insertAll]
    | cons key keys ih =>
      intro m
      rw [List.map_cons, insertAll, List.foldl_cons, ← insertAll, ih, get?_insert]
      by_cases hkey : k = key <;> simp [hkey]
  exact hall ∅

theorem entries_insertAll (m : Dict α) (es : List (String × α)) :
    (m.insertAll es).entries = es.foldl (fun base e => Entries.insert e.1 e.2 base) m.entries := by
  induction es generalizing m with
  | nil => rfl
  | cons e es ih => exact ih (m.insert e.1 e.2)

theorem mem_of_mem_insertAll {m : Dict α} {es : List (String × α)} {e : String × α}
    (h : e ∈ (m.insertAll es).entries) : e ∈ es ∨ e ∈ m.entries := by
  induction es generalizing m with
  | nil => exact .inr h
  | cons f es ih =>
    rcases ih (m := m.insert f.1 f.2) h with h | h
    · exact .inl (List.mem_cons_of_mem _ h)
    · rcases Entries.mem_of_mem_insert h with rfl | h
      · exact .inl List.mem_cons_self
      · exact .inr h

/-- The entries of a dictionary are among those that it was made of. -/
theorem mem_of_mem_ofList {es : List (String × α)} {e : String × α}
    (h : e ∈ (ofList es).entries) : e ∈ es :=
  (mem_of_mem_insertAll h).resolve_right List.not_mem_nil

theorem get?_insertAll_of_notMem {k : String} {es : List (String × α)}
    (h : k ∉ es.map Prod.fst) (m : Dict α) : (m.insertAll es).get? k = m.get? k := by
  induction es generalizing m with
  | nil => rfl
  | cons e es ih =>
    rw [List.map_cons, List.mem_cons, not_or] at h
    exact (ih h.2 (m.insert e.1 e.2)).trans (get?_insert_of_ne m h.1 e.2)

theorem get?_insertAll_of_mem {es : List (String × α)} (hnodup : (es.map Prod.fst).Nodup)
    {e : String × α} (he : e ∈ es) (m : Dict α) : (m.insertAll es).get? e.1 = some e.2 := by
  induction es generalizing m with
  | nil => exact absurd he List.not_mem_nil
  | cons f es ih =>
    obtain ⟨hnew, hrest⟩ := List.nodup_cons.mp hnodup
    rcases List.mem_cons.mp he with rfl | he
    · exact (get?_insertAll_of_notMem hnew _).trans (get?_insert_self m e.1 e.2)
    · exact ih hrest he (m.insert f.1 f.2)

/-- Entries under different keys do not get into each other's way. -/
theorem get?_ofList_of_mem {es : List (String × α)} (hnodup : (es.map Prod.fst).Nodup)
    {e : String × α} (he : e ∈ es) : (ofList es).get? e.1 = some e.2 :=
  get?_insertAll_of_mem hnodup he ∅

/-- A dictionary is made of its entries. -/
theorem ofList_entries (m : Dict α) : ofList m.entries = m :=
  ext fun k => by
    rw [ofList, get?_insertAll m.sorted, get?_empty, Option.or_none]
    rfl

end Dict

end OpenBadges
