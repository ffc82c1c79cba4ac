import OpenBadges.Json.Decoder

/-!
# Reading what was written

A value is *reread* if reading the document that is written for it gives it again.
Not every value is: reading puts the fields of an object in order, so a JSON value
that has them in another order does not come back. Those that have them in order,
in every part, are called canonical, and they are just the values that can be read.

For a reader and a writer of other values, the same is said in one notion
(`Rereads`): which values can be read, and that each of them is reread. Lists,
dictionaries and records inherit it from their parts.

One place needs care. `null` stands for an optional value that is missing, so one
that is there must not be written as `null`.
-/

namespace OpenBadges

/-! ## JSON values -/

/-- All objects in the value have their fields in order. -/
inductive Json.Canonical : Json → Prop where
  | null : Canonical .null
  | bool (b : Bool) : Canonical (.bool b)
  | num (n : Number) : Canonical (.num n)
  | str (s : String) : Canonical (.str s)
  | arr {vs : List Json} (items : ∀ v ∈ vs, Canonical v) : Canonical (.arr vs)
  | obj {fs : List (String × Json)} (sorted : Entries.Sorted fs)
      (values : ∀ f ∈ fs, Canonical f.2) : Canonical (.obj fs)

theorem Json.canonical_ofFields {fs : List (String × Json)} (h : ∀ f ∈ fs, f.2.Canonical) :
    (ofFields fs).Canonical := by
  rw [ofFields_eq]
  exact .obj (Dict.ofList fs).sorted fun f hf => h f (Dict.mem_of_mem_ofList hf)

namespace Document

theorem ofItems_eq (vs : List Json) : ofItems vs = vs.map ofJson := by
  induction vs with
  | nil => rfl
  | cons v vs ih => rw [ofItems, ih, List.map_cons]

theorem ofFields_eq (fs : List (String × Json)) :
    ofFields fs = fs.map fun f => (f.1, ofJson f.2) := by
  induction fs with
  | nil => rfl
  | cons f fs ih => rw [ofFields, ih, List.map_cons]

theorem itemValues?_ofItems {vs : List Json} (h : ∀ v ∈ vs, toJson? (ofJson v) = some v) :
    itemValues? (ofItems vs) = some vs := by
  induction vs with
  | nil => rfl
  | cons v vs ih =>
    rw [ofItems, itemValues?, h v List.mem_cons_self,
      ih fun v' hv' => h v' (List.mem_cons_of_mem _ hv')]
    rfl

theorem fieldValues?_ofFields {fs : List (String × Json)}
    (h : ∀ f ∈ fs, toJson? (ofJson f.2) = some f.2) : fieldValues? (ofFields fs) = some fs := by
  induction fs with
  | nil => rfl
  | cons f fs ih =>
    rw [ofFields, fieldValues?, h f List.mem_cons_self,
      ih fun f' hf' => h f' (List.mem_cons_of_mem _ hf')]
    rfl

/-- **A canonical value is the value of what is written for it.** -/
theorem toJson?_ofJson {v : Json} (h : v.Canonical) : toJson? (ofJson v) = some v := by
  induction h with
  | null => rfl
  | bool b => rfl
  | num n => rfl
  | str s => rfl
  | arr _ ih =>
    rw [ofJson, toJson?, itemValues?_ofItems ih]
    rfl
  | obj hsorted _ ih =>
    rw [ofJson, toJson?, fieldValues?_ofFields ih, Option.map_some,
      Json.ofFields_of_sorted hsorted]

mutual

/-- **The value of a document is canonical.** -/
theorem canonical_of_toJson? : ∀ {d : Document} {v : Json}, toJson? d = some v → v.Canonical
  | .null, _, h => by rw [toJson?] at h; cases h; exact .null
  | .bool b, _, h => by rw [toJson?] at h; cases h; exact .bool b
  | .num n, _, h => by rw [toJson?] at h; cases h; exact .num n
  | .str s, _, h => by rw [toJson?] at h; cases h; exact .str s
  | .arr items, _, h => by
    rw [toJson?, Option.map_eq_some_iff] at h
    obtain ⟨vs, hvs, rfl⟩ := h
    exact .arr (canonical_of_itemValues? hvs)
  | .obj fields, _, h => by
    rw [toJson?, Option.map_eq_some_iff] at h
    obtain ⟨fs, hfs, rfl⟩ := h
    exact Json.canonical_ofFields (canonical_of_fieldValues? hfs)
  | .unreadable, _, h => by rw [toJson?] at h; cases h

theorem canonical_of_itemValues? : ∀ {ds : List Document} {vs : List Json},
    itemValues? ds = some vs → ∀ v ∈ vs, v.Canonical
  | [], _, h, v, hv => by rw [itemValues?] at h; cases h; simp at hv
  | d :: ds, _, h, v, hv => by
    simp only [itemValues?, Option.bind_eq_bind, Option.bind_eq_some_iff, Option.pure_def,
      Option.some.injEq] at h
    obtain ⟨w, hw, ws, hws, rfl⟩ := h
    rcases List.mem_cons.mp hv with rfl | hv
    · exact canonical_of_toJson? hw
    · exact canonical_of_itemValues? hws v hv

theorem canonical_of_fieldValues? : ∀ {fs : List (String × Document)}
    {es : List (String × Json)}, fieldValues? fs = some es → ∀ e ∈ es, e.2.Canonical
  | [], _, h, e, he => by rw [fieldValues?] at h; cases h; simp at he
  | (k, d) :: fs, _, h, e, he => by
    simp only [fieldValues?, Option.bind_eq_bind, Option.bind_eq_some_iff, Option.pure_def,
      Option.some.injEq] at h
    obtain ⟨w, hw, es, hes, rfl⟩ := h
    rcases List.mem_cons.mp he with rfl | he
    · exact canonical_of_toJson? hw
    · exact canonical_of_fieldValues? hes e he

end

/-- Only `null` has the value `null`. -/
theorem eq_null_of_toJson? {d : Document} (h : toJson? d = some .null) : d = .null := by
  cases d with
  | null => rfl
  | bool b => simp [toJson?] at h
  | num n => simp [toJson?] at h
  | str s => simp [toJson?] at h
  | arr items => simp [toJson?] at h
  | obj fields => simp [toJson?, Json.ofFields] at h
  | unreadable => simp [toJson?] at h

end Document

/-! ## Plain values, lists and dictionaries -/

namespace Decoder

section Lists

variable {α β : Type}

theorem mapM_map_of {f : β → Option α} {g : α → β} {as : List α}
    (h : ∀ a ∈ as, f (g a) = some a) : (as.map g).mapM f = some as := by
  induction as with
  | nil => rfl
  | cons a as ih =>
    rw [List.map_cons, List.mapM_cons, h a List.mem_cons_self,
      ih fun b hb => h b (List.mem_cons_of_mem _ hb)]
    rfl

theorem exists_of_mem_mapM {f : β → Option α} {bs : List β} {as : List α}
    (h : bs.mapM f = some as) {a : α} (ha : a ∈ as) : ∃ b, f b = some a := by
  induction bs generalizing as with
  | nil =>
    cases h
    simp at ha
  | cons b bs ih =>
    simp only [List.mapM_cons, Option.bind_eq_bind, Option.bind_eq_some_iff, Option.pure_def,
      Option.some.injEq] at h
    obtain ⟨a', ha', as', has', rfl⟩ := h
    rcases List.mem_cons.mp ha with rfl | ha
    · exact ⟨b, ha'⟩
    · exact ih has' ha

end Lists

variable {α : Type} {decode : Decoder α} {encode : α → Json} {canonical : α → Prop}

/-- Just the canonical values can be read, and each of them is reread. -/
structure Rereads (decode : Decoder α) (encode : α → Json) (canonical : α → Prop) : Prop where
  /-- Whatever was read is read again from what is written for it. -/
  reread : ∀ {d a}, decode d = some a → decode (.ofJson (encode a)) = some a
  readable_iff : ∀ {a}, (∃ d, decode d = some a) ↔ canonical a

namespace Rereads

theorem of (hread : ∀ {d a}, decode d = some a → canonical a)
    (hwritten : ∀ {a}, canonical a → decode (.ofJson (encode a)) = some a) :
    Rereads decode encode canonical where
  reread := fun hd => hwritten (hread hd)
  readable_iff := ⟨fun ⟨_, hd⟩ => hread hd, fun ha => ⟨_, hwritten ha⟩⟩

/-- Values that are all reread can all be read. -/
theorem of_forall (h : ∀ a, decode (.ofJson (encode a)) = some a) :
    Rereads decode encode fun _ => True :=
  .of (fun _ => trivial) fun {a} _ => h a

variable (h : Rereads decode encode canonical)
include h

theorem canonical_of_decode {d : Document} {a : α} (hd : decode d = some a) : canonical a :=
  h.readable_iff.mp ⟨d, hd⟩

theorem decode_ofJson {a : α} (ha : canonical a) : decode (.ofJson (encode a)) = some a := by
  obtain ⟨d, hd⟩ := h.readable_iff.mpr ha
  exact h.reread hd

end Rereads

@[simp] theorem string_ofJson (s : String) : string (.ofJson (.str s)) = some s := rfl

@[simp] theorem bool_ofJson (b : Bool) : bool (.ofJson (.bool b)) = some b := rfl

theorem rereads_json : Rereads json id Json.Canonical :=
  .of Document.canonical_of_toJson? Document.toJson?_ofJson

theorem variant_ofJson {named : String → Option α} {text : α → String}
    (h : ∀ a, named (text a) = some a) (a : α) :
    variant named (.ofJson (.str (text a))) = some a := by
  rw [Document.ofJson, variant, h]

theorem list_ofJson {as : List α} (h : ∀ a ∈ as, decode (.ofJson (encode a)) = some a) :
    list decode (.ofJson (.arr (as.map encode))) = some as := by
  rw [Document.ofJson, Document.ofItems_eq, list, List.map_map]
  exact mapM_map_of h

theorem exists_of_list {d : Document} {as : List α} (h : list decode d = some as) {a : α}
    (ha : a ∈ as) : ∃ d', decode d' = some a := by
  cases d with
  | arr items => exact exists_of_mem_mapM h ha
  | _ => simp [list] at h

theorem Rereads.list (h : Rereads decode encode canonical) :
    Rereads (list decode) (fun as => .arr (as.map encode)) fun as => ∀ a ∈ as, canonical a := by
  refine .of (fun hd a ha => ?_) fun has => list_ofJson fun a ha => h.decode_ofJson (has a ha)
  obtain ⟨d', hd'⟩ := exists_of_list hd ha
  exact h.canonical_of_decode hd'

theorem dict_ofJson {m : Dict α}
    (h : ∀ e ∈ m.entries, decode (.ofJson (encode e.2)) = some e.2) :
    dict decode (.ofJson (.ofDict encode m)) = some m := by
  rw [Json.ofDict, Document.ofJson, Document.ofFields_eq, dict, List.map_map, mapM_map_of,
    Option.map_some, Dict.ofList_entries]
  intro e he
  simp [h e he]

theorem exists_of_dict {d : Document} {m : Dict α} (h : dict decode d = some m)
    {e : String × α} (he : e ∈ m.entries) : ∃ d', decode d' = some e.2 := by
  cases d with
  | obj fields =>
    rw [dict, Option.map_eq_some_iff] at h
    obtain ⟨es, hes, rfl⟩ := h
    obtain ⟨f, hf⟩ := exists_of_mem_mapM hes (Dict.mem_of_mem_ofList he)
    obtain ⟨a, ha, rfl⟩ := Option.map_eq_some_iff.mp hf
    exact ⟨f.2, ha⟩
  | _ => simp [dict] at h

theorem Rereads.dict (h : Rereads decode encode canonical) :
    Rereads (dict decode) (.ofDict encode) fun m => ∀ e ∈ m.entries, canonical e.2 := by
  refine .of (fun hd e he => ?_) fun hm => dict_ofJson fun e he => h.decode_ofJson (hm e he)
  obtain ⟨d', hd'⟩ := exists_of_dict hd he
  exact h.canonical_of_decode hd'

/-! ## Optional values -/

theorem optional_of_ne_null {d : Document} (h : d ≠ .null) :
    optional decode d = (decode d).map some := by
  cases d with
  | null => exact absurd rfl h
  | _ => rfl

theorem optional_ofJson {o : Option α}
    (h : ∀ a, o = some a → decode (.ofJson (encode a)) = some a ∧ encode a ≠ .null) :
    optional decode (.ofJson (.ofOption encode o)) = some o := by
  cases o with
  | none => rfl
  | some a =>
    obtain ⟨hread, hne⟩ := h a rfl
    have hdoc : Document.ofJson (encode a) ≠ .null := by
      intro hnull
      cases hv : encode a <;> simp [hv, Document.ofJson] at hnull hne
    rw [Json.ofOption, optional_of_ne_null hdoc, hread]
    rfl

/-- A text that may be missing. -/
@[simp] theorem optional_string_ofJson (o : Option String) :
    optional string (.ofJson (.ofOption .str o)) = some o :=
  optional_ofJson fun _ _ => ⟨rfl, by simp⟩

/-! ## Records -/

@[simp] theorem required_some (d : Document) : required decode (some d) = decode d := rfl

@[simp] theorem orDefault_some (default : α) (d : Document) :
    orDefault default decode (some d) = decode d := rfl

@[simp] theorem orNone_some (d : Document) : orNone decode (some d) = optional decode d := rfl

theorem exists_of_required {o : Option Document} {a : α} (h : required decode o = some a) :
    ∃ d, decode d = some a := by
  cases o with
  | none => simp [required] at h
  | some d => exact ⟨d, h⟩

theorem exists_of_orDefault {o : Option Document} {a default : α}
    (h : orDefault default decode o = some a) : a = default ∨ ∃ d, decode d = some a := by
  cases o with
  | none => exact .inl (Option.some.inj h).symm
  | some d => exact .inr ⟨d, h⟩

/-- A value of a field that may be missing was read from something other than `null`. -/
theorem exists_of_orNone {o : Option Document} {value : Option α} {a : α}
    (h : orNone decode o = some value) (ha : value = some a) :
    ∃ d, d ≠ .null ∧ decode d = some a := by
  subst ha
  rcases exists_of_orDefault h with h | ⟨d, h⟩
  · simp at h
  · by_cases hd : d = .null
    · subst hd
      simp [optional] at h
    · rw [optional_of_ne_null hd] at h
      exact ⟨d, hd, by simpa using h⟩

theorem lookup_map_ofJson (name : String) (es : List (String × Json)) :
    lookup name (es.map fun e => (e.1, Document.ofJson e.2)) =
      (Entries.find? name es).map .ofJson := by
  induction es with
  | nil => rfl
  | cons e es ih =>
    rw [List.map_cons, lookup, Entries.find?]
    split
    · rfl
    · exact ih

/-- In an object that was written, no field occurs twice. -/
theorem occurrences_map_ofJson (name : String) {es : List (String × Json)}
    (h : Entries.Sorted es) :
    occurrences name (es.map fun e => (e.1, Document.ofJson e.2)) ≤ 1 := by
  induction es with
  | nil => simp [occurrences]
  | cons e es ih =>
    obtain ⟨hhead, hrest⟩ := List.pairwise_cons.mp h
    rw [List.map_cons, occurrences, List.countP_cons, ← occurrences]
    by_cases he : e.1 = name
    · have hzero : occurrences name (es.map fun e => (e.1, Document.ofJson e.2)) = 0 := by
        rw [occurrences, List.countP_eq_zero]
        intro f hf
        obtain ⟨g, hg, rfl⟩ := List.mem_map.mp hf
        have hne : g.1 ≠ name := fun heq => String.lt_irrefl name (by
          have := hhead g hg
          rwa [heq, he] at this)
        simpa using hne
      rw [hzero]
      simp [he]
    · simpa [he] using ih hrest

/-- **A record that was written has just the fields that were written.** -/
theorem exists_fields_ofJson {names : List String} {fs : List (String × Json)}
    (hnodup : (fs.map Prod.fst).Nodup) :
    ∃ es, Document.ofJson (.ofFields fs) = .obj es ∧
      ∃ field, fields names es = some field ∧ ∀ f ∈ fs, field f.1 = some (.ofJson f.2) := by
  refine ⟨(Dict.ofList fs).entries.map fun e => (e.1, Document.ofJson e.2), ?_,
    fun name => lookup name ((Dict.ofList fs).entries.map fun e => (e.1, Document.ofJson e.2)),
    ?_, ?_⟩
  · rw [Json.ofFields_eq, Document.ofJson, Document.ofFields_eq]
  · rw [fields, if_pos]
    exact List.all_eq_true.mpr fun name _ =>
      decide_eq_true (occurrences_map_ofJson name (Dict.ofList fs).sorted)
  · intro f hf
    dsimp only
    rw [lookup_map_ofJson]
    exact congrArg (Option.map Document.ofJson) (Dict.get?_ofList_of_mem hnodup hf)

/-- To read a record that was written is to read the fields that were written. -/
theorem bind_record_ofJson {names : List String} {fs : List (String × Json)}
    {build : Record → Option α} {a : α}
    (h : ∀ field : Record, (∀ f ∈ fs, field f.1 = some (.ofJson f.2)) → build field = some a)
    (hnames : fs.map Prod.fst = names := by rfl) (hnodup : names.Nodup := by decide) :
    (record names (.ofJson (.ofFields fs)) >>= build) = some a := by
  obtain ⟨es, hes, field, hfield, hall⟩ := @exists_fields_ofJson names fs (hnames ▸ hnodup)
  rw [hes, record, hfield]
  exact h field hall

end Decoder

end OpenBadges
