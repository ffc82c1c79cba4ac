import OpenBadges.Action
import OpenBadges.Proofs.Words

/-!
# Types are told apart by their names

Cutting, lower case, joining and upper case each lose something, but not together, as long
as names are made of the letters and digits of ASCII. The underscores keep where the words
are, and a word knows the case of its characters: the first is a capital, and no other is.
So the type of an action can be read back from what it is called in logs and contracts, and
no two types are called the same.
-/

namespace OpenBadges.ActionName

open Text

/-- A capital of ASCII, followed by letters and digits of ASCII. -/
def PascalCase : List Char → Prop
  | [] => False
  | c :: cs => c.isUpper = true ∧ cs.all Char.isAlphanum = true

instance : DecidablePred PascalCase
  | [] => inferInstanceAs (Decidable False)
  | _ :: _ => inferInstanceAs (Decidable (_ ∧ _))

/-- A word of such a name: its only capital is the first character. -/
structure Capitalised (w : List Char) : Prop where
  head : ∃ c ∈ w.head?, c.isUpper = true
  tail : ∀ d ∈ w.tail, d.isAlphanum = true ∧ d.isUpper = false

/-- A word with its first character in upper case and the others in lower case. -/
def capitalised : List Char → List Char
  | [] => []
  | c :: cs => upper c ++ lowercase cs

/-- A character in lower case, and that in upper case. -/
def raised (c : Char) : List Char := uppercase (lower c)

/-! ## The letters and digits of ASCII -/

theorem lt_of_isAlphanum {c : Char} (h : c.isAlphanum = true) : c.toNat < 128 := by
  have hlt : ∀ last : Char, last.toNat < 128 → c.val ≤ last.val → c.toNat < 128 :=
    fun last hlast hle => Nat.lt_of_le_of_lt (UInt32.le_iff_toNat_le.mp hle) hlast
  rcases Bool.or_eq_true_iff.mp h with hletter | hdigit
  · rcases Bool.or_eq_true_iff.mp hletter with hupper | hlower
    · exact hlt 'Z' (by decide) (of_decide_eq_true hupper).2
    · exact hlt 'z' (by decide) (of_decide_eq_true (Bool.and_eq_true_iff.mp hlower).2)
  · exact hlt '9' (by decide) (of_decide_eq_true (Bool.and_eq_true_iff.mp hdigit).2)

/-- What holds of the characters of ASCII one by one holds of letters and digits. -/
theorem ascii_cases {P : Char → Prop} (h : ∀ n < 128, P (Char.ofNat n)) {c : Char}
    (hc : c.isAlphanum = true) : P c := by
  have hn := h c.toNat (lt_of_isAlphanum hc)
  rwa [Char.ofNat_toNat] at hn

theorem isUpper_of_isAlphanum {c : Char} (h : c.isAlphanum = true) : isUpper c = c.isUpper :=
  if_pos (lt_of_isAlphanum h)

theorem isAlphanum_of_isUpper {c : Char} (h : c.isUpper = true) : c.isAlphanum = true :=
  Bool.or_eq_true_iff.mpr (.inl (Bool.or_eq_true_iff.mpr (.inl h)))

theorem notMem_raised {c : Char} (h : c.isAlphanum = true) : '_' ∉ raised c :=
  ascii_cases (P := fun c => c.isAlphanum = true → '_' ∉ raised c) (by decide) h h

theorem raised_of_isUpper {c : Char} (h : c.isUpper = true) : raised c = [c] :=
  ascii_cases (P := fun c => c.isUpper = true → raised c = [c]) (by decide)
    (isAlphanum_of_isUpper h) h

theorem upper_of_isUpper {c : Char} (h : c.isUpper = true) : upper c = [c] :=
  ascii_cases (P := fun c => c.isUpper = true → upper c = [c]) (by decide)
    (isAlphanum_of_isUpper h) h

/-- Upper case is undone by lower case, but for a capital. -/
theorem lowercase_raised {c : Char} (h : c.isAlphanum = true) (hc : c.isUpper = false) :
    lowercase (raised c) = [c] :=
  ascii_cases (P := fun c => c.isUpper = false → lowercase (raised c) = [c]) (by decide) h hc

/-! ## Words of a name -/

theorem PascalCase.isAlphanum {name : List Char} (h : PascalCase name) :
    ∀ c ∈ name, c.isAlphanum = true := by
  cases name with
  | nil => exact nofun
  | cons c cs => exact List.forall_mem_cons.mpr ⟨isAlphanum_of_isUpper h.1, List.all_eq_true.mp h.2⟩

theorem PascalCase.ne_nil {name : List Char} (h : PascalCase name) : words name ≠ [] := by
  cases name with
  | nil => exact h.elim
  | cons c cs =>
    obtain ⟨w, ws, hw⟩ := exists_words c cs
    rw [hw]
    exact List.cons_ne_nil w ws

/-- Every word of a name starts with a capital, also the first. -/
theorem PascalCase.starts {name : List Char} (h : PascalCase name) :
    ∀ w ∈ words name, ∀ c ∈ w.head?, isUpper c = true := by
  cases name with
  | nil => exact h.elim
  | cons c cs =>
    obtain ⟨w, ws, hw⟩ := exists_words c cs
    have hcut := cut_words (c :: cs)
    rw [hw] at hcut ⊢
    refine List.forall_mem_cons.mpr ⟨fun d hd => ?_, hcut.starts⟩
    obtain ⟨ds, rfl⟩ : ∃ ds, w = d :: ds := List.head?_eq_some_iff.mp hd
    obtain rfl : d = c := (List.cons.inj hcut.flatten).1
    rw [isUpper_of_isAlphanum (isAlphanum_of_isUpper h.1)]
    exact h.1

theorem PascalCase.capitalised_of_mem {name w : List Char} (h : PascalCase name)
    (hw : w ∈ words name) : Capitalised w := by
  have hcut := cut_words name
  have hascii : ∀ c ∈ w, c.isAlphanum = true := fun c hc =>
    h.isAlphanum c (hcut.flatten ▸ List.mem_flatten_of_mem hw hc)
  cases w with
  | nil => exact absurd rfl (hcut.ne_nil [] hw)
  | cons c cs =>
    have hc : isUpper c = true := h.starts _ hw c rfl
    rw [isUpper_of_isAlphanum (hascii c List.mem_cons_self)] at hc
    refine ⟨⟨c, rfl, hc⟩, fun d hd => ?_⟩
    have hd' := hascii d (List.mem_cons_of_mem c hd)
    rw [← isUpper_of_isAlphanum hd']
    exact ⟨hd', hcut.inside _ hw d hd⟩

theorem Capitalised.isAlphanum {w : List Char} (h : Capitalised w) :
    ∀ c ∈ w, c.isAlphanum = true := by
  cases w with
  | nil => exact nofun
  | cons c cs =>
    obtain ⟨_, ⟨⟩, hc⟩ := h.head
    exact List.forall_mem_cons.mpr ⟨isAlphanum_of_isUpper hc, fun d hd => (h.tail d hd).1⟩

/-- A word is not lost in capitals, since it is known which of them it has itself. -/
theorem Capitalised.capitalised_flatMap_raised {w : List Char} (h : Capitalised w) :
    capitalised (w.flatMap raised) = w := by
  cases w with
  | nil => rfl
  | cons c cs =>
    obtain ⟨_, ⟨⟩, hc⟩ := h.head
    have htail : lowercase (cs.flatMap raised) = cs := by
      calc lowercase (cs.flatMap raised)
          = (cs.map fun d => lowercase (raised d)).flatten := by
            rw [lowercase, List.flatMap_assoc, List.flatMap_def]
            rfl
        _ = (cs.map fun d => [d]).flatten :=
            congrArg List.flatten (List.map_congr_left fun d hd =>
              lowercase_raised (h.tail d hd).1 (h.tail d hd).2)
        _ = cs := by rw [← List.flatMap_def, List.flatMap_singleton']
    rw [List.flatMap_cons, raised_of_isUpper hc, List.singleton_append, capitalised, htail,
      upper_of_isUpper hc, List.singleton_append]

/-! ## Reading a name back -/

theorem screaming_eq_joined (name : List Char) :
    screaming name = joined '_' ((words name).map (List.flatMap raised)) := by
  have hword : List.flatMap upper ∘ lowercase = List.flatMap raised :=
    funext fun w => List.flatMap_assoc
  rw [screaming, snake, uppercase, flatMap_joined (by decide), List.map_map, hword]

theorem PascalCase.segments_screaming {name : List Char} (h : PascalCase name) :
    segments '_' (screaming name) = (words name).map (List.flatMap raised) := by
  rw [screaming_eq_joined]
  refine segments_joined (fun hnil => h.ne_nil (List.map_eq_nil_iff.mp hnil)) ?_
  refine List.forall_mem_map.mpr fun w hw hmem => ?_
  obtain ⟨c, hc, hmem⟩ := List.mem_flatMap.mp hmem
  exact notMem_raised ((h.capitalised_of_mem hw).isAlphanum c hc) hmem

theorem PascalCase.capitalised_segments {name : List Char} (h : PascalCase name) :
    (segments '_' (screaming name)).map capitalised = words name := by
  have hback : ∀ w ∈ words name, (capitalised ∘ List.flatMap raised) w = w :=
    fun w hw => (h.capitalised_of_mem hw).capitalised_flatMap_raised
  rw [h.segments_screaming, List.map_map, List.map_congr_left hback, List.map_id']

theorem PascalCase.flatten_capitalised {name : List Char} (h : PascalCase name) :
    ((segments '_' (screaming name)).map capitalised).flatten = name := by
  rw [h.capitalised_segments, (cut_words name).flatten]

/--
**No two types are called the same.**

The words between the underscores of what a type is called, each with its first character in
upper case and the others in lower case, are the name of the type again. So different names
are called differently.
-/
theorem screaming_told_apart {name : List Char} (h : PascalCase name) :
    ((segments '_' (screaming name)).map capitalised).flatten = name ∧
      ∀ other, PascalCase other → other ≠ name → screaming other ≠ screaming name := by
  refine ⟨h.flatten_capitalised, fun other hother hne heq => hne ?_⟩
  rw [← hother.flatten_capitalised, heq, h.flatten_capitalised]

/-- An acronym does not read as a word. -/
theorem screaming_told_apart_acronym :
    PascalCase "ApiGetData2".toList ∧ PascalCase "APIGetData2".toList ∧
      ((segments '_' (screaming "ApiGetData2".toList)).map capitalised).flatten =
        "ApiGetData2".toList ∧
      screaming "APIGetData2".toList ≠ screaming "ApiGetData2".toList := by
  have hword : PascalCase "ApiGetData2".toList := by decide
  have hacronym : PascalCase "APIGetData2".toList := by decide
  obtain ⟨hback, hapart⟩ := screaming_told_apart hword
  exact ⟨hword, hacronym, hback, hapart _ hacronym (by decide)⟩

end OpenBadges.ActionName

namespace OpenBadges.Action

open ActionName

theorem pascalCase_title (a : Action) : PascalCase a.title.toList := by
  cases a <;> rw [title] <;> decide

/-- Actions are called the same just if they are of the same type. -/
theorem name_eq_name_iff {a b : Action} : a.name = b.name ↔ a.title = b.title := by
  constructor
  · intro h
    have hscreaming : screaming a.title.toList = screaming b.title.toList :=
      String.ofList_injective h
    rw [← String.toList_inj, ← (pascalCase_title a).flatten_capitalised, hscreaming,
      (pascalCase_title b).flatten_capitalised]
  · intro h
    rw [name, h, name]

end OpenBadges.Action
