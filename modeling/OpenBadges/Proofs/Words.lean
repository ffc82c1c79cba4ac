import OpenBadges.Action

/-!
# Words and categories of names

A name falls into words in one way only (`cut_iff`): capitals start words, and nothing else
does but the front of the name. So words from the front of a name, written together, fall
into the same words again (`Cut.front`), and this is what a category relies on. It is
spelled from the text of the words before the first verb, which has to be cut once more.
-/

namespace OpenBadges.ActionName

open Text

/-- `name` is made up of the words `ws`: none is empty, each but the first starts with a capital,
and behind the first character of a word there is none. -/
structure Cut (name : List Char) (ws : List (List Char)) : Prop where
  flatten : ws.flatten = name
  ne_nil : ∀ w ∈ ws, w ≠ []
  starts : ∀ w ∈ ws.tail, ∀ c ∈ w.head?, isUpper c = true
  inside : ∀ w ∈ ws, ∀ c ∈ w.tail, isUpper c = false

/-! ## The words of a name -/

theorem exists_words (c : Char) (cs : List Char) : ∃ w ws, words (c :: cs) = w :: ws := by
  unfold words
  split
  · split <;> exact ⟨_, _, rfl⟩
  · exact ⟨_, _, rfl⟩

theorem words_of_upper {c d : Char} (h : isUpper d = true) (cs : List Char) :
    words (c :: d :: cs) = [c] :: words (d :: cs) := by
  obtain ⟨w, ws, hw⟩ := exists_words d cs
  rw [words, if_pos h]
  · rw [hw]
  · exact hw

theorem words_of_not_upper {c d : Char} {cs w : List Char} {ws : List (List Char)}
    (h : isUpper d = false) (hw : words (d :: cs) = w :: ws) :
    words (c :: d :: cs) = (c :: w) :: ws := by
  rw [words, h, if_neg Bool.false_ne_true]
  exact hw

theorem cut_words (name : List Char) : Cut name (words name) := by
  induction name with
  | nil => exact ⟨rfl, nofun, nofun, nofun⟩
  | cons c cs ih =>
    cases cs with
    | nil => exact ⟨rfl, by simp [words], nofun, by simp [words]⟩
    | cons d cs =>
      obtain ⟨w, ws, hw⟩ := exists_words d cs
      rw [hw] at ih
      obtain ⟨w, rfl⟩ : ∃ w', w = d :: w' := by
        cases w with
        | nil => exact absurd rfl (ih.ne_nil [] List.mem_cons_self)
        | cons e w => exact ⟨w, by rw [(List.cons.inj ih.flatten).1]⟩
      have hinside := List.forall_mem_cons.mp ih.inside
      cases hd : isUpper d with
      | true =>
        rw [words_of_upper hd, hw]
        refine ⟨congrArg (c :: ·) ih.flatten, ?_, ?_, ?_⟩
        · exact List.forall_mem_cons.mpr ⟨List.cons_ne_nil _ _, ih.ne_nil⟩
        · refine List.forall_mem_cons.mpr ⟨?_, ih.starts⟩
          rintro e ⟨⟩
          exact hd
        · exact List.forall_mem_cons.mpr ⟨nofun, ih.inside⟩
      | false =>
        rw [words_of_not_upper hd hw]
        refine ⟨congrArg (c :: ·) ih.flatten, ?_, ih.starts, ?_⟩
        · exact List.forall_mem_cons.mpr
            ⟨List.cons_ne_nil _ _, (List.forall_mem_cons.mp ih.ne_nil).2⟩
        · exact List.forall_mem_cons.mpr ⟨List.forall_mem_cons.mpr ⟨hd, hinside.1⟩, hinside.2⟩

/-- A word ends where a capital or nothing follows. -/
theorem words_append {c : Char} {cs rest : List Char} (hcs : ∀ d ∈ cs, isUpper d = false)
    (hrest : ∀ d ∈ rest.head?, isUpper d = true) :
    words (c :: cs ++ rest) = (c :: cs) :: words rest := by
  induction cs generalizing c with
  | nil =>
    cases rest with
    | nil => rfl
    | cons d rest => exact words_of_upper (hrest d rfl) rest
  | cons d cs ih =>
    obtain ⟨hd, hcs⟩ := List.forall_mem_cons.mp hcs
    exact words_of_not_upper hd (ih hcs)

namespace Cut

variable {name : List Char}

theorem rest {w : List Char} {ws : List (List Char)} (h : Cut name (w :: ws)) :
    Cut ws.flatten ws where
  flatten := rfl
  ne_nil w' hw' := h.ne_nil w' (List.mem_cons_of_mem _ hw')
  starts w' hw' := h.starts w' (List.mem_of_mem_tail hw')
  inside w' hw' := h.inside w' (List.mem_cons_of_mem _ hw')

theorem front {before after : List (List Char)} (h : Cut name (before ++ after)) :
    Cut before.flatten before where
  flatten := rfl
  ne_nil w hw := h.ne_nil w (List.mem_append_left _ hw)
  starts w hw := by
    cases before with
    | nil => exact absurd hw List.not_mem_nil
    | cons b before => exact h.starts w (List.mem_append_left _ hw)
  inside w hw := h.inside w (List.mem_append_left _ hw)

/-- What follows the first word starts with a capital. -/
theorem head_rest {w : List Char} {ws : List (List Char)} (h : Cut name (w :: ws)) :
    ∀ c ∈ ws.flatten.head?, isUpper c = true := by
  cases ws with
  | nil => exact nofun
  | cons w' ws =>
    cases w' with
    | nil => exact absurd rfl (h.ne_nil [] (List.mem_cons_of_mem _ List.mem_cons_self))
    | cons c cs => exact h.starts (c :: cs) List.mem_cons_self

theorem eq_words {ws : List (List Char)} (h : Cut name ws) : ws = words name := by
  induction ws generalizing name with
  | nil =>
    rw [← h.flatten]
    rfl
  | cons w ws ih =>
    cases w with
    | nil => exact absurd rfl (h.ne_nil [] List.mem_cons_self)
    | cons c cs =>
      have hinside : ∀ d ∈ cs, isUpper d = false := h.inside (c :: cs) List.mem_cons_self
      rw [← h.flatten, List.flatten_cons, words_append hinside h.head_rest, ← ih h.rest]

theorem snake_eq {ws : List (List Char)} (h : Cut name ws) :
    snake name = joined '_' (ws.map lowercase) := by
  rw [snake, ← h.eq_words]

end Cut

/-- **There is one way to cut a name into words.** -/
theorem cut_iff {name : List Char} {ws : List (List Char)} : Cut name ws ↔ ws = words name :=
  ⟨Cut.eq_words, fun h => h ▸ cut_words name⟩

/-! ## Categories -/

theorem isVerb_eq_true_iff {w : List Char} : isVerb w = true ↔ w ∈ verbs := List.contains_iff_mem

theorem isSome_category?_iff {name : List Char} :
    (category? name).isSome ↔
      ∃ first later, words name = first :: later ∧ first ∉ verbs ∧ ∃ w ∈ later, w ∈ verbs := by
  rw [category?]
  cases words name with
  | nil => exact iff_of_false nofun nofun
  | cons first later =>
    have hcond : (isVerb first || !later.any isVerb) = false ↔
        first ∉ verbs ∧ ∃ w ∈ later, w ∈ verbs := by
      rw [Bool.or_eq_false_iff, Bool.not_eq_false', List.any_eq_true, ← Bool.not_eq_true]
      simp only [isVerb_eq_true_iff]
    dsimp only
    constructor
    · intro h
      refine ⟨first, later, rfl, hcond.mp (Bool.eq_false_iff.mpr fun hc => ?_)⟩
      rw [if_pos hc] at h
      exact Bool.false_ne_true h
    · rintro ⟨_, _, ⟨⟩, h⟩
      rw [hcond.mpr h]
      rfl

/-- The first of some words that is a verb. -/
theorem exists_first_verb {ws : List (List Char)} (h : ∃ w ∈ ws, w ∈ verbs) :
    ∃ before verb after, ws = before ++ verb :: after ∧ verb ∈ verbs ∧
      ∀ w ∈ before, w ∉ verbs := by
  simp only [← isVerb_eq_true_iff] at h ⊢
  obtain ⟨verb, hfind⟩ := Option.isSome_iff_exists.mp (List.find?_isSome.mpr h)
  obtain ⟨hverb, before, after, hsplit, hbefore⟩ := List.find?_eq_some_iff_append.mp hfind
  exact ⟨before, verb, after, hsplit, hverb, fun w hw => by simpa using hbefore w hw⟩

theorem category?_of_words {name first verb : List Char} {middle after : List (List Char)}
    (h : words name = first :: middle ++ verb :: after) (hfirst : first ∉ verbs)
    (hmiddle : ∀ w ∈ middle, w ∉ verbs) (hverb : verb ∈ verbs) :
    category? name = some (snake (first :: middle).flatten) := by
  simp only [← isVerb_eq_true_iff, Bool.not_eq_true] at hfirst hmiddle hverb
  have htake : (middle ++ verb :: after).takeWhile (fun w => !isVerb w) = middle := by
    rw [List.takeWhile_append_of_pos fun w hw => by rw [hmiddle w hw]; rfl,
      List.takeWhile_cons_of_neg (by rw [hverb]; exact Bool.false_ne_true), List.append_nil]
  have hany : (middle ++ verb :: after).any isVerb = true :=
    List.any_eq_true.mpr ⟨verb, List.mem_append_right _ List.mem_cons_self, hverb⟩
  rw [category?, h, List.cons_append]
  dsimp only
  rw [hfirst, hany, htake]
  rfl

theorem category?_eq_some_iff {name category : List Char} :
    category? name = some category ↔ ∃ before verb after,
      words name = before ++ verb :: after ∧ before ≠ [] ∧ (∀ w ∈ before, w ∉ verbs) ∧
        verb ∈ verbs ∧ category = snake before.flatten := by
  constructor
  · intro h
    obtain ⟨first, later, hwords, hfirst, hlater⟩ :=
      isSome_category?_iff.mp (Option.isSome_iff_exists.mpr ⟨category, h⟩)
    obtain ⟨middle, verb, after, rfl, hverb, hmiddle⟩ := exists_first_verb hlater
    have hcategory := category?_of_words hwords hfirst hmiddle hverb
    exact ⟨first :: middle, verb, after, hwords, List.cons_ne_nil _ _,
      List.forall_mem_cons.mpr ⟨hfirst, hmiddle⟩, hverb, Option.some.inj (h.symm.trans hcategory)⟩
  · rintro ⟨before, verb, after, hwords, hne, hbefore, hverb, rfl⟩
    cases before with
    | nil => exact absurd rfl hne
    | cons first middle =>
      obtain ⟨hfirst, hmiddle⟩ := List.forall_mem_cons.mp hbefore
      exact category?_of_words hwords hfirst hmiddle hverb

/-- A name in lower case is the lower case of its first words and of the others. -/
theorem snake_of_words {name : List Char} {before after : List (List Char)} {w : List Char}
    (h : words name = before ++ w :: after) (hne : before ≠ []) :
    snake before.flatten = joined '_' (before.map lowercase) ∧
      snake name = snake before.flatten ++ '_' :: joined '_' ((w :: after).map lowercase) := by
  have hcut : Cut name (before ++ w :: after) := cut_iff.mpr h.symm
  have hbefore : before.map lowercase ≠ [] := fun hnil => hne (List.map_eq_nil_iff.mp hnil)
  have hsnake := hcut.snake_eq
  rw [List.map_append, List.map_cons, joined_append hbefore (List.cons_ne_nil _ _)] at hsnake
  rw [hcut.front.snake_eq]
  exact ⟨rfl, hsnake⟩

/--
**The category of a name is what its words say before the first verb.**

There is one way to cut a name into words. It has a category just if its first word is no
verb and a later one is, and then the category is made of the words before the first
verb, in lower case with underscores between them. The name in lower case is the category, an
underscore, and the remaining words in the same way.
-/
theorem category?_before_verb (name : List Char) :
    ∃ ws, (∀ ws', Cut name ws' ↔ ws' = ws) ∧
      ((category? name).isSome ↔
        ∃ first later, ws = first :: later ∧ first ∉ verbs ∧ ∃ w ∈ later, w ∈ verbs) ∧
      ∀ category, category? name = some category ↔ ∃ before verb after,
        ws = before ++ verb :: after ∧ before ≠ [] ∧ (∀ w ∈ before, w ∉ verbs) ∧ verb ∈ verbs ∧
          category = joined '_' (before.map lowercase) ∧
          snake name = category ++ '_' :: joined '_' ((verb :: after).map lowercase) := by
  refine ⟨words name, fun ws' => cut_iff, isSome_category?_iff, fun category => ?_⟩
  rw [category?_eq_some_iff]
  constructor
  · rintro ⟨before, verb, after, hwords, hne, hbefore, hverb, rfl⟩
    obtain ⟨hcategory, hsnake⟩ := snake_of_words hwords hne
    exact ⟨before, verb, after, hwords, hne, hbefore, hverb, hcategory, hsnake⟩
  · rintro ⟨before, verb, after, hwords, hne, hbefore, hverb, rfl, _⟩
    exact ⟨before, verb, after, hwords, hne, hbefore, hverb, (snake_of_words hwords hne).1.symm⟩

/-- The second word of an active action is no verb. -/
example : category? "ActiveActionUpdated".toList = some "active_action".toList := by decide

end OpenBadges.ActionName
