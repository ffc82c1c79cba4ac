import OpenBadges.Proofs.Reachability

/-!
# How a search goes

Whether a store waits for another one is found out by a search: there is a stack of the
stores to look at and a flag for each store, which says whether it has been expanded.
For a token that no store has there is neither a flag nor anything to wait for. So the
search is taken apart here into single looks at the stack (`look`), and to be `lost` at
such a token is an outcome of its own. `dependsOn` does not tell: it takes such a store
for one that waits for nobody.

If all that is waited for is registered, no search gets lost, because nothing else is
ever put on the stack. Nor does it go on forever, although the stack may grow at every
look and the waits may go round in circles. What counts is the stack together with the
waits of the stores that have not been expanded (`work`): a store moves its waits to the
stack when it is expanded, once, and each look takes one store off the stack. So there
are at most two looks more than there are waits. The answer is right by the invariant of
`SeenThrough`, and so it is the one of `dependsOn`.

No run order is needed for any of this.
-/

namespace OpenBadges.Wiring

/-- Where a search stands. -/
structure Frontier where
  /-- The stores to look at, the next one first. -/
  stack : List Token
  /-- For each store, whether it has been expanded. -/
  expanded : List Bool

/-- What a look at the next store comes to. -/
inductive Look where
  | answer (found : Bool)
  | goOn (f : Frontier)
  /-- No store has this token. -/
  | lost (t : Token)

variable {η : Type}

/-- Looks at the next store. When it is expanded, the last that it waits for comes next. -/
def look (w : Wiring η) (target : Token) (f : Frontier) : Look :=
  match f.stack with
  | [] => .answer false
  | t :: rest =>
    if t = target then .answer true
    else match f.expanded[t]?, w.registrations[t]? with
      | some true, _ => .goOn { f with stack := rest }
      | some false, some r => .goOn ⟨r.waitsFor.reverse ++ rest, f.expanded.set t true⟩
      | _, _ => .lost t

/-- A search that stands at `f` ends with this answer, and this is the number of looks it takes. -/
inductive Answers (w : Wiring η) (target : Token) : Frontier → Nat → Bool → Prop where
  | now {f : Frontier} {found : Bool} : w.look target f = .answer found → Answers w target f 1 found
  | later {f f' : Frontier} {looks : Nat} {found : Bool} : w.look target f = .goOn f' →
      Answers w target f' looks found → Answers w target f (looks + 1) found

/-- Where a search from `t` starts. -/
def searchFrom (w : Wiring η) (t : Token) : Frontier := ⟨[t], List.replicate w.size false⟩

/-- How many waits there are, with all repetitions. -/
def waitCount (w : Wiring η) : Nat := ((List.range w.size).flatMap w.waitsFor).length

/-! ## Wirings without unknown tokens -/

/-- All that is waited for is registered. -/
def Known (w : Wiring η) : Prop := ∀ r ∈ w.registrations, ∀ d ∈ r.waitsFor, d < w.size

instance (w : Wiring η) : Decidable w.Known :=
  inferInstanceAs (Decidable (∀ r ∈ w.registrations, ∀ d ∈ r.waitsFor, d < w.size))

theorem exists_registration {w : Wiring η} {t : Token} (ht : t < w.size) :
    ∃ r ∈ w.registrations, w.registrations[t]? = some r ∧ w.waitsFor t = r.waitsFor := by
  have hget := List.getElem?_eq_getElem (show t < w.registrations.length from ht)
  exact ⟨_, List.getElem_mem ht, hget, by rw [waitsFor, hget]; rfl⟩

/-- Any calls lead to such a wiring. -/
theorem known_afterCalls (calls : List (Call η)) : (afterCalls calls).Known := by
  intro r hr d hd
  have hrun := (runOrder?_eq_some_iff.mp (settled_afterCalls calls)).toIsRunOrder
  obtain ⟨t, hget⟩ := List.mem_iff_getElem?.mp hr
  refine hrun.lt_of_mem_waitsFor (a := t) ?_
  rw [waitsFor, hget]
  exact hd

/-! ## One look -/

/-- The flags of a search say which stores are `unseen`, and its stack has what they leave open. -/
structure Tracks (w : Wiring η) (target : Token) (f : Frontier) (unseen : List Token) : Prop where
  nodup : unseen.Nodup
  flags : ∀ t < w.size, f.expanded[t]? = some (decide (t ∉ unseen))
  known : ∀ t ∈ f.stack, t < w.size
  seenThrough : w.SeenThrough target f.stack unseen

namespace Tracks

variable {w : Wiring η} {target t : Token} {rest unseen : List Token} {expanded : List Bool}

/-- In the beginning, all stores are unseen. -/
theorem init (target : Token) (ht : t < w.size) :
    w.Tracks target (w.searchFrom t) (List.range w.size) where
  nodup := List.nodup_range
  flags := by
    intro s hs
    simp [searchFrom, hs]
  known := by
    intro s hs
    rwa [List.mem_singleton.mp hs]
  seenThrough := by
    intro s hs d hd
    rw [waitsFor_of_size_le (by simpa using hs)] at hd
    exact absurd hd List.not_mem_nil

/-- A store that has been seen is passed over. -/
theorem skip (h : w.Tracks target ⟨t :: rest, expanded⟩ unseen) (ht : t ∉ unseen)
    (hne : t ≠ target) :
    w.look target ⟨t :: rest, expanded⟩ = .goOn ⟨rest, expanded⟩ ∧
      w.Tracks target ⟨rest, expanded⟩ unseen := by
  have hflag : expanded[t]? = some true := by
    rw [h.flags t (h.known t List.mem_cons_self), decide_eq_true ht]
  refine ⟨by simp [look, hne, hflag], h.nodup, h.flags, ?_, h.seenThrough.skip ht hne⟩
  exact fun s hs => h.known s (List.mem_cons_of_mem _ hs)

/-- A store that has not been seen is expanded. -/
theorem expand (h : w.Tracks target ⟨t :: rest, expanded⟩ unseen) (known : w.Known)
    (ht : t ∈ unseen) (hne : t ≠ target) :
    w.look target ⟨t :: rest, expanded⟩ =
        .goOn ⟨(w.waitsFor t).reverse ++ rest, expanded.set t true⟩ ∧
      w.Tracks target ⟨(w.waitsFor t).reverse ++ rest, expanded.set t true⟩ (unseen.erase t) := by
  have hflag : expanded[t]? = some false := by
    rw [h.flags t (h.known t List.mem_cons_self), decide_eq_false (not_not_intro ht)]
  obtain ⟨r, hr, hget, hwaits⟩ := exists_registration (h.known t List.mem_cons_self)
  refine ⟨by simp [look, hne, hflag, hget, hwaits], h.nodup.erase t, ?_, ?_, ?_⟩
  · -- its own flag is set, and the others are as they were
    intro s hs
    rw [List.getElem?_set]
    by_cases hst : t = s
    · have hlt : t < expanded.length := (List.getElem?_eq_some_iff.mp hflag).1
      simp [← hst, hlt, h.nodup.mem_erase_iff]
    · rw [if_neg hst, h.flags s hs]
      simp [List.mem_erase_of_ne (Ne.symm hst)]
  · intro s hs
    rcases List.mem_append.mp hs with hs | hs
    · exact known r hr s (hwaits ▸ List.mem_reverse.mp hs)
    · exact h.known s (List.mem_cons_of_mem _ hs)
  · exact (h.seenThrough.expand h.nodup hne).mono fun d hd => by simpa using hd

end Tracks

/-! ## All looks -/

/-- The stores to look at now, and those that will be put on the stack as others are expanded. -/
def work (w : Wiring η) (f : Frontier) (unseen : List Token) : Nat :=
  f.stack.length + (unseen.flatMap w.waitsFor).length

/-- What a store waits for is work that is done when it is expanded. -/
theorem length_flatMap_erase {w : Wiring η} {t : Token} {unseen : List Token} (ht : t ∈ unseen) :
    (unseen.flatMap w.waitsFor).length =
      (w.waitsFor t).length + ((unseen.erase t).flatMap w.waitsFor).length := by
  rw [((List.perm_cons_erase ht).flatMap_right w.waitsFor).length_eq, List.flatMap_cons,
    List.length_append]

/--
A look at a store that is not the target does a piece of the work, and does not change whether
the stack reaches the target.
-/
theorem Tracks.exists_goOn {w : Wiring η} (known : w.Known) {target t : Token}
    {rest unseen : List Token} {expanded : List Bool}
    (h : w.Tracks target ⟨t :: rest, expanded⟩ unseen) (hne : t ≠ target) :
    ∃ f' unseen', w.look target ⟨t :: rest, expanded⟩ = .goOn f' ∧ w.Tracks target f' unseen' ∧
      w.work f' unseen' + 1 = w.work ⟨t :: rest, expanded⟩ unseen ∧
      ((∃ s ∈ f'.stack, w.Reaches s target) ↔ ∃ s ∈ t :: rest, w.Reaches s target) := by
  by_cases ht : t ∈ unseen
  · obtain ⟨hlook, h'⟩ := h.expand known ht hne
    refine ⟨_, _, hlook, h', ?_, ?_⟩
    · simp only [work, List.length_cons, List.length_append, List.length_reverse,
        length_flatMap_erase ht]
      omega
    · -- its waits are on the stack, though the other way round
      rw [exists_expand_reaches_iff hne]
      simp
  · obtain ⟨hlook, h'⟩ := h.skip ht hne
    refine ⟨_, _, hlook, h', ?_, (h.seenThrough.exists_skip_reaches_iff ht hne).symm⟩
    simp only [work, List.length_cons]
    omega

/-- **A search comes to an end, and answers whether its stack reaches the target.** -/
theorem Tracks.exists_answers {w : Wiring η} (known : w.Known) {target : Token} {f : Frontier}
    {unseen : List Token} (h : w.Tracks target f unseen) :
    ∃ looks ≤ w.work f unseen + 1, ∃ found, w.Answers target f looks found ∧
      (found = true ↔ ∃ s ∈ f.stack, w.Reaches s target) := by
  induction hwork : w.work f unseen generalizing f unseen with
  | zero =>
    obtain ⟨stack, expanded⟩ := f
    obtain rfl : stack = [] := List.length_eq_zero_iff.mp (Nat.eq_zero_of_add_eq_zero_right hwork)
    exact ⟨1, Nat.le_refl _, false, .now rfl, by simp⟩
  | succ n ih =>
    obtain ⟨stack, expanded⟩ := f
    cases stack with
    | nil => exact ⟨1, Nat.le_add_left _ _, false, .now rfl, by simp⟩
    | cons t rest =>
      by_cases hne : t = target
      · have hlook : w.look target ⟨t :: rest, expanded⟩ = .answer true := if_pos hne
        have hreach : ∃ s ∈ t :: rest, w.Reaches s target :=
          ⟨t, List.mem_cons_self, hne ▸ Relation.ReflTransGen.refl⟩
        exact ⟨1, Nat.le_add_left _ _, true, .now hlook, iff_of_true rfl hreach⟩
      · obtain ⟨f', unseen', hlook, h', hless, hreach⟩ := h.exists_goOn known hne
        obtain ⟨looks, hle, found, hanswers, hfound⟩ :=
          ih h' (Nat.succ.inj (hless.trans hwork))
        exact ⟨looks + 1, Nat.succ_le_succ hle, found, .later hlook hanswers,
          hfound.trans hreach⟩

/-- So when a call is refused, the search for the store to blame comes to an end. -/
theorem exists_answers_afterCalls (calls : List (Call η)) {a b : Token}
    (ha : a < (afterCalls calls).size) :
    ∃ looks found, (afterCalls calls).Answers b ((afterCalls calls).searchFrom a) looks found := by
  obtain ⟨looks, -, found, hanswers, -⟩ :=
    (Tracks.init b ha).exists_answers (known_afterCalls calls)
  exact ⟨looks, found, hanswers⟩

/--
**A search among known tokens never gets lost, comes to an end, and finds out what is reached.**

The waits may go round in circles and may be declared more than once. It makes no difference
whether the target is known.
-/
theorem answers_dependsOn {w : Wiring η} (known : w.Known) {a b : Token} (ha : a < w.size) :
    (∃ looks ≤ w.waitCount + 2, w.Answers b (w.searchFrom a) looks (w.dependsOn a b)) ∧
      (w.dependsOn a b = true ↔ w.Reaches a b) := by
  refine ⟨?_, dependsOn_iff⟩
  obtain ⟨looks, hle, found, hanswers, hfound⟩ := (Tracks.init b ha).exists_answers known
  have hwork : w.work (w.searchFrom a) (List.range w.size) = w.waitCount + 1 := Nat.add_comm _ _
  have hfound' : w.dependsOn a b = found := by
    rw [Bool.eq_iff_iff, dependsOn_iff, hfound]
    simp [searchFrom]
  rw [hwork] at hle
  exact ⟨looks, hle, hfound' ▸ hanswers⟩

/-- Two stores wait for each other, and one for itself; one waits for nobody. -/
def roundabout : Wiring Unit where
  registrations := [⟨"forms", (), [1, 1]⟩, ⟨"api", (), [0, 1, 1]⟩, ⟨"route", (), [3, 0]⟩,
    ⟨"user", (), []⟩]

/-- There is a way into the circle, and none out of it. -/
theorem answers_roundabout :
    (roundabout.Known ∧ 2 < roundabout.size) ∧
      (∃ looks ≤ 9, roundabout.Answers 1 (roundabout.searchFrom 2) looks true) ∧
      ∃ looks ≤ 9, roundabout.Answers 3 (roundabout.searchFrom 0) looks false := by
  have known : roundabout.Known := by decide
  have hin : roundabout.Reaches 2 1 := .head (b := 0) (by decide) (.single (by decide))
  have hout : ¬roundabout.Reaches 0 3 := by
    have hstay : ∀ d, roundabout.Reaches 0 d → d = 0 ∨ d = 1 := by
      intro d h
      induction h with
      | refl => exact .inl rfl
      | tail _ hd ih =>
        rcases ih with rfl | rfl
        · exact .inr (by simpa [roundabout, waitsFor] using hd)
        · simpa [roundabout, waitsFor] using hd
    exact fun h => absurd (hstay 3 h) (by decide)
  obtain ⟨⟨looks, hle, hanswers⟩, hfound⟩ :=
    answers_dependsOn known (a := 2) (b := 1) (by decide)
  obtain ⟨⟨looks', hle', hanswers'⟩, hfound'⟩ :=
    answers_dependsOn known (a := 0) (b := 3) (by decide)
  rw [hfound.mpr hin] at hanswers
  rw [Bool.eq_false_iff.mpr fun h => hout (hfound'.mp h)] at hanswers'
  exact ⟨⟨known, by decide⟩, ⟨looks, hle, hanswers⟩, looks', hle', hanswers'⟩

end OpenBadges.Wiring
