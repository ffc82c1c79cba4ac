import Mathlib.Data.List.Lex
import Mathlib.Data.List.Perm.Subperm
import OpenBadges.Flow.Wiring

/-!
# The least run order

`runOrder?` places one store after another, each time the first that is ready.
What it should come to is said here without any search: a run order has every
store once and after those it waits for, and the least of them is the one that
is smaller than all others when orders are compared store by store.

Both halves rest on one remark about the stores placed so far. Take any run order
of the whole wiring. The first store in it that has not been placed is *ready*,
because all it waits for comes before it there and so has been placed. Hence the
greedy search gets stuck only if there is no run order at all; and the store it
places is never greater than the one any run order has in that place.
-/

namespace OpenBadges.Wiring

variable {η : Type}

/-! ## What an order has to be -/

/-- Every store in the order comes after all those it waits for. -/
def RespectsWaits (w : Wiring η) (order : List Token) : Prop :=
  ∀ before t after, order = before ++ t :: after → ∀ d ∈ w.waitsFor t, d ∈ before

/-- Every store runs once, and after those it waits for. -/
structure IsRunOrder (w : Wiring η) (order : List Token) : Prop where
  /-- Every store is in the order, once. -/
  perm : order.Perm (List.range w.size)
  /-- No store runs before one that it waits for. -/
  respects : w.RespectsWaits order

/-- The run order that is smaller than any other, compared store by store. -/
structure IsLeastRunOrder (w : Wiring η) (order : List Token) : Prop extends
    IsRunOrder w order where
  /-- Any other run order has a greater store in the first place where they differ. -/
  least : ∀ other, w.IsRunOrder other → other ≠ order → List.Lex (· < ·) order other

/-- Stores that an order can begin with. -/
structure IsStart (w : Wiring η) (placed : List Token) : Prop where
  /-- No store is there twice. -/
  nodup : placed.Nodup
  /-- All of them are registered. -/
  lt : ∀ t ∈ placed, t < w.size
  /-- No store runs before one that it waits for. -/
  respects : w.RespectsWaits placed

/-- A store that can run next. -/
def Ready (w : Wiring η) (placed : List Token) (t : Token) : Prop :=
  t < w.size ∧ t ∉ placed ∧ ∀ d ∈ w.waitsFor t, d ∈ placed

theorem isStart_nil (w : Wiring η) : w.IsStart [] where
  nodup := List.nodup_nil
  lt := by simp
  respects := by intro before t after h; simp at h

/-- Adding a ready store keeps the waits. -/
theorem IsStart.snoc {w : Wiring η} {placed : List Token} {t : Token}
    (h : w.IsStart placed) (ht : w.Ready placed t) : w.IsStart (placed ++ [t]) := by
  obtain ⟨hlt, hnew, hwaits⟩ := ht
  refine ⟨?_, ?_, ?_⟩
  · rw [List.nodup_append]
    refine ⟨h.nodup, by simp, ?_⟩
    intro a ha b hb hab
    rw [List.mem_singleton.mp hb] at hab
    exact hnew (hab ▸ ha)
  · intro a ha
    rcases List.mem_append.mp ha with ha | ha
    · exact h.lt a ha
    · rw [List.mem_singleton.mp ha]; exact hlt
  · intro before a after heq
    rcases List.eq_nil_or_concat after with hnil | ⟨rest, last, hsnoc⟩
    · -- the new store itself
      subst hnil
      obtain ⟨hb, ha⟩ := List.append_inj' heq rfl
      obtain rfl : t = a := by simpa using ha
      rw [← hb]; exact hwaits
    · -- an old one: the new store is behind it
      subst hsnoc
      have hold : placed = before ++ a :: rest := by
        have := congrArg List.dropLast heq
        rwa [List.concat_eq_append, ← List.cons_append, ← List.append_assoc,
          List.dropLast_concat, List.dropLast_concat] at this
      exact h.respects before a rest hold

/-- A start that has all stores is a run order. -/
theorem IsStart.isRunOrder {w : Wiring η} {order : List Token} (h : w.IsStart order)
    (hlen : order.length = w.size) : w.IsRunOrder order := by
  refine ⟨?_, h.respects⟩
  have hsub : order ⊆ List.range w.size := fun t ht => List.mem_range.mpr (h.lt t ht)
  exact (List.subperm_of_subset h.nodup hsub).perm_of_length_le (by simp [hlen])

namespace IsRunOrder

variable {w : Wiring η} {order : List Token}

theorem nodup (h : w.IsRunOrder order) : order.Nodup :=
  h.perm.nodup_iff.mpr List.nodup_range

theorem mem_iff (h : w.IsRunOrder order) {t : Token} : t ∈ order ↔ t < w.size := by
  rw [h.perm.mem_iff, List.mem_range]

/-- A store is ready once all before it in a run order have been placed. -/
theorem ready (h : w.IsRunOrder order) {before after placed : List Token} {t : Token}
    (heq : order = before ++ t :: after) (hsub : ∀ a ∈ before, a ∈ placed) (ht : t ∉ placed) :
    w.Ready placed t :=
  ⟨h.mem_iff.mp (by rw [heq]; simp), ht,
    fun d hd => hsub d (h.respects before t after heq d hd)⟩

/-- **As long as a store is missing, a store is ready.** -/
theorem exists_ready (h : w.IsRunOrder order) {placed : List Token} {missing : Token}
    (hlt : missing < w.size) (hmem : missing ∉ placed) : ∃ t, w.Ready placed t := by
  -- the first store of the run order that has not been placed
  obtain ⟨t, ht⟩ := Option.isSome_iff_exists.mp (List.find?_isSome.mpr
    ⟨missing, h.mem_iff.mpr hlt, by simpa using hmem⟩ :
      (order.find? fun a => decide (a ∉ placed)).isSome)
  obtain ⟨hnew, before, after, heq, hbefore⟩ := List.find?_eq_some_iff_append.mp ht
  exact ⟨t, h.ready heq (fun a ha => by simpa using hbefore a ha) (by simpa using hnew)⟩

end IsRunOrder

/-! ## The greedy search -/

theorem nextReady?_eq_some {w : Wiring η} {placed : List Token} {t : Token} :
    w.nextReady? placed = some t ↔ w.Ready placed t ∧ ∀ a < t, ¬w.Ready placed a := by
  rw [nextReady?, List.find?_range_eq_some]
  simp only [Ready, decide_eq_true_eq, List.mem_range, Bool.not_eq_true', decide_eq_false_iff_not]
  constructor
  · rintro ⟨hp, hlt, hfirst⟩
    exact ⟨⟨hlt, hp⟩, fun a ha hready => hfirst a ha hready.2⟩
  · rintro ⟨⟨hlt, hp⟩, hfirst⟩
    exact ⟨hp, hlt, fun a ha hready => hfirst a ha ⟨Nat.lt_trans ha hlt, hready⟩⟩

/-- The search finds a store if one is ready. -/
theorem exists_nextReady? {w : Wiring η} {placed : List Token} (h : ∃ t, w.Ready placed t) :
    ∃ t, w.nextReady? placed = some t := by
  obtain ⟨t, hlt, ht⟩ := h
  rw [← Option.isSome_iff_exists, nextReady?, List.find?_isSome]
  exact ⟨t, List.mem_range.mpr hlt, decide_eq_true ht⟩

/-- What the search adds is a start again, and never greater than what a run order has there. -/
theorem runOrderFrom_eq_some {w : Wiring η} : ∀ (n : Nat) {placed order : List Token},
    w.IsStart placed → w.runOrderFrom n placed = some order →
    ∃ added, order = placed ++ added ∧ added.length = n ∧ w.IsStart order ∧
      ∀ other, w.IsRunOrder (placed ++ other) → other ≠ added → List.Lex (· < ·) added other := by
  intro n
  induction n with
  | zero =>
    intro placed order hstart h
    obtain rfl : placed = order := by simpa [runOrderFrom] using h
    refine ⟨[], by simp, rfl, hstart, ?_⟩
    intro other _ hne
    cases other with
    | nil => exact absurd rfl hne
    | cons a other => exact List.Lex.nil
  | succ n ih =>
    intro placed order hstart h
    rw [runOrderFrom, Option.bind_eq_some_iff] at h
    obtain ⟨t, hnext, h⟩ := h
    obtain ⟨hready, hfirst⟩ := nextReady?_eq_some.mp hnext
    obtain ⟨added, heq, hlen, hall, hleast⟩ := ih (hstart.snoc hready) h
    refine ⟨t :: added, by simp [heq], by simp [hlen], hall, ?_⟩
    intro other hother hne
    cases other with
    | nil =>
      -- nothing more would leave out the store that is ready
      rw [List.append_nil] at hother
      exact absurd (hother.mem_iff.mpr hready.1) hready.2.1
    | cons a other =>
      have hnew : a ∉ placed := fun ha =>
        (List.nodup_append.mp hother.nodup).2.2 a ha a (by simp) rfl
      have hle : t ≤ a := by
        rcases Nat.lt_or_ge a t with hlt | hge
        · exact absurd (hother.ready rfl (fun b hb => hb) hnew) (hfirst a hlt)
        · exact hge
      rcases Nat.lt_or_eq_of_le hle with hlt | rfl
      · exact List.Lex.rel hlt
      · refine List.Lex.cons (hleast other (by simpa using hother) ?_)
        intro h; exact hne (by rw [h])

/-- **The search comes to an end if there is a run order.** -/
theorem exists_runOrderFrom {w : Wiring η} {order : List Token} (h : w.IsRunOrder order) :
    ∀ (n : Nat) {placed : List Token}, w.IsStart placed → placed.length + n = w.size →
      ∃ o, w.runOrderFrom n placed = some o := by
  intro n
  induction n with
  | zero => intro placed _ _; exact ⟨placed, rfl⟩
  | succ n ih =>
    intro placed hstart hlen
    obtain ⟨missing, hlt, hmem⟩ : ∃ a, a < w.size ∧ a ∉ placed := by
      by_contra hno
      have hsub : List.range w.size ⊆ placed := fun a ha => by
        by_contra hmem
        exact hno ⟨a, List.mem_range.mp ha, hmem⟩
      have := (List.subperm_of_subset List.nodup_range hsub).length_le
      rw [List.length_range] at this
      omega
    obtain ⟨t, hnext⟩ := exists_nextReady? (h.exists_ready hlt hmem)
    obtain ⟨o, ho⟩ := ih (hstart.snoc (nextReady?_eq_some.mp hnext).1) (by simp; omega)
    exact ⟨o, by rw [runOrderFrom, hnext]; exact ho⟩

/-! ## The order of the whole wiring -/

theorem IsLeastRunOrder.unique {w : Wiring η} {o p : List Token} (ho : w.IsLeastRunOrder o)
    (hp : w.IsLeastRunOrder p) : o = p := by
  by_contra hne
  have h₁ := ho.least p hp.toIsRunOrder (Ne.symm hne)
  have h₂ := hp.least o ho.toIsRunOrder hne
  exact List.Lex.asymm (fun (a b : Nat) => a < b) |>.asymm _ _ h₁ h₂

/-- **The order that is worked out is the least run order.** -/
theorem runOrder?_eq_some_iff {w : Wiring η} {order : List Token} :
    w.runOrder? = some order ↔ w.IsLeastRunOrder order := by
  have sound : ∀ {o}, w.runOrder? = some o → w.IsLeastRunOrder o := by
    intro o h
    obtain ⟨added, heq, hlen, hall, hleast⟩ := runOrderFrom_eq_some w.size w.isStart_nil h
    obtain rfl : o = added := by simpa using heq
    exact ⟨hall.isRunOrder hlen, hleast⟩
  refine ⟨sound, fun h => ?_⟩
  obtain ⟨o, ho⟩ := exists_runOrderFrom h.toIsRunOrder w.size w.isStart_nil (by simp)
  rw [runOrder?, ho, h.unique (sound ho)]

/-- No order is worked out just when there is none. -/
theorem runOrder?_eq_none_iff {w : Wiring η} :
    w.runOrder? = none ↔ ∀ order, ¬w.IsRunOrder order := by
  constructor
  · intro h order horder
    obtain ⟨o, ho⟩ := exists_runOrderFrom horder w.size w.isStart_nil (by simp)
    rw [runOrder?, ho] at h
    exact Option.some_ne_none o h
  · intro h
    cases ho : w.runOrder? with
    | none => rfl
    | some o => exact absurd (runOrder?_eq_some_iff.mp ho).toIsRunOrder (h o)

end OpenBadges.Wiring
