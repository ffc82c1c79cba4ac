import Mathlib.Logic.Relation
import OpenBadges.Proofs.Calls

/-!
# What a store reaches

Say that `a` *reaches* `b` if it is `b` or waits for it, directly or through
others. Two questions are answered here in these terms. The search through the
waits finds out what a store reaches. And `t` can wait for some more stores, in
the sense that there still is a run order, exactly if none of them reaches `t`.

One half of that is that waits only lead to earlier places of a run order, so one
that leads from `t` back to `t` leaves no order. For the other half an order has
to be given. Take the one there was and move all that the new waits reach to the
front, without mixing it up: `t` is not among it, so nothing that `t` waits for is
behind it any more, and what was moved waits only for what was moved as well.
-/

namespace OpenBadges.Wiring

variable {η : Type}

/-! ## What a store reaches -/

/-- `a` is `b`, or waits for it, directly or through others. -/
def Reaches (w : Wiring η) : Token → Token → Prop :=
  Relation.ReflTransGen fun a b => b ∈ w.waitsFor a

/-- A store that is not registered waits for nobody. -/
theorem waitsFor_of_size_le {w : Wiring η} {t : Token} (h : w.size ≤ t) : w.waitsFor t = [] := by
  rw [waitsFor, List.getElem?_eq_none h]
  rfl

/--
A search with this stack may pass over the stores it has seen: all they wait for
is still on the stack, or has been seen as well and is not the target.
-/
def SeenThrough (w : Wiring η) (target : Token) (stack unseen : List Token) : Prop :=
  ∀ a, a ∉ unseen → ∀ b ∈ w.waitsFor a, b ∈ stack ∨ b ∉ unseen ∧ b ≠ target

namespace SeenThrough

variable {w : Wiring η} {target t : Token} {rest unseen : List Token}

/-- What a store waits for takes its place on the stack. -/
theorem expand (h : w.SeenThrough target (t :: rest) unseen) (hnodup : unseen.Nodup)
    (hne : t ≠ target) : w.SeenThrough target (w.waitsFor t ++ rest) (unseen.erase t) := by
  intro a ha b hb
  by_cases hat : a = t
  · exact .inl (List.mem_append_left _ (hat ▸ hb))
  · have ha' : a ∉ unseen := fun hmem => ha ((List.mem_erase_of_ne hat).mpr hmem)
    rcases h a ha' b hb with hstack | ⟨hb', hne'⟩
    · rcases List.mem_cons.mp hstack with rfl | hrest
      · exact .inr ⟨by simp [hnodup.mem_erase_iff], hne⟩
      · exact .inl (List.mem_append_right _ hrest)
    · exact .inr ⟨fun hmem => hb' (List.mem_of_mem_erase hmem), hne'⟩

/-- A store that has been seen is taken from the stack. -/
theorem skip (h : w.SeenThrough target (t :: rest) unseen) (ht : t ∉ unseen) (hne : t ≠ target) :
    w.SeenThrough target rest unseen := by
  intro a ha b hb
  rcases h a ha b hb with hstack | hb'
  · rcases List.mem_cons.mp hstack with rfl | hmem
    · exact .inr ⟨ht, hne⟩
    · exact .inl hmem
  · exact .inr hb'

/-- From a store that has been seen, a way to the target leads through the stack. -/
theorem exists_stack_reaches (h : w.SeenThrough target rest unseen) {a : Token}
    (hreach : w.Reaches a target) (ha : a ∉ unseen) (hne : a ≠ target) :
    ∃ s ∈ rest, w.Reaches s target := by
  induction hreach using Relation.ReflTransGen.head_induction_on with
  | refl => exact absurd rfl hne
  | head hab hb ih =>
    rcases h _ ha _ hab with hstack | ⟨hb', hne'⟩
    · exact ⟨_, hstack, hb⟩
    · exact ih hb' hne'

/-- It makes no difference if there is more on the stack, or in another order. -/
theorem mono (h : w.SeenThrough target rest unseen) {stack : List Token} (hsub : rest ⊆ stack) :
    w.SeenThrough target stack unseen :=
  fun a ha b hb => (h a ha b hb).imp_left fun hmem => hsub hmem

/-- A store that has been seen reaches the target only if another one on the stack does. -/
theorem exists_skip_reaches_iff (h : w.SeenThrough target (t :: rest) unseen) (ht : t ∉ unseen)
    (hne : t ≠ target) :
    (∃ s ∈ t :: rest, w.Reaches s target) ↔ ∃ s ∈ rest, w.Reaches s target := by
  rw [List.exists_mem_cons_iff]
  exact or_iff_right_of_imp fun hreach => (h.skip ht hne).exists_stack_reaches hreach ht hne

end SeenThrough

/-- A store other than the target reaches it through one that it waits for. -/
theorem exists_waitsFor_reaches_iff {w : Wiring η} {t target : Token} (hne : t ≠ target) :
    w.Reaches t target ↔ ∃ b ∈ w.waitsFor t, w.Reaches b target := by
  constructor
  · intro hreach
    rcases Relation.ReflTransGen.cases_head hreach with heq | ⟨b, hb, hreach⟩
    · exact absurd heq hne
    · exact ⟨b, hb, hreach⟩
  · rintro ⟨b, hb, hreach⟩
    exact .head hb hreach

/-- So on the stack it may give way to what it waits for. -/
theorem exists_expand_reaches_iff {w : Wiring η} {t target : Token} {rest : List Token}
    (hne : t ≠ target) :
    (∃ s ∈ t :: rest, w.Reaches s target) ↔ ∃ s ∈ w.waitsFor t ++ rest, w.Reaches s target := by
  rw [List.exists_mem_cons_iff, exists_waitsFor_reaches_iff hne]
  simp only [List.mem_append, or_and_right, exists_or]

/-- **The search finds out what the stack reaches.** -/
theorem search_eq_true_iff (w : Wiring η) (target : Token) (stack unseen : List Token)
    (hnodup : unseen.Nodup) (hseen : w.SeenThrough target stack unseen) :
    w.search target stack unseen = true ↔ ∃ s ∈ stack, w.Reaches s target := by
  induction stack, unseen using search.induct w target with
  | case1 unseen => simp [search]
  | case2 unseen rest =>
    rw [search, if_pos rfl]
    exact iff_of_true rfl ⟨target, List.mem_cons_self, .refl⟩
  | case3 unseen t rest hne ht ih =>
    rw [search, if_neg hne, dif_pos ht, ih (hnodup.erase t) (hseen.expand hnodup hne),
      exists_expand_reaches_iff hne]
  | case4 unseen t rest hne ht ih =>
    rw [search, if_neg hne, dif_neg ht, ih hnodup (hseen.skip ht hne),
      hseen.exists_skip_reaches_iff ht hne]

theorem dependsOn_iff {w : Wiring η} {a b : Token} : w.dependsOn a b = true ↔ w.Reaches a b := by
  rw [dependsOn, search_eq_true_iff w b [a] _ List.nodup_range]
  · simp
  · -- what is not among the stores waits for nobody
    intro c hc d hd
    rw [waitsFor_of_size_le (by simpa using hc)] at hd
    simp at hd

/-! ## Run orders and what a store reaches -/

namespace IsRunOrder

variable {w : Wiring η} {order : List Token}

/-- A store comes behind all that it waits for. -/
theorem idxOf_lt (h : w.IsRunOrder order) {a d : Token} (hd : d ∈ w.waitsFor a) :
    order.idxOf d < order.idxOf a := by
  have ha : a < w.size := by
    by_contra hge
    rw [waitsFor_of_size_le (Nat.le_of_not_lt hge)] at hd
    simp at hd
  obtain ⟨before, after, rfl, hnew⟩ := List.eq_append_cons_of_mem (h.mem_iff.mpr ha)
  have hbefore := h.respects before a after rfl d hd
  rw [List.idxOf_append_of_mem hbefore, List.idxOf_append_of_notMem hnew, List.idxOf_cons_self]
  exact Nat.lt_add_right _ (List.idxOf_lt_length_iff.mpr hbefore)

/-- Nothing comes before what it reaches. -/
theorem idxOf_le (h : w.IsRunOrder order) {a b : Token} (hab : w.Reaches a b) :
    order.idxOf b ≤ order.idxOf a := by
  induction hab with
  | refl => exact Nat.le_refl _
  | tail _ hbc ih => exact Nat.le_trans (Nat.le_of_lt (h.idxOf_lt hbc)) ih

/-- All that is waited for is registered. -/
theorem lt_of_mem_waitsFor (h : w.IsRunOrder order) {a d : Token} (hd : d ∈ w.waitsFor a) :
    d < w.size :=
  h.mem_iff.mp (List.idxOf_lt_length_iff.mp
    (Nat.lt_of_lt_of_le (h.idxOf_lt hd) List.idxOf_le_length))

/-- No store waits for one behind it. -/
theorem pairwise (h : w.IsRunOrder order) : order.Pairwise fun a b => b ∉ w.waitsFor a := by
  rw [List.pairwise_iff_getElem]
  intro i j hi hj hij hmem
  have hlt := h.idxOf_lt hmem
  rw [h.nodup.idxOf_getElem j hj, h.nodup.idxOf_getElem i hi] at hlt
  exact Nat.lt_asymm hij hlt

end IsRunOrder

/-- It is enough if no store waits for itself, for one behind it or for one that is missing. -/
theorem respectsWaits_of_pairwise {w : Wiring η} {order : List Token}
    (hall : ∀ a, ∀ d ∈ w.waitsFor a, d ∈ order) (hself : ∀ a, a ∉ w.waitsFor a)
    (hpair : order.Pairwise fun a b => b ∉ w.waitsFor a) : w.RespectsWaits order := by
  rintro before a after rfl d hd
  have hafter : d ∉ after := fun hmem =>
    (List.pairwise_cons.mp (List.pairwise_append.mp hpair).2.1).1 d hmem hd
  have hne : d ≠ a := fun heq => hself a (heq ▸ hd)
  simpa [hne, hafter] using hall a d hd

/-! ## Waits that can be declared -/

theorem mem_union {ds more : List Token} {d : Token} : d ∈ union ds more ↔ d ∈ ds ∨ d ∈ more := by
  induction more generalizing ds with
  | nil => simp [union]
  | cons e more ih =>
    rw [union, List.foldl_cons, ← union, ih]
    split
    · next he =>
        constructor
        · rintro (h | h)
          · exact .inl h
          · exact .inr (List.mem_cons_of_mem _ h)
        · rintro (h | h)
          · exact .inl h
          · rcases List.mem_cons.mp h with rfl | h
            · exact .inl he
            · exact .inr h
    · simp [or_assoc]

theorem size_withWaits (w : Wiring η) (t : Token) (ds : List Token) :
    (w.withWaits t ds).size = w.size := by
  simp [size, withWaits, setWaits]

/-- Declaring waits adds just these. -/
theorem mem_waitsFor_withWaits {w : Wiring η} {t : Token} (ht : t < w.size) {ds : List Token}
    {a d : Token} : d ∈ (w.withWaits t ds).waitsFor a ↔ d ∈ w.waitsFor a ∨ a = t ∧ d ∈ ds := by
  by_cases hat : a = t
  · subst hat
    have hwaits : (w.withWaits a ds).waitsFor a = union (w.waitsFor a) ds := by
      have hget := List.getElem?_eq_getElem (show a < w.registrations.length from ht)
      simp [waitsFor, withWaits, setWaits, hget]
    simp [hwaits, mem_union]
  · have hwaits : (w.withWaits t ds).waitsFor a = w.waitsFor a := by
      simp [waitsFor, withWaits, setWaits, Ne.symm hat]
    simp [hwaits, hat]

/-- Declaring more waits takes away none. -/
theorem Reaches.withWaits {w : Wiring η} {t : Token} (ht : t < w.size) (ds : List Token)
    {a b : Token} (h : w.Reaches a b) : (w.withWaits t ds).Reaches a b := by
  induction h with
  | refl => exact .refl
  | tail _ hd ih => exact ih.tail ((mem_waitsFor_withWaits ht).mpr (.inl hd))

/-- What the stores `ds` reach, in the order given, and then the others. -/
def broughtForward (w : Wiring η) (ds order : List Token) : List Token :=
  (order.filter fun a => ds.any (w.dependsOn · a)) ++
    order.filter fun a => !ds.any (w.dependsOn · a)

section Forward

variable {w : Wiring η} {order : List Token} (h : w.IsRunOrder order) {t : Token}
  (ht : t < w.size) {ds : List Token} (hnone : ∀ d ∈ ds, ¬w.Reaches d t)
include h ht hnone

theorem pairwise_broughtForward :
    (w.broughtForward ds order).Pairwise fun a b => b ∉ (w.withWaits t ds).waitsFor a := by
  have hreached : ∀ {a}, ds.any (w.dependsOn · a) = true ↔ ∃ d ∈ ds, w.Reaches d a := by
    simp [dependsOn_iff]
  rw [broughtForward, List.pairwise_append]
  refine ⟨(h.pairwise.filter _).imp_of_mem ?_, (h.pairwise.filter _).imp_of_mem ?_, ?_⟩
  · -- both are reached, so the first is not the store with the new waits
    intro a b ha _ hab hb
    rcases (mem_waitsFor_withWaits ht).mp hb with hb | ⟨rfl, -⟩
    · exact hab hb
    · obtain ⟨d, hd, hreach⟩ := hreached.mp (List.mem_filter.mp ha).2
      exact hnone d hd hreach
  · -- none is reached, so the second is none of those to wait for
    intro a b _ hb hab hmem
    rcases (mem_waitsFor_withWaits ht).mp hmem with hmem | ⟨-, hmem⟩
    · exact hab hmem
    · have hb' := (List.mem_filter.mp hb).2
      rw [hreached.mpr ⟨b, hmem, .refl⟩] at hb'
      exact absurd hb' (by simp)
  · -- what is reached waits for nothing that is not
    intro a ha b hb hmem
    obtain ⟨d, hd, hreach⟩ := hreached.mp (List.mem_filter.mp ha).2
    rcases (mem_waitsFor_withWaits ht).mp hmem with hmem | ⟨rfl, -⟩
    · have hb' := (List.mem_filter.mp hb).2
      rw [hreached.mpr ⟨d, hd, hreach.tail hmem⟩] at hb'
      exact absurd hb' (by simp)
    · exact hnone d hd hreach

/-- **If nothing that `t` is to wait for reaches it, there still is a run order.** -/
theorem isRunOrder_broughtForward (hds : ∀ d ∈ ds, d < w.size) :
    (w.withWaits t ds).IsRunOrder (w.broughtForward ds order) := by
  have hperm : (w.broughtForward ds order).Perm order := List.filter_append_perm _ order
  refine ⟨?_, respectsWaits_of_pairwise ?_ ?_ (pairwise_broughtForward h ht hnone)⟩
  · rw [size_withWaits]
    exact hperm.trans h.perm
  · intro a d hd
    rw [hperm.mem_iff, h.mem_iff]
    rcases (mem_waitsFor_withWaits ht).mp hd with hd | ⟨-, hd⟩
    · exact h.lt_of_mem_waitsFor hd
    · exact hds d hd
  · intro a ha
    rcases (mem_waitsFor_withWaits ht).mp ha with ha | ⟨rfl, ha'⟩
    · exact Nat.lt_irrefl _ (h.idxOf_lt ha)
    · exact hnone a ha' .refl

end Forward

/-- **New waits leave no order just if one of the stores waited for reaches the one that waits.** -/
theorem runOrder?_withWaits_eq_none_iff {w : Wiring η} {order : List Token}
    (h : w.IsRunOrder order) {t : Token} (ht : t < w.size) {ds : List Token}
    (hds : ∀ d ∈ ds, d < w.size) :
    (w.withWaits t ds).runOrder? = none ↔ ∃ d ∈ ds, w.Reaches d t := by
  rw [runOrder?_eq_none_iff]
  constructor
  · intro hno
    by_contra hnone
    exact hno _ (isRunOrder_broughtForward h ht (fun d hd hreach => hnone ⟨d, hd, hreach⟩) hds)
  · rintro ⟨d, hd, hreach⟩ other hother
    have hlt := hother.idxOf_lt ((mem_waitsFor_withWaits ht).mpr (.inr ⟨rfl, hd⟩))
    exact Nat.not_lt_of_le (hother.idxOf_le (hreach.withWaits ht ds)) hlt

end OpenBadges.Wiring
