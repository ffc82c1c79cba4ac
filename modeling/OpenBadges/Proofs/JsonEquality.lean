import OpenBadges.Json.Basic

/-!
# Equality of JSON values is an equivalence

`==` on JSON values is coarser than equality: the two zeros are one number. That
it is an equivalence all the same is what makes it fit to identify items with. The
proofs follow the three functions it is made of, for values, lists of values and
lists of fields.
-/

namespace OpenBadges

theorem Number.same_refl (m : Number) : m.same m = true := by
  cases m <;> simp [Number.same, Binary64.sameValue]

theorem Number.same_symm (m n : Number) : m.same n = n.same m := by
  cases m <;> cases n <;> simp [Number.same, Binary64.sameValue, eq_comm, Bool.and_comm]

theorem Number.same_trans {m n p : Number} (h₁ : m.same n = true) (h₂ : n.same p = true) :
    m.same p = true := by
  cases m with
  | int m =>
      cases n with
      | int n => rw [show m = n by simpa [Number.same] using h₁]; exact h₂
      | float y => exact absurd h₁ (by simp [Number.same])
  | float x =>
      cases n with
      | int n => exact absurd h₁ (by simp [Number.same])
      | float y =>
          cases p with
          | int p => exact absurd h₂ (by simp [Number.same])
          | float z =>
              simp only [Number.same, Binary64.sameValue, Bool.or_eq_true, decide_eq_true_eq,
                Bool.and_eq_true] at h₁ h₂ ⊢
              rcases h₁ with rfl | ⟨hx, hy⟩
              · exact h₂
              · rcases h₂ with rfl | ⟨_, hz⟩
                · exact .inr ⟨hx, hy⟩
                · exact .inr ⟨hx, hz⟩

namespace Json

mutual

theorem same_refl : ∀ a : Json, same a a = true
  | null => rfl
  | bool b => by simp [same]
  | num m => by rw [same]; exact m.same_refl
  | str s => by simp [same]
  | arr as => by rw [same]; exact sameItems_refl as
  | obj fs => by rw [same]; exact sameFields_refl fs

theorem sameItems_refl : ∀ as : List Json, sameItems as as = true
  | [] => rfl
  | a :: as => by rw [sameItems, same_refl a, sameItems_refl as]; rfl

theorem sameFields_refl : ∀ fs : List (String × Json), sameFields fs fs = true
  | [] => rfl
  | (k, a) :: fs => by rw [sameFields, same_refl a, sameFields_refl fs]; simp

end

mutual

theorem same_symm : ∀ a b : Json, same a b = same b a
  | null, b => by cases b <;> rfl
  | bool x, b => by cases b <;> simp [same, eq_comm]
  | num m, b => by cases b <;> simp [same, Number.same_symm]
  | str s, b => by cases b <;> simp [same, eq_comm]
  | arr as, b => by
      cases b with
      | arr bs => rw [same, same, sameItems_symm as bs]
      | _ => rfl
  | obj fs, b => by
      cases b with
      | obj gs => rw [same, same, sameFields_symm fs gs]
      | _ => rfl

theorem sameItems_symm : ∀ as bs : List Json, sameItems as bs = sameItems bs as
  | [], bs => by cases bs <;> rfl
  | a :: as, bs => by
      cases bs with
      | nil => rfl
      | cons b bs => rw [sameItems, sameItems, same_symm a b, sameItems_symm as bs]

theorem sameFields_symm : ∀ fs gs : List (String × Json), sameFields fs gs = sameFields gs fs
  | [], gs => by cases gs <;> rfl
  | (k, a) :: fs, gs => by
      cases gs with
      | nil => rfl
      | cons g gs =>
          obtain ⟨l, b⟩ := g
          have hkey : decide (k = l) = decide (l = k) := decide_eq_decide.mpr eq_comm
          rw [sameFields, sameFields, same_symm a b, sameFields_symm fs gs, hkey]

end

mutual

theorem same_trans : ∀ {a b c : Json}, same a b = true → same b c = true → same a c = true
  | null, b, c => by
      intro h₁ h₂
      cases b with
      | null => exact h₂
      | _ => exact absurd h₁ (by simp [same])
  | bool x, b, c => by
      intro h₁ h₂
      cases b with
      | bool y => rw [show x = y by simpa [same] using h₁]; exact h₂
      | _ => exact absurd h₁ (by simp [same])
  | num m, b, c => by
      intro h₁ h₂
      cases b with
      | num n =>
          cases c with
          | num p =>
              rw [same] at h₁ h₂ ⊢
              exact Number.same_trans h₁ h₂
          | _ => exact absurd h₂ (by simp [same])
      | _ => exact absurd h₁ (by simp [same])
  | str s, b, c => by
      intro h₁ h₂
      cases b with
      | str t => rw [show s = t by simpa [same] using h₁]; exact h₂
      | _ => exact absurd h₁ (by simp [same])
  | arr as, b, c => by
      intro h₁ h₂
      cases b with
      | arr bs =>
          cases c with
          | arr cs =>
              rw [same] at h₁ h₂ ⊢
              exact sameItems_trans h₁ h₂
          | _ => exact absurd h₂ (by simp [same])
      | _ => exact absurd h₁ (by simp [same])
  | obj fs, b, c => by
      intro h₁ h₂
      cases b with
      | obj gs =>
          cases c with
          | obj hs =>
              rw [same] at h₁ h₂ ⊢
              exact sameFields_trans h₁ h₂
          | _ => exact absurd h₂ (by simp [same])
      | _ => exact absurd h₁ (by simp [same])

theorem sameItems_trans : ∀ {as bs cs : List Json}, sameItems as bs = true →
    sameItems bs cs = true → sameItems as cs = true
  | [], bs, cs => by
      intro h₁ h₂
      cases bs with
      | nil => exact h₂
      | cons b bs => exact absurd h₁ (by simp [sameItems])
  | a :: as, bs, cs => by
      intro h₁ h₂
      cases bs with
      | nil => exact absurd h₁ (by simp [sameItems])
      | cons b bs =>
          cases cs with
          | nil => exact absurd h₂ (by simp [sameItems])
          | cons c cs =>
              rw [sameItems, Bool.and_eq_true] at h₁ h₂ ⊢
              exact ⟨same_trans h₁.1 h₂.1, sameItems_trans h₁.2 h₂.2⟩

theorem sameFields_trans : ∀ {fs gs hs : List (String × Json)}, sameFields fs gs = true →
    sameFields gs hs = true → sameFields fs hs = true
  | [], gs, hs => by
      intro h₁ h₂
      cases gs with
      | nil => exact h₂
      | cons g gs => exact absurd h₁ (by simp [sameFields])
  | (k, a) :: fs, gs, hs => by
      intro h₁ h₂
      cases gs with
      | nil => exact absurd h₁ (by simp [sameFields])
      | cons g gs =>
          obtain ⟨l, b⟩ := g
          cases hs with
          | nil => exact absurd h₂ (by simp [sameFields])
          | cons c hs =>
              obtain ⟨m, c⟩ := c
              simp only [sameFields, Bool.and_eq_true, decide_eq_true_eq] at h₁ h₂ ⊢
              exact ⟨⟨h₁.1.1.trans h₂.1.1, same_trans h₁.1.2 h₂.1.2⟩,
                sameFields_trans h₁.2 h₂.2⟩

end

/-- A value that equals `null` is `null`. -/
theorem isNull_congr {a b : Json} (h : same a b = true) : a.isNull = b.isNull := by
  cases a with
  | null =>
      cases b with
      | null => rfl
      | _ => exact absurd h (by simp [same])
  | _ =>
      cases b with
      | null => exact absurd h (by simp [same])
      | _ => rfl

end Json

end OpenBadges
