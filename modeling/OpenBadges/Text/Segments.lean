/-!
# Segments between separators

A text cut at every occurrence of one character, and the way back. There is
always one segment more than there are separators, so the empty text has one
empty segment.
-/

namespace OpenBadges.Text

/-- The pieces of `cs` between the occurrences of `sep`. -/
def segments (sep : Char) : List Char → List (List Char)
  | [] => [[]]
  | c :: cs =>
    if c = sep then [] :: segments sep cs
    else match segments sep cs with
      | [] => [[c]]
      | s :: ss => (c :: s) :: ss

/-- The pieces one after another, with `sep` between any two. -/
def joined (sep : Char) : List (List Char) → List Char
  | [] => []
  | [s] => s
  | s :: s' :: ss => s ++ sep :: joined sep (s' :: ss)

/-- What stands before and after the first `sep`, if there is one. -/
def cutAt? (sep : Char) : List Char → Option (List Char × List Char)
  | [] => none
  | c :: cs =>
    if c = sep then some ([], cs)
    else (cutAt? sep cs).map fun (before, after) => (c :: before, after)

theorem segments_ne_nil (sep : Char) (cs : List Char) : segments sep cs ≠ [] := by
  cases cs with
  | nil => simp [segments]
  | cons c cs =>
    rw [segments]
    split
    · simp
    · split <;> simp

/-- There is one segment more than there are separators. -/
theorem length_segments (sep : Char) (cs : List Char) :
    (segments sep cs).length = cs.count sep + 1 := by
  induction cs with
  | nil => rfl
  | cons c cs ih =>
    rw [segments]
    by_cases h : c = sep
    · rw [if_pos h, List.length_cons, ih, h, List.count_cons_self]
    · rw [if_neg h, List.count_cons_of_ne h, ← ih]
      cases hs : segments sep cs with
      | nil => exact absurd hs (segments_ne_nil sep cs)
      | cons s ss => rfl

/-! ## Cutting what was joined -/

/-- At a separator, the texts before and after it are cut each on its own. -/
theorem segments_append_cons (sep : Char) (cs ds : List Char) :
    segments sep (cs ++ sep :: ds) = segments sep cs ++ segments sep ds := by
  induction cs with
  | nil => simp [segments]
  | cons c cs ih =>
    rw [List.cons_append, segments, segments]
    by_cases h : c = sep
    · rw [if_pos h, if_pos h, ih, List.cons_append]
    · rw [if_neg h, if_neg h, ih]
      cases hs : segments sep cs with
      | nil => exact absurd hs (segments_ne_nil sep cs)
      | cons s ss => rfl

theorem segments_of_notMem {sep : Char} {cs : List Char} (h : sep ∉ cs) :
    segments sep cs = [cs] := by
  induction cs with
  | nil => rfl
  | cons c cs ih =>
    have hc : c ≠ sep := fun hc => h (hc ▸ List.mem_cons_self)
    rw [segments, if_neg hc, ih fun hcs => h (List.mem_cons_of_mem _ hcs)]

/-- Joined pieces fall into the segments that each of them has. -/
theorem segments_joined_flatMap {sep : Char} {ss : List (List Char)} (h : ss ≠ []) :
    segments sep (joined sep ss) = ss.flatMap (segments sep) := by
  induction ss with
  | nil => exact absurd rfl h
  | cons s ss ih =>
    cases ss with
    | nil => simp [joined]
    | cons s' ss =>
      rw [joined, segments_append_cons, ih (List.cons_ne_nil _ _)]
      rfl

/-- Cutting a joined text gives the pieces again, if there is no separator in them. -/
theorem segments_joined {sep : Char} {ss : List (List Char)} (h : ss ≠ [])
    (hfree : ∀ s ∈ ss, sep ∉ s) : segments sep (joined sep ss) = ss := by
  have hsingle : ss.map (segments sep) = ss.map fun s => [s] :=
    List.map_congr_left fun s hs => segments_of_notMem (hfree s hs)
  rw [segments_joined_flatMap h, List.flatMap_def, hsingle, ← List.flatMap_def,
    List.flatMap_singleton']

/-- Where a separator is spelled by itself, joined pieces are spelled piece by piece. -/
theorem flatMap_joined {sep : Char} {f : Char → List Char} (hsep : f sep = [sep])
    (ss : List (List Char)) : (joined sep ss).flatMap f = joined sep (ss.map (List.flatMap f)) := by
  induction ss with
  | nil => rfl
  | cons s ss ih =>
    cases ss with
    | nil => rfl
    | cons s' ss =>
      rw [joined, List.flatMap_append, List.flatMap_cons, hsep, ih]
      rfl

theorem joined_append {sep : Char} {as bs : List (List Char)} (ha : as ≠ []) (hb : bs ≠ []) :
    joined sep (as ++ bs) = joined sep as ++ sep :: joined sep bs := by
  induction as with
  | nil => exact absurd rfl ha
  | cons a as ih =>
    cases as with
    | nil =>
      cases bs with
      | nil => exact absurd rfl hb
      | cons b bs => rfl
    | cons a' as =>
      rw [List.cons_append, List.cons_append, joined, ← List.cons_append, ih (List.cons_ne_nil _ _),
        joined, List.append_assoc, List.cons_append]

/-- No separator is left in a segment. -/
theorem notMem_of_mem_segments {sep : Char} {cs s : List Char} (h : s ∈ segments sep cs) :
    sep ∉ s := by
  induction cs generalizing s with
  | nil =>
    rw [List.mem_singleton.mp h]
    exact List.not_mem_nil
  | cons c cs ih =>
    rw [segments] at h
    split at h
    · rcases List.mem_cons.mp h with rfl | h
      · exact List.not_mem_nil
      · exact ih h
    · next hc =>
      split at h
      · next hs => exact absurd hs (segments_ne_nil sep cs)
      · next s' ss hs =>
        rw [hs] at ih
        rcases List.mem_cons.mp h with rfl | h
        · exact List.not_mem_cons_of_ne_of_not_mem (Ne.symm hc) (ih List.mem_cons_self)
        · exact ih (List.mem_cons_of_mem _ h)

theorem segments_cons_of_ne {sep c : Char} (hc : c ≠ sep) {cs s : List Char}
    {ss : List (List Char)} (h : segments sep cs = s :: ss) :
    segments sep (c :: cs) = (c :: s) :: ss := by
  rw [segments, if_neg hc, h]

/-! ## Cutting once -/

/-- A text is cut at its first separator. -/
theorem cutAt?_eq_some_iff {sep : Char} {cs before after : List Char} :
    cutAt? sep cs = some (before, after) ↔ cs = before ++ sep :: after ∧ sep ∉ before := by
  induction cs generalizing before with
  | nil => simp [cutAt?]
  | cons c cs ih =>
    rw [cutAt?]
    by_cases hc : c = sep
    · subst hc
      rw [if_pos rfl]
      cases before with
      | nil => simp
      | cons b before =>
        simp only [Option.some.injEq, Prod.mk.injEq, List.nil_eq, reduceCtorEq, false_and,
          List.cons_append, List.cons.injEq, List.mem_cons, not_or, false_iff]
        exact fun h => h.2.1 h.1.1
    · rw [if_neg hc]
      cases before with
      | nil => simp [hc]
      | cons b before =>
        rw [Option.map_eq_some_iff]
        constructor
        · rintro ⟨⟨before', after'⟩, hcut, heq⟩
          cases heq
          obtain ⟨rfl, hfree⟩ := ih.mp hcut
          exact ⟨rfl, List.not_mem_cons_of_ne_of_not_mem (Ne.symm hc) hfree⟩
        · rintro ⟨heq, hfree⟩
          cases heq
          exact ⟨(before, after), ih.mpr ⟨rfl, fun h => hfree (List.mem_cons_of_mem _ h)⟩, rfl⟩

/-- A text without the separator is not cut. -/
theorem cutAt?_eq_none_iff {sep : Char} {cs : List Char} : cutAt? sep cs = none ↔ sep ∉ cs := by
  induction cs with
  | nil => simp [cutAt?]
  | cons c cs ih =>
    rw [cutAt?]
    by_cases hc : c = sep
    · simp [hc]
    · simp [hc, ih, Ne.symm hc]

/-!
## Tables of characters

Thousands of characters are too many for a list in a program, so the large tables
are texts: rows of hexadecimal numbers with commas between them, and blanks or
line breaks between the rows. Most rows start with the first and the last
character of a run.
-/

/-- The value of a hexadecimal digit; letters are capitals. -/
def capitalHexValue (c : Char) : Nat :=
  if c.isDigit then c.toNat - '0'.toNat else c.toNat - 'A'.toNat + 10

/-- The number that hexadecimal digits write. -/
def hexNumber (cs : List Char) : Nat := cs.foldl (fun n c => 16 * n + capitalHexValue c) 0

def readRows (table : String) : List (List Nat) :=
  let pieces := segments ' ' (table.toList.map fun c => if c = '\n' then ' ' else c)
  (pieces.filter (!·.isEmpty)).map fun row => (segments ',' row).map hexNumber

/-- Whether a row starts with the ends of a run that `n` lies in. -/
def inRun (n : Nat) : List Nat → Bool
  | first :: last :: _ => first ≤ n && n ≤ last
  | _ => false

end OpenBadges.Text
