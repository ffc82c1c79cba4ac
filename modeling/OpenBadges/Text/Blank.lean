/-!
# Blank characters

The characters with the Unicode property White_Space, and text with the blanks
at its two ends taken off. The set is closed: it has no zero-width space, no
byte order mark and none of the four information separators.
-/

namespace OpenBadges.Text

/-- Whether `c` has the property White_Space. -/
def isBlank (c : Char) : Bool :=
  let n := c.toNat
  (9 ≤ n && n ≤ 13) || n = 0x20 || n = 0x85 || n = 0xA0 || n = 0x1680 ||
    (0x2000 ≤ n && n ≤ 0x200A) || n = 0x2028 || n = 0x2029 || n = 0x202F || n = 0x205F ||
    n = 0x3000

/-- Takes the blanks off the front. -/
def trimLeft (cs : List Char) : List Char := cs.dropWhile isBlank

/-- Takes the blanks off the end. -/
def trimRight (cs : List Char) : List Char := (cs.reverse.dropWhile isBlank).reverse

/-- The text between the first and the last character that is not blank. -/
def trimmed (cs : List Char) : List Char := trimRight (trimLeft cs)

/-- The text between the first and the last character that is not blank. -/
def trim (s : String) : String := String.ofList (trimmed s.toList)

/-! ## What is left -/

/-- A text that neither starts nor ends with a blank. -/
structure Tight (cs : List Char) : Prop where
  head : ∀ c ∈ cs.head?, isBlank c = false
  last : ∀ c ∈ cs.getLast?, isBlank c = false

/-- `core` is `cs` without blanks around it. -/
def IsCore (cs core : List Char) : Prop :=
  Tight core ∧ ∃ before after, cs = before ++ core ++ after ∧
    (∀ c ∈ before, isBlank c = true) ∧ ∀ c ∈ after, isBlank c = true

theorem trimLeft_append {before : List Char} (h : ∀ c ∈ before, isBlank c = true)
    (cs : List Char) : trimLeft (before ++ cs) = trimLeft cs :=
  List.dropWhile_append_of_pos h

theorem trimLeft_of_head {cs : List Char} (h : ∀ c ∈ cs.head?, isBlank c = false) :
    trimLeft cs = cs := by
  cases cs with
  | nil => rfl
  | cons c cs => rw [trimLeft, List.dropWhile_cons, h c rfl, if_neg Bool.false_ne_true]

theorem exists_trimLeft (cs : List Char) :
    (∀ c ∈ (trimLeft cs).head?, isBlank c = false) ∧
      ∃ before, cs = before ++ trimLeft cs ∧ ∀ c ∈ before, isBlank c = true := by
  induction cs with
  | nil => exact ⟨nofun, [], rfl, nofun⟩
  | cons c cs ih =>
    rw [trimLeft, List.dropWhile_cons]
    cases hc : isBlank c with
    | false => exact ⟨fun d hd => Option.some.inj hd ▸ hc, [], rfl, nofun⟩
    | true =>
      obtain ⟨hhead, before, hsplit, hbefore⟩ := ih
      exact ⟨hhead, c :: before, congrArg (c :: ·) hsplit, List.forall_mem_cons.mpr ⟨hc, hbefore⟩⟩

/-- The end of a text is trimmed as the front of the text that runs the other way. -/
theorem trimRight_eq (cs : List Char) : trimRight cs = (trimLeft cs.reverse).reverse := rfl

theorem isCore_trimmed (cs : List Char) : IsCore cs (trimmed cs) := by
  obtain ⟨hhead, before, hbefore, hblank⟩ := exists_trimLeft cs
  obtain ⟨hlast, after, hafter, hblank'⟩ := exists_trimLeft (trimLeft cs).reverse
  have hsplit : trimLeft cs = trimmed cs ++ after.reverse := by
    rw [trimmed, trimRight_eq, ← List.reverse_append, ← hafter, List.reverse_reverse]
  refine ⟨⟨fun c hc => hhead c ?_, ?_⟩, before, after.reverse, ?_, hblank, ?_⟩
  · rw [hsplit, List.head?_append, Option.mem_def.mp hc]
    rfl
  · rw [trimmed, trimRight_eq, List.getLast?_reverse]
    exact hlast
  · rw [List.append_assoc, ← hsplit, ← hbefore]
  · exact fun c hc => hblank' c (List.mem_reverse.mp hc)

/-- **There is one way to take the blanks off a text.** -/
theorem isCore_iff {cs core : List Char} : IsCore cs core ↔ core = trimmed cs := by
  constructor
  · rintro ⟨htight, before, after, rfl, hbefore, hafter⟩
    have hafter' : ∀ c ∈ after.reverse, isBlank c = true :=
      fun c hc => hafter c (List.mem_reverse.mp hc)
    cases core with
    | nil =>
      have hleft : trimLeft after = [] := by
        have h := trimLeft_append hafter []
        rwa [List.append_nil] at h
      rw [trimmed, List.append_nil, trimLeft_append hbefore, hleft]
      rfl
    | cons c core =>
      have hleft : trimLeft (before ++ (c :: core) ++ after) = c :: core ++ after := by
        rw [List.append_assoc, trimLeft_append hbefore]
        exact trimLeft_of_head htight.head
      have hright : trimLeft (c :: core ++ after).reverse = (c :: core).reverse := by
        rw [List.reverse_append, trimLeft_append hafter']
        refine trimLeft_of_head fun d hd => htight.last d ?_
        rwa [List.head?_reverse] at hd
      rw [trimmed, hleft, trimRight_eq, hright, List.reverse_reverse]
  · rintro rfl
    exact isCore_trimmed cs

theorem trimmed_of_tight {cs : List Char} (h : Tight cs) : trimmed cs = cs :=
  (isCore_iff.mp ⟨h, [], [], (List.append_nil _).symm, nofun, nofun⟩).symm

theorem trimmed_cons_of_blank {c : Char} (h : isBlank c = true) (cs : List Char) :
    trimmed (c :: cs) = trimmed cs := by
  rw [trimmed, trimmed, trimLeft, List.dropWhile_cons, if_pos h, trimLeft]

theorem mem_of_mem_trimmed {c : Char} {cs : List Char} (h : c ∈ trimmed cs) : c ∈ cs := by
  obtain ⟨-, before, after, hsplit, -⟩ := isCore_trimmed cs
  rw [hsplit]
  exact List.mem_append_left _ (List.mem_append_right _ h)

end OpenBadges.Text
