import Mathlib.Data.List.Forall2
import OpenBadges.Forms.Catalogue
import OpenBadges.Forms.Registry

/-!
# Parameters in a path

The segments of a template go their own ways: each stays what it is, gives way to a
value, or lacks one. What is put in is not looked at again, and the first segment that
lacks a value is the one that is reported.

The path need not have the segments of the template, though. A value is put in as it is,
and a slash in it counts like any other when the path is cut again. There is always one
segment more than there are slashes (`length_segments`), so the number of segments
tells whether a slash has come in.
-/

namespace OpenBadges

namespace UrlTemplate

open Text

/-- A segment of a template, and the text that stands in its place in the path. -/
inductive Fills (params : UrlParams) : List Char → List Char → Prop where
  | literal {s : List Char} : s.head? ≠ some ':' → Fills params s s
  | parameter {name value : String} :
      params.get? name = some value → Fills params (':' :: name.toList) value.toList

/-- The segment stands for a parameter without a value. -/
def Lacks (params : UrlParams) (s : List Char) (name : String) : Prop :=
  s = ':' :: name.toList ∧ params.get? name = none

variable {params : UrlParams}

/-! ## One segment -/

/-- A segment that starts with a colon stands for the parameter that follows, and no other does. -/
theorem parameter?_cases (s : List Char) :
    (s.head? ≠ some ':' ∧ parameter? s = none) ∨
      ∃ name : String, s = ':' :: name.toList ∧ parameter? s = some name := by
  cases s with
  | nil => exact .inl ⟨nofun, rfl⟩
  | cons c cs =>
    by_cases hc : c = ':'
    · subst hc
      exact .inr ⟨String.ofList cs, by rw [String.toList_ofList], rfl⟩
    · refine .inl ⟨by simpa using hc, ?_⟩
      unfold parameter?
      split
      · next h => exact absurd (List.cons.inj h).1 hc
      · rfl

theorem fillSegment_eq_ok_iff {s t : List Char} :
    fillSegment params s = .ok t ↔ Fills params s t := by
  rcases parameter?_cases s with ⟨hs, hnone⟩ | ⟨name, rfl, hname⟩
  · rw [fillSegment, hnone]
    constructor
    · rintro ⟨⟩
      exact .literal hs
    · rintro (_ | _)
      · rfl
      · exact absurd rfl hs
  · rw [fillSegment, hname]
    dsimp only
    constructor
    · intro h
      cases hget : params.get? name with
      | none => rw [hget] at h; cases h
      | some value =>
        rw [hget] at h
        cases h
        exact .parameter hget
    · intro h
      generalize hs : ':' :: name.toList = s at h
      cases h with
      | literal hne => exact absurd (by rw [← hs]; rfl) hne
      | parameter hget =>
        obtain rfl := String.toList_inj.mp (List.cons.inj hs).2
        rw [hget]

theorem fillSegment_eq_error_iff {s : List Char} {name : String} :
    fillSegment params s = .error name ↔ Lacks params s name := by
  rcases parameter?_cases s with ⟨hs, hnone⟩ | ⟨name', rfl, hname⟩
  · rw [fillSegment, hnone]
    refine iff_of_false nofun fun h => hs ?_
    rw [h.1]
    rfl
  · rw [fillSegment, hname]
    dsimp only
    constructor
    · intro h
      cases hget : params.get? name' with
      | none => rw [hget] at h; cases h; exact ⟨rfl, hget⟩
      | some value => rw [hget] at h; cases h
    · rintro ⟨hs, hget⟩
      obtain rfl := String.toList_inj.mp (List.cons.inj hs).2
      rw [hget]

/-- A segment that lacks nothing is filled. -/
theorem exists_fills_iff {s : List Char} :
    (∃ t, Fills params s t) ↔ ∀ name, ¬Lacks params s name := by
  simp only [← fillSegment_eq_ok_iff, ← fillSegment_eq_error_iff]
  cases fillSegment params s with
  | ok t => simp
  | error name => simp

/-! ## All segments -/

theorem fillSegments_eq_ok_iff {ss ts : List (List Char)} :
    fillSegments params ss = .ok ts ↔ List.Forall₂ (Fills params) ss ts := by
  induction ss generalizing ts with
  | nil =>
    rw [fillSegments, List.forall₂_nil_left_iff]
    exact ⟨fun h => (Except.ok.inj h).symm, fun h => congrArg _ h.symm⟩
  | cons s ss ih =>
    rw [fillSegments, List.forall₂_cons_left_iff]
    simp only [← ih, ← fillSegment_eq_ok_iff]
    cases fillSegment params s with
    | error name => exact iff_of_false nofun fun ⟨_, _, h, _⟩ => nomatch h
    | ok t =>
      cases fillSegments params ss with
      | error name => exact iff_of_false nofun fun ⟨_, _, _, h, _⟩ => nomatch h
      | ok us =>
        constructor
        · rintro ⟨⟩
          exact ⟨t, us, rfl, rfl, rfl⟩
        · rintro ⟨_, _, ⟨⟩, ⟨⟩, rfl⟩
          rfl

/-- **The first segment that lacks a value is reported.** -/
theorem fillSegments_eq_error_iff {ss : List (List Char)} {name : String} :
    fillSegments params ss = .error name ↔ ∃ before s after, ss = before ++ s :: after ∧
      Lacks params s name ∧ ∀ b ∈ before, ∀ name', ¬Lacks params b name' := by
  induction ss with
  | nil =>
    refine iff_of_false nofun ?_
    rintro ⟨before, s, after, h, _⟩
    exact absurd h.symm (by simp)
  | cons s ss ih =>
    rw [fillSegments]
    cases hs : fillSegment params s with
    | error name' =>
      have hlacks := fillSegment_eq_error_iff.mp hs
      constructor
      · rintro ⟨⟩
        exact ⟨[], s, ss, rfl, hlacks, nofun⟩
      · rintro ⟨before, s', after, hsplit, hlacks', hbefore⟩
        cases before with
        | nil =>
          obtain ⟨rfl, -⟩ := List.cons.inj hsplit
          rw [fillSegment_eq_error_iff.mpr hlacks'] at hs
          cases hs
          rfl
        | cons b before =>
          obtain ⟨rfl, -⟩ := List.cons.inj hsplit
          exact absurd hlacks (hbefore s List.mem_cons_self name')
    | ok t =>
      have hfree := exists_fills_iff.mp ⟨t, fillSegment_eq_ok_iff.mp hs⟩
      have hrest : (do return t :: (← fillSegments params ss)) = Except.error name ↔
          fillSegments params ss = .error name := by
        cases fillSegments params ss with
        | ok ts => exact iff_of_false nofun nofun
        | error name' => exact ⟨fun h => congrArg _ (Except.error.inj h), fun h => h ▸ rfl⟩
      refine hrest.trans (ih.trans ?_)
      constructor
      · rintro ⟨before, s', after, rfl, hlacks, hbefore⟩
        exact ⟨s :: before, s', after, rfl, hlacks, List.forall_mem_cons.mpr ⟨hfree, hbefore⟩⟩
      · rintro ⟨before, s', after, hsplit, hlacks, hbefore⟩
        cases before with
        | nil =>
          obtain ⟨rfl, -⟩ := List.cons.inj hsplit
          exact absurd hlacks (hfree name)
        | cons b before =>
          obtain ⟨rfl, rfl⟩ := List.cons.inj hsplit
          exact ⟨before, s', after, rfl, hlacks, (List.forall_mem_cons.mp hbefore).2⟩

/-! ## The path -/

theorem fill_eq_ok_iff {template url : String} :
    fill template params = .ok url ↔
      ∃ filled, List.Forall₂ (Fills params) (segments '/' template.toList) filled ∧
        url = String.ofList (joined '/' filled) := by
  simp only [← fillSegments_eq_ok_iff]
  rw [fill]
  cases fillSegments params (segments '/' template.toList) with
  | error name => exact iff_of_false nofun fun ⟨_, h, _⟩ => nomatch h
  | ok filled =>
    constructor
    · rintro ⟨⟩
      exact ⟨filled, rfl, rfl⟩
    · rintro ⟨_, ⟨⟩, rfl⟩
      rfl

theorem fill_eq_error_iff {template name : String} :
    fill template params = .error name ↔
      fillSegments params (segments '/' template.toList) = .error name := by
  rw [fill]
  cases fillSegments params (segments '/' template.toList) with
  | error name' => exact ⟨fun h => congrArg _ (Except.error.inj h), fun h => h ▸ rfl⟩
  | ok filled => exact iff_of_false nofun nofun

theorem length_le_flatMap_segments (sep : Char) (ss : List (List Char)) :
    ss.length ≤ (ss.flatMap (segments sep)).length := by
  induction ss with
  | nil => exact Nat.le_refl _
  | cons s ss ih =>
    rw [List.flatMap_cons, List.length_append, List.length_cons, length_segments]
    omega

/-- Cutting texts gives more texts just if one of them has a separator. -/
theorem length_flatMap_segments (sep : Char) (ss : List (List Char)) :
    (ss.flatMap (segments sep)).length = ss.length ↔ ∀ s ∈ ss, sep ∉ s := by
  induction ss with
  | nil => exact iff_of_true rfl nofun
  | cons s ss ih =>
    have hle := length_le_flatMap_segments sep ss
    have hhead : sep ∉ s ↔ s.count sep = 0 := List.count_eq_zero.symm
    rw [List.forall_mem_cons, hhead, ih.symm, List.flatMap_cons, List.length_append,
      List.length_cons, length_segments]
    omega

theorem flatMap_segments_eq_self_iff (sep : Char) (ss : List (List Char)) :
    ss.flatMap (segments sep) = ss ↔ ∀ s ∈ ss, sep ∉ s := by
  refine ⟨fun h => (length_flatMap_segments sep ss).mp (congrArg _ h), fun h => ?_⟩
  cases ss with
  | nil => rfl
  | cons s ss =>
    rw [← segments_joined_flatMap (List.cons_ne_nil s ss)]
    exact segments_joined (List.cons_ne_nil s ss) h

end UrlTemplate

namespace FormRegistry

open Text UrlTemplate

theorem fillUrl_eq_ok_iff {template url : String} {params : UrlParams} :
    fillUrl template params = .ok url ↔ fill template params = .ok url := by
  rw [fillUrl]
  cases fill template params with
  | error name => exact iff_of_false nofun nofun
  | ok url' => exact ⟨fun h => congrArg _ (Except.ok.inj h), fun h => congrArg _ (Except.ok.inj h)⟩

theorem fillUrl_eq_error_iff {template : String} {params : UrlParams} {e : FormError} :
    fillUrl template params = .error e ↔
      ∃ name, fill template params = .error name ∧ e = .missingParameter name template := by
  rw [fillUrl]
  cases fill template params with
  | error name =>
    constructor
    · rintro ⟨⟩
      exact ⟨name, rfl, rfl⟩
    · rintro ⟨_, ⟨⟩, rfl⟩
      rfl
  | ok url => exact iff_of_false nofun fun ⟨_, h, _⟩ => nomatch h

/--
**A parameter fills the place of its segment, slashes and all.**

No path comes of a template just if one of its segments lacks a value, and then the first
that does is reported. Otherwise the path falls into the segments of what the segments of the
template are filled with, each a segment as it was or a value. These are as many as the
template has just if no value has a slash in it, and then each stands in the place of
its own segment.
-/
theorem segments_fillUrl (template : String) (params : UrlParams) :
    let parts := segments '/' template.toList
    ((∃ e, fillUrl template params = .error e) ↔ ∃ s ∈ parts, ∃ name, Lacks params s name) ∧
    (∀ e, fillUrl template params = .error e →
      ∃ before s after name, parts = before ++ s :: after ∧ Lacks params s name ∧
        (∀ b ∈ before, ∀ name', ¬Lacks params b name') ∧ e = .missingParameter name template) ∧
    ∀ url, fillUrl template params = .ok url →
      ∃ filled, List.Forall₂ (Fills params) parts filled ∧
        segments '/' url.toList = filled.flatMap (segments '/') ∧
        ((segments '/' url.toList).length = parts.length ↔ ∀ t ∈ filled, '/' ∉ t) ∧
        (segments '/' url.toList = filled ↔ ∀ t ∈ filled, '/' ∉ t) := by
  intro parts
  have herror : ∀ e, fillUrl template params = .error e →
      ∃ before s after name, parts = before ++ s :: after ∧ Lacks params s name ∧
        (∀ b ∈ before, ∀ name', ¬Lacks params b name') ∧ e = .missingParameter name template := by
    intro e he
    obtain ⟨name, hname, rfl⟩ := fillUrl_eq_error_iff.mp he
    obtain ⟨before, s, after, hsplit, hlacks, hbefore⟩ :=
      fillSegments_eq_error_iff.mp (fill_eq_error_iff.mp hname)
    exact ⟨before, s, after, name, hsplit, hlacks, hbefore, rfl⟩
  refine ⟨⟨?_, ?_⟩, herror, ?_⟩
  · rintro ⟨e, he⟩
    obtain ⟨before, s, after, name, hsplit, hlacks, _⟩ := herror e he
    exact ⟨s, by rw [hsplit]; simp, name, hlacks⟩
  · rintro ⟨s, hs, name, hlacks⟩
    cases hfill : fillUrl template params with
    | error e => exact ⟨e, rfl⟩
    | ok url =>
      obtain ⟨filled, hfilled, _⟩ := fill_eq_ok_iff.mp (fillUrl_eq_ok_iff.mp hfill)
      obtain ⟨i, hi, rfl⟩ := List.getElem_of_mem hs
      have hfills := hfilled.get hi (hfilled.length_eq ▸ hi)
      exact absurd hlacks (exists_fills_iff.mp ⟨_, hfills⟩ name)
  · intro url hurl
    obtain ⟨filled, hfilled, rfl⟩ := fill_eq_ok_iff.mp (fillUrl_eq_ok_iff.mp hurl)
    have hne : filled ≠ [] := by
      rintro rfl
      exact segments_ne_nil '/' template.toList (List.forall₂_nil_right_iff.mp hfilled)
    have hcut : segments '/' (String.ofList (joined '/' filled)).toList =
        filled.flatMap (segments '/') := by
      rw [String.toList_ofList, segments_joined_flatMap hne]
    refine ⟨filled, hfilled, hcut, ?_, ?_⟩
    · rw [hcut, hfilled.length_eq]
      exact length_flatMap_segments '/' filled
    · rw [hcut]
      exact flatMap_segments_eq_self_iff '/' filled

/-- The badges of an issuer have a path once there is an issuer, even one that looks like a
parameter. -/
theorem segments_fillUrl_badges :
    let template := FormConfig.badgeClassCreate.api.actionUrl
    let params := Dict.ofList [("issuer", ":issuer")]
    let url := "/v1/issuer/issuers/:issuer/badges"
    (fillUrl template params = .ok url ∧
      List.Forall₂ (Fills params) (segments '/' template.toList) (segments '/' url.toList)) ∧
    fillUrl template ∅ = .error (.missingParameter "issuer" template) ∧
      ∃ before s after, segments '/' template.toList = before ++ s :: after ∧
        Lacks ∅ s "issuer" := by
  intro template params url
  have hurl : fillUrl template params = .ok url := by decide
  have hrefused : fillUrl template ∅ = .error (.missingParameter "issuer" template) := by
    decide
  obtain ⟨filled, hfilled, _, hcount, hsame⟩ := (segments_fillUrl template params).2.2 url hurl
  rw [← hsame.mpr (hcount.mp rfl)] at hfilled
  obtain ⟨before, s, after, name, hsplit, hlacks, _, he⟩ :=
    (segments_fillUrl template ∅).2.1 _ hrefused
  cases he
  exact ⟨⟨hurl, hfilled⟩, hrefused, before, s, after, hsplit, hlacks⟩

/-- A slash in a value makes two segments of one. -/
theorem segments_fillUrl_slash :
    let template := FormConfig.earnerCollectionEdit.api.actionUrl
    let url := "/v1/earner/collections/a/b"
    fillUrl template (.ofList [("collection", "a/b")]) = .ok url ∧
      (segments '/' template.toList).length = 5 ∧
      (segments '/' url.toList).length = 6 ∧ (segments '/' url.toList)[4]? ≠ some "a/b".toList := by
  exact ⟨rfl, rfl, rfl, by decide⟩

end FormRegistry

end OpenBadges
