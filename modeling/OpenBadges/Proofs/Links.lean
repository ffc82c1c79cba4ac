import OpenBadges.App

/-!
# Links that lead away

A scheme is looked for in front of the first colon, slash, question mark or number sign,
and it counts only if what ends it is a colon. The grammar of links does not know of a first
such character: a link leads away if it starts with the name of a scheme and a colon,
whatever comes after them. The two agree because none of the four characters can be part of
the name of a scheme (`endsScheme_of_isSchemeChar`), so that there is one place only where
the name can end.
-/

namespace OpenBadges

namespace Link

/-- A character that may follow the first letter in the name of a scheme. -/
def IsSchemeChar (c : Char) : Prop := c.isAlphanum = true ∨ c = '+' ∨ c = '-' ∨ c = '.'

/-- The links without blanks around them that lead out of the application, or nowhere. -/
inductive LeadsAway : List Char → Prop where
  | nowhere : LeadsAway []
  | anchor (rest : List Char) : LeadsAway ('#' :: rest)
  | host (rest : List Char) : LeadsAway ('/' :: '/' :: rest)
  | scheme {letter : Char} {name : List Char} (rest : List Char) :
      letter.isAlpha = true → (∀ c ∈ name, IsSchemeChar c) →
      LeadsAway (letter :: name ++ ':' :: rest)

/-! ## Schemes -/

theorem isSchemeChar_of_isAlpha {c : Char} (h : c.isAlpha = true) : IsSchemeChar c :=
  .inl (by rw [Char.isAlphanum, h, Bool.true_or])

theorem isScheme_iff {cs : List Char} :
    isScheme cs = true ↔
      ∃ letter name, cs = letter :: name ∧ letter.isAlpha = true ∧ ∀ c ∈ name, IsSchemeChar c := by
  cases cs with
  | nil => exact iff_of_false Bool.false_ne_true nofun
  | cons c cs =>
    have hchar : ∀ c : Char, (c.isAlphanum || c = '+' || c = '-' || c = '.') = true ↔
        IsSchemeChar c := by
      intro c
      simp only [IsSchemeChar, Bool.or_eq_true, decide_eq_true_eq, or_assoc]
    rw [isScheme, List.head?_cons, Option.any_some, Bool.and_eq_true, List.all_eq_true]
    simp only [hchar]
    constructor
    · rintro ⟨hc, hall⟩
      exact ⟨c, cs, rfl, hc, fun d hd => hall d (List.mem_cons_of_mem _ hd)⟩
    · rintro ⟨letter, name, h, hc, hname⟩
      obtain ⟨rfl, rfl⟩ := List.cons.inj h
      exact ⟨hc, List.forall_mem_cons.mpr ⟨isSchemeChar_of_isAlpha hc, hname⟩⟩

theorem endsScheme_of_isSchemeChar {c : Char} (h : IsSchemeChar c) : endsScheme c = false := by
  have hne : ∀ d : Char, ¬IsSchemeChar d → c ≠ d := fun d hd hcd => hd (hcd ▸ h)
  have hcolon : c ≠ ':' := hne ':' (by simp +decide [IsSchemeChar])
  have hslash : c ≠ '/' := hne '/' (by simp +decide [IsSchemeChar])
  have hquery : c ≠ '?' := hne '?' (by simp +decide [IsSchemeChar])
  have hsign : c ≠ '#' := hne '#' (by simp +decide [IsSchemeChar])
  simp [endsScheme, hcolon, hslash, hquery, hsign]

/-- The characters of a scheme do not end it. -/
theorem not_endsScheme_of_isScheme {scheme : List Char} (h : isScheme scheme = true) :
    ∀ c ∈ scheme, (!endsScheme c) = true := by
  obtain ⟨letter, name, rfl, hletter, hname⟩ := isScheme_iff.mp h
  have hall : ∀ c ∈ letter :: name, IsSchemeChar c :=
    List.forall_mem_cons.mpr ⟨isSchemeChar_of_isAlpha hletter, hname⟩
  intro c hc
  rw [endsScheme_of_isSchemeChar (hall c hc)]
  rfl

/-- **A link has a scheme just if it starts with one.** -/
theorem hasScheme_iff {cs : List Char} :
    hasScheme cs = true ↔ ∃ scheme rest, cs = scheme ++ ':' :: rest ∧ isScheme scheme = true := by
  constructor
  · intro h
    rw [hasScheme] at h
    split at h
    · next rest hrest =>
      refine ⟨cs.takeWhile fun c => !endsScheme c, rest, ?_, h⟩
      rw [← hrest, List.takeWhile_append_dropWhile]
    · exact absurd h Bool.false_ne_true
  · rintro ⟨scheme, rest, rfl, hscheme⟩
    have hinside := not_endsScheme_of_isScheme hscheme
    have hdrop : (scheme ++ ':' :: rest).dropWhile (fun c => !endsScheme c) = ':' :: rest :=
      List.dropWhile_append_of_pos hinside
    have htake : (scheme ++ ':' :: rest).takeWhile (fun c => !endsScheme c) = scheme := by
      rw [List.takeWhile_append_of_pos hinside]
      exact List.append_nil scheme
    rw [hasScheme, hdrop, htake]
    exact hscheme

theorem leadsAway_of_hasScheme {cs : List Char} (h : hasScheme cs = true) : LeadsAway cs := by
  obtain ⟨scheme, rest, rfl, hscheme⟩ := hasScheme_iff.mp h
  obtain ⟨letter, name, rfl, hletter, hname⟩ := isScheme_iff.mp hscheme
  exact .scheme rest hletter hname

/-! ## Links -/

/-- **A link leads away just if the grammar says so.** -/
theorem classifyTrimmed_eq_external_iff {cs : List Char} :
    classifyTrimmed cs = .external ↔ LeadsAway cs := by
  constructor
  · intro h
    unfold classifyTrimmed at h
    split at h
    · exact .nowhere
    · exact .anchor _
    · exact .host _
    · split at h
      · next hscheme => exact leadsAway_of_hasScheme hscheme
      · cases h
  · intro h
    cases h with
    | nowhere => rfl
    | anchor rest => rfl
    | host rest => rfl
    | @scheme letter name rest hletter hname =>
      have hscheme : hasScheme (letter :: name ++ ':' :: rest) = true :=
        hasScheme_iff.mpr ⟨_, rest, rfl, isScheme_iff.mpr ⟨letter, name, rfl, hletter, hname⟩⟩
      unfold classifyTrimmed
      split
      · rfl
      · rfl
      · rfl
      · rw [if_pos hscheme]

end Link

namespace App

variable {ω : Type}

/--
**Following a link is queued once, as it was written, unless the link leads away.**

Blanks around the link do not count for where it leads, but they are kept in what is queued.
Whether it leads away is decided by the grammar alone. As long as the application
runs, what is queued joins the end of the queue; an application that was stopped has none.
-/
theorem navigate_by_grammar (a : App ω) (href : String) :
    ∃ core, (∀ cs, Text.IsCore href.toList cs ↔ cs = core) ∧
      (Link.classify href = .external ↔ Link.LeadsAway core) ∧
      (Link.LeadsAway core → a.navigate href = (false, a)) ∧
      (¬Link.LeadsAway core → a.navigate href = (true, a.queue (.routeChanged href))) ∧
      (a.queue (.routeChanged href)).loop.queue =
        a.loop.queue ++ if a.running then [.routeChanged href] else [] := by
  have hexternal : Link.classify href = .external ↔ Link.LeadsAway (Text.trimmed href.toList) :=
    Link.classifyTrimmed_eq_external_iff
  refine ⟨Text.trimmed href.toList, fun cs => Text.isCore_iff, hexternal, ?_, ?_, ?_⟩
  · intro h
    rw [navigate, hexternal.mpr h]
  · intro h
    cases hkind : Link.classify href with
    | external => exact absurd (hexternal.mp hkind) h
    | internal => rw [navigate, hkind]
  · rw [queue]
    split
    · rfl
    · exact (List.append_nil _).symm

/-- An address to write to leads away, blank or not, and a search for a colon does not. -/
theorem navigate_by_grammar_mail :
    let a : App Unit := { loop := { dispatcher := ⟨{}, {}⟩ }, world := () }
    (Link.LeadsAway "mailto:help@example.org".toList ∧
      a.navigate " mailto:help@example.org" = (false, a)) ∧
    ¬Link.LeadsAway "/search?q=a:b".toList ∧
      a.navigate " /search?q=a:b" = (true, a.queue (.routeChanged " /search?q=a:b")) := by
  intro a
  have hletters : "ailto".toList.all Char.isAlphanum = true := by decide
  have haway : Link.LeadsAway "mailto:help@example.org".toList :=
    @Link.LeadsAway.scheme 'm' "ailto".toList "help@example.org".toList (by decide)
      fun c hc => .inl (List.all_eq_true.mp hletters c hc)
  have hstays : ¬Link.LeadsAway "/search?q=a:b".toList := by
    rw [← Link.classifyTrimmed_eq_external_iff]
    decide
  obtain ⟨_, hmail, _, hmailAway, _⟩ := a.navigate_by_grammar " mailto:help@example.org"
  obtain ⟨_, hsearch, _, _, hsearchStays, _⟩ := a.navigate_by_grammar " /search?q=a:b"
  obtain rfl := (hmail _).mp (Text.isCore_iff.mpr rfl)
  obtain rfl := (hsearch _).mp (Text.isCore_iff.mpr rfl)
  exact ⟨⟨haway, hmailAway haway⟩, hstays, hsearchStays hstays⟩

end App

end OpenBadges
