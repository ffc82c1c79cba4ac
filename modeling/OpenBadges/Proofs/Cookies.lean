import Mathlib.Data.List.Basic
import OpenBadges.Http.Client

/-!
# Cookies are found by their names

A line of cookies is read in three steps: it is cut at the semicolons, blanks are
taken off each piece, and the piece is cut at its first equals sign. Each step may
take something away that belongs to a cookie. It does not if there is no semicolon in
the cookie, no equals sign in its name, and no blank where the cookie starts or ends
(`Piece.Intact`); blanks and equals signs in all other places are kept.

So reading a line that was written in this way gives back just its cookies, in their
order (`read_line`), and whatever else stands between semicolons is passed over. A
value is then looked up among the cookies themselves.

The jar of a client only keeps cookies of this kind, so the token that is sent is the
value of a cookie in the jar.
-/

namespace OpenBadges

namespace Cookie

open Text

/-- What stands between two semicolons. -/
inductive Piece where
  | cookie (name value : String)
  /-- Something that says nothing. -/
  | other (text : String)

namespace Piece

def text : Piece → String
  | cookie name value => name ++ "=" ++ value
  | other text => text

def cookie? : Piece → Option (String × String)
  | cookie name value => some (name, value)
  | other _ => none

/-- Reading takes nothing away from the piece, and makes no cookie of anything else. -/
def Intact : Piece → Prop
  | cookie name value =>
    (∀ c ∈ name.toList, c ≠ ';' ∧ c ≠ '=') ∧ (∀ c ∈ name.toList.head?, isBlank c = false) ∧
      (∀ c ∈ value.toList, c ≠ ';') ∧ ∀ c ∈ value.toList.getLast?, isBlank c = false
  | other text => ∀ c ∈ text.toList, c ≠ ';' ∧ c ≠ '='

theorem toList_text (name value : String) :
    (cookie name value).text.toList = name.toList ++ '=' :: value.toList := by
  simp [text]

end Piece

/-- The pieces in one line. -/
def line (pieces : List Piece) : String := "; ".intercalate (pieces.map Piece.text)

/-- The cookies among some pieces, by name. -/
def cookies (pieces : List Piece) : List (String × String) := pieces.filterMap Piece.cookie?

/-! ## One piece -/

/-- A blank in front of a piece does not count. -/
theorem pair?_cons_space (cs : List Char) : pair? (' ' :: cs) = pair? cs := by
  rw [pair?, pair?, trimmed_cons_of_blank (by decide)]

/-- A name and a value that start and end without a blank are as they were. -/
theorem tight_cookie {name value : List Char} (hname : ∀ c ∈ name.head?, isBlank c = false)
    (hvalue : ∀ c ∈ value.getLast?, isBlank c = false) : Tight (name ++ '=' :: value) where
  head := by
    cases name with
    | nil => simp; decide
    | cons c cs => exact hname
  last := by
    rw [List.getLast?_append, List.getLast?_cons, Option.some_or]
    cases hlast : value.getLast? with
    | none => simp; decide
    | some c => simpa [hlast] using hvalue

/-- **An intact piece is read as what it is.** -/
theorem pair?_text {p : Piece} (h : p.Intact) :
    pair? p.text.toList = p.cookie?.map fun (name, value) => (name.toList, value.toList) := by
  cases p with
  | cookie name value =>
    obtain ⟨hname, hhead, -, hlast⟩ := h
    rw [pair?, Piece.toList_text, trimmed_of_tight (tight_cookie hhead hlast)]
    exact cutAt?_eq_some_iff.mpr ⟨rfl, fun hmem => (hname _ hmem).2 rfl⟩
  | other text =>
    exact cutAt?_eq_none_iff.mpr fun hmem => (h _ (mem_of_mem_trimmed hmem)).2 rfl

theorem notMem_text {p : Piece} (h : p.Intact) : ';' ∉ p.text.toList := by
  cases p with
  | cookie name value =>
    obtain ⟨hname, -, hvalue, -⟩ := h
    rw [Piece.toList_text]
    intro hmem
    rcases List.mem_append.mp hmem with hmem | hmem
    · exact (hname _ hmem).1 rfl
    · rcases List.mem_cons.mp hmem with heq | hmem
      · exact absurd heq (by decide)
      · exact hvalue _ hmem rfl
  | other text => exact fun hmem => (h _ hmem).1 rfl

/-! ## The line -/

/-- The cookies in a line, by name. -/
def read (header : List Char) : List (List Char × List Char) :=
  (segments ';' header).filterMap pair?

/-- A value is looked up among the cookies of the line. -/
theorem find?_eq_lookup (name header : List Char) :
    find? name header = (read header).lookup name := by
  rw [find?, read]
  induction segments ';' header with
  | nil => rfl
  | cons s ss ih =>
    rw [List.findSome?_cons, List.filterMap_cons, ih]
    cases pair? s with
    | none => rfl
    | some cookie =>
      obtain ⟨key, value⟩ := cookie
      rw [Option.bind_some, List.lookup_cons]
      by_cases hkey : key = name
      · simp [hkey]
      · have hne : (name == key) = false := beq_eq_false_iff_ne.mpr (Ne.symm hkey)
        simp [hkey, hne]

/-- A line with blanks behind its semicolons is cut into its pieces, with the blanks in front. -/
theorem segments_intercalate {s : List Char} {ss : List (List Char)}
    (hfree : ∀ t ∈ s :: ss, ';' ∉ t) :
    segments ';' ([';', ' '].intercalate (s :: ss)) = s :: ss.map (' ' :: ·) := by
  induction ss generalizing s with
  | nil =>
    rw [List.intercalate_singleton, segments_of_notMem (hfree s List.mem_cons_self)]
    rfl
  | cons t ss ih =>
    have hrest := ih fun u hu => hfree u (List.mem_cons_of_mem _ hu)
    rw [List.intercalate_cons_cons, List.append_assoc, List.cons_append, List.singleton_append,
      segments_append_cons, segments_of_notMem (hfree s List.mem_cons_self),
      segments_cons_of_ne (by decide) hrest]
    rfl

/-- **Reading a line gives back its cookies.** -/
theorem read_line {pieces : List Piece} (h : ∀ p ∈ pieces, p.Intact) :
    read (line pieces).toList =
      (cookies pieces).map fun (name, value) => (name.toList, value.toList) := by
  have hpair : ∀ ps : List Piece, (∀ p ∈ ps, p.Intact) →
      (ps.map fun p => p.text.toList).filterMap pair? =
        (cookies ps).map fun (name, value) => (name.toList, value.toList) := by
    intro ps hps
    rw [List.filterMap_map, cookies, List.map_filterMap]
    exact List.filterMap_congr fun p hp => pair?_text (hps p hp)
  have htext : (line pieces).toList =
      [';', ' '].intercalate (pieces.map fun p => p.text.toList) := by
    rw [line, String.toList_intercalate, List.map_map]
    rfl
  rw [read, htext]
  cases pieces with
  | nil => rfl
  | cons p ps =>
    have hfree : ∀ t ∈ (p :: ps).map (fun p => p.text.toList), ';' ∉ t := by
      intro t ht
      obtain ⟨q, hq, rfl⟩ := List.mem_map.mp ht
      exact notMem_text (h q hq)
    -- the blanks in front of all pieces but the first make no difference
    have hspace : (pair? ∘ fun cs => ' ' :: cs) = pair? := funext pair?_cons_space
    rw [List.map_cons] at hfree ⊢
    rw [segments_intercalate hfree, ← hpair _ h, List.map_cons, List.filterMap_cons,
      List.filterMap_cons, List.filterMap_map, hspace]

/-- Names can be compared before or after they are taken apart. -/
theorem lookup_toList (name : String) (cs : List (String × String)) :
    (cs.map fun (name, value) => (name.toList, value.toList)).lookup name.toList =
      (cs.lookup name).map String.toList := by
  induction cs with
  | nil => rfl
  | cons cookie cs ih =>
    obtain ⟨key, value⟩ := cookie
    rw [List.map_cons, List.lookup_cons, List.lookup_cons, ih]
    by_cases hkey : name = key
    · simp [hkey]
    · have hne : (name == key) = false := beq_eq_false_iff_ne.mpr hkey
      have hne' : (name.toList == key.toList) = false :=
        beq_eq_false_iff_ne.mpr fun heq => hkey (String.toList_inj.mp heq)
      rw [hne, hne']

theorem find?_line {pieces : List Piece} (h : ∀ p ∈ pieces, p.Intact) (name : String) :
    find? name.toList (line pieces).toList = ((cookies pieces).lookup name).map String.toList := by
  rw [find?_eq_lookup, read_line h, lookup_toList]

/--
**A value that is looked up in a line is that of the first cookie with just this name.**

The cookies may be mixed with pieces that are none, names may be empty, begin alike or occur more
than once, and values may be empty or have equals signs in them.
-/
theorem value?_line {pieces : List Piece} (h : ∀ p ∈ pieces, p.Intact) (name : String) :
    value? (line pieces) name = (cookies pieces).lookup name := by
  rw [value?, find?_line h]
  cases (cookies pieces).lookup name <;> simp

/--
A piece that is no cookie is passed over, another name that has the one looked up in it does not
count, and the value keeps its equals signs. The name that occurs in others only is not found.
-/
theorem value?_line_token :
    let pieces : List Piece := [.cookie "xcsrftoken" "no", .other "secure", .cookie "csrf" "",
      .cookie "csrftoken" "dDBr=a==", .cookie "csrftoken" "later"]
    (∀ p ∈ pieces, p.Intact) ∧ value? (line pieces) "csrftoken" = some "dDBr=a==" ∧
      value? (line pieces) "token" = none := by
  intro pieces
  have hintact : ∀ p ∈ pieces, p.Intact := by simp [pieces, Piece.Intact, isBlank]
  exact ⟨hintact, value?_line hintact "csrftoken", value?_line hintact "token"⟩

end Cookie

/-! ## Cookies in a jar -/

namespace Http

open Text

/-- What a cookie comes to in a line. -/
def StoredCookie.piece (c : StoredCookie) : Cookie.Piece :=
  .cookie (String.ofList c.name) (String.ofList c.value)

/-- A cookie that a server sets has been trimmed and cut from the same kind of line. -/
theorem CookieJar.intact_of_read? {a : Url.Address} {text : String} {c : StoredCookie}
    (h : CookieJar.read? a text = some c) : c.piece.Intact := by
  unfold read? at h
  cases hpieces : segments ';' text.toList with
  | nil => exact absurd hpieces (segments_ne_nil _ _)
  | cons pair pieces =>
    rw [hpieces] at h
    obtain ⟨⟨name, value⟩, hcut, h⟩ := Option.bind_eq_some_iff.mp h
    obtain ⟨hpair, hname⟩ := cutAt?_eq_some_iff.mp hcut
    -- what is trimmed off can only take such characters away
    have hfree : ∀ ch ∈ pair, ch ≠ ';' := by
      rintro ch hch rfl
      exact notMem_of_mem_segments (hpieces ▸ List.mem_cons_self) hch
    dsimp only at h
    split at h
    · cases h
    · cases h
      rw [hpair] at hfree
      simp only [StoredCookie.piece, Cookie.Piece.Intact, String.toList_ofList]
      refine ⟨fun ch hch => ⟨?_, ?_⟩, (isCore_trimmed name).1.head, fun ch hch => ?_,
        (isCore_trimmed value).1.last⟩
      · exact hfree ch (List.mem_append_left _ (mem_of_mem_trimmed hch))
      · rintro rfl
        exact hname (mem_of_mem_trimmed hch)
      · exact hfree ch (List.mem_append_right _ (List.mem_cons_of_mem _ (mem_of_mem_trimmed hch)))

/-- All cookies of the jar can be read again from a line. -/
def CookieJar.Intact (jar : CookieJar) : Prop := ∀ c ∈ jar, c.piece.Intact

namespace CookieJar

theorem intact_set {jar : CookieJar} (h : jar.Intact) (a : Url.Address) (text : String) :
    (jar.set a text).Intact := by
  rw [set]
  cases hread : read? a text with
  | none => exact h
  | some c =>
    have hc := intact_of_read? hread
    dsimp only
    split
    · intro d hd
      obtain ⟨e, he, rfl⟩ := List.mem_map.mp hd
      split
      · exact hc
      · exact h e he
    · intro d hd
      rcases List.mem_append.mp hd with hd | hd
      · exact h d hd
      · exact List.mem_singleton.mp hd ▸ hc

/-- The cookies that belong to an address, first the oldest. -/
def belonging (jar : CookieJar) (a : Url.Address) : List StoredCookie :=
  jar.filter fun c => c.host = hostOf a && covers c.path a.path

theorem header?_eq (jar : CookieJar) (a : Url.Address) :
    jar.header? a = if (jar.belonging a).isEmpty then none
      else some (Cookie.line ((jar.belonging a).map StoredCookie.piece)) := by
  have htext : Cookie.Piece.text ∘ StoredCookie.piece =
      fun c => String.ofList (c.name ++ '=' :: c.value) := by
    funext c
    refine String.toList_inj.mp ?_
    rw [Function.comp_apply, StoredCookie.piece, Cookie.Piece.toList_text]
    simp only [String.toList_ofList]
  rw [header?, Cookie.line, List.map_map, htext]
  rfl

end CookieJar

namespace Client

/-- The jar of a new client is empty. -/
theorem intact_new {config : ClientConfig} {c : Client} (h : Client.new config = .ok c) :
    c.jar.Intact := by
  unfold Client.new at h
  split at h
  · cases h
  · split at h
    · cases h; exact nofun
    · cases h

theorem intact_setCookies {c : Client} (h : c.jar.Intact) (a : Url.Address)
    (texts : List String) : (c.setCookies a texts).jar.Intact := by
  have run : ∀ (texts : List String) {jar : CookieJar}, jar.Intact →
      (texts.foldl (·.set a ·) jar).Intact := by
    intro texts
    induction texts with
    | nil => intro jar h; exact h
    | cons text texts ih => intro jar h; exact ih (CookieJar.intact_set h a text)
  exact run texts h

/-- Whatever servers answer, the jar only has cookies that can be read again. -/
theorem intact_send {ν : Type} (network : Network ν) {c : Client} (h : c.jar.Intact) (world : ν)
    (r : Request) : (Client.send network (c, world) r).2.1.jar.Intact := by
  rw [Client.send]
  cases c.wire r with
  | error e => exact h
  | ok w =>
    dsimp only
    cases network world w with
    | mk response world =>
      cases response with
      | none => exact h
      | some response => exact intact_setCookies h w.address response.cookies

/--
**Unless a token was configured, the one that is sent is the value of the first cookie in the jar
that belongs to the address and has the name that was configured.**

Nothing is sent if a character of the line stands in no header.
-/
theorem csrfToken?_eq {c : Client} (hjar : c.jar.Intact) (hnone : c.config.csrfToken = none)
    (a : Url.Address) :
    let pieces := (c.jar.belonging a).map StoredCookie.piece
    c.csrfToken? a =
      if (Cookie.line pieces).toList.all
          fun ch => (0x20 ≤ ch.toNat && ch.toNat < 0x7F) || ch = '\t' then
        (Cookie.cookies pieces).lookup c.config.csrfCookieName
      else none := by
  intro pieces
  have hintact : ∀ p ∈ pieces, p.Intact := by
    intro p hp
    obtain ⟨s, hs, rfl⟩ := List.mem_map.mp hp
    exact hjar s (List.mem_filter.mp hs).1
  rw [csrfToken?, hnone, CookieJar.header?_eq]
  cases hfound : c.jar.belonging a with
  | nil =>
    have hpieces : pieces = [] := by simp [pieces, hfound]
    have hunknown : (Cookie.cookies pieces).lookup c.config.csrfCookieName = none := by
      rw [hpieces]
      rfl
    rw [hunknown, ite_self]
    rfl
  | cons s ss =>
    rw [← hfound, if_neg (by simp [hfound])]
    dsimp only
    rw [Option.bind_eq_bind, Option.bind_some, Cookie.value?, Cookie.find?_line hintact]
    generalize (Cookie.cookies pieces).lookup c.config.csrfCookieName = token
    generalize (Cookie.line pieces).toList.all _ = plain
    cases plain with
    | false => rfl
    | true =>
      show (token.map String.toList).map String.ofList = token
      cases token <;> simp

end Client

end Http

end OpenBadges
