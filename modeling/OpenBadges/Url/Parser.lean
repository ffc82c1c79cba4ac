import OpenBadges.Url.Basic
import OpenBadges.Url.Path

/-!
# Reading addresses

An address is read on its own or against a base. Against a base, what it leaves
out at the front is taken from the base, and a path that starts without a slash
goes on from the last slash of the base.

Files are read on their own terms: a path may start with a drive, and then it has
no host, and what follows two slashes may be a drive as well.
-/

namespace OpenBadges.Url

open Text

/-! ## Parts -/

/-- A text without blanks and controls at its ends, and without line breaks and tabs. -/
def cleaned (cs : List Char) : List Char :=
  let blank := fun (c : Char) => c.toNat ≤ 0x20
  let trimmed := ((cs.dropWhile blank).reverse.dropWhile blank).reverse
  trimmed.filter fun c => c ≠ '\t' ∧ c ≠ '\n' ∧ c ≠ '\r'

/-- The scheme in lower case and what stands behind its colon. -/
def splitScheme? (cs : List Char) : Option (List Char × List Char) :=
  let scheme := cs.takeWhile fun c => c.isAlphanum || c = '+' || c = '-' || c = '.'
  match scheme.head?.any Char.isAlpha, cs.drop scheme.length with
  | true, ':' :: rest => some (scheme.map Char.toLower, rest)
  | _, _ => none

/-- The number of slashes at the start. -/
def leadingSlashes (cs : List Char) : Nat := (cs.takeWhile isSlash).length

/-- Splits off the fragment and then the query. -/
def splitTail (cs : List Char) : List Char × Option (List Char) × Option (List Char) :=
  let (front, fragment) := match cutAt? '#' cs with
    | some (front, fragment) => (front, some fragment)
    | none => (cs, none)
  match cutAt? '?' front with
  | some (front, query) => (front, some query, fragment)
  | none => (front, none, fragment)

/-- An address with its query and fragment encoded. -/
def assemble (scheme : List Char) (authority : Option Authority) (path : List Char)
    (query fragment : Option (List Char)) : Address :=
  ⟨scheme, authority, path, query.map (Percent.encode (Percent.query (isSpecial scheme))),
    fragment.map (Percent.encode Percent.fragment)⟩

/-- The address whose path goes on from what is known of it. -/
def goOn (scheme : List Char) (authority : Option Authority) (known cs : List Char) : Address :=
  let (path, query, fragment) := splitTail cs
  assemble scheme authority (Path.read scheme known path) query fragment

/-- The address with another fragment. -/
def withFragment (base : Address) (fragment : List Char) : Address :=
  { base with fragment := some (Percent.encode Percent.fragment fragment) }

/-- The address of a text without a path: the base without its fragment, or with another tail. -/
def samePath? (base : Address) (cs : List Char) : Option Address :=
  match cs with
  | [] => some { base with fragment := none }
  | '#' :: fragment => some (withFragment base fragment)
  | '?' :: _ =>
    let (_, query, fragment) := splitTail cs
    some (assemble base.scheme base.authority base.path query fragment)
  | _ => none

/-! ## Authorities -/

/-- Whether a character ends the authority. -/
def endsAuthority (scheme : List Char) (c : Char) : Bool :=
  c = '/' || c = '?' || c = '#' || (isSpecial scheme && c = '\\')

/-- What stands before and after the last at sign. -/
def cutAtLastAt? (cs : List Char) : Option (List Char × List Char) :=
  (cutAt? '@' cs.reverse).map fun (after, before) => (before.reverse, after.reverse)

/-- The user and the password; one that is empty is none. -/
def readCredentials (cs : List Char) : List Char × Option (List Char) :=
  let encode := Percent.encode Percent.userinfo
  match cutAt? ':' cs with
  | some (user, password) =>
    (encode user, if password.isEmpty then none else some (encode password))
  | none => (encode cs, none)

/-- The host and what stands behind it; a colon between brackets does not end the host. -/
def splitHost : (inside : Bool) → List Char → List Char × List Char
  | _, [] => ([], [])
  | inside, c :: cs =>
    if c = ':' ∧ !inside then ([], c :: cs)
    else
      let (host, rest) := splitHost (c = '[' || (inside && c ≠ ']')) cs
      (c :: host, rest)

/-- Reads a port and what stands behind it: nothing, or a path that starts with a backslash. -/
def readPort (scheme cs : List Char) : Except UrlError (Option Nat × List Char) :=
  let digits := cs.takeWhile Char.isDigit
  let behind := cs.drop digits.length
  match Host.digitsValue? 10 digits with
  | some n =>
    if 65535 < n ∨ behind.head?.any (· ≠ '\\') then .error .invalidPort
    else .ok (if digits.isEmpty ∨ defaultPort? scheme = some n then none else some n, behind)
  | none => .error .invalidPort

/-- Reads who is asked, before what stands `behind`, and gives back what is left to read. -/
def readAuthority (scheme cs behind : List Char) :
    Except UrlError (Authority × List Char) := do
  let (user, password, rest) ← match cutAtLastAt? cs with
    | none => pure ([], none, cs)
    | some ([], rest) =>
      if rest.isEmpty ∧ !behind.isEmpty then throw UrlError.emptyHost
      pure ([], none, rest)
    | some (before, rest) =>
      let (user, password) := readCredentials before
      pure (user, password, rest)
  let (hostText, afterHost) := splitHost false rest
  let host ←
    if !isSpecial scheme then Host.ofOther hostText
    else if hostText.isEmpty then throw UrlError.emptyHost
    else Host.ofSpecial hostText
  let authority : Authority := { user, password, host }
  match afterHost with
  | [] =>
    if host.isEmpty ∧ authority.hasCredentials then throw UrlError.emptyHost
    return (authority, behind)
  | _ :: portText =>
    if host.isEmpty then throw UrlError.emptyHost
    let (port, left) ← readPort scheme portText
    return ({ authority with port := port }, left ++ behind)

/-- Reads what stands behind the authority; a scheme with rules of its own has at least a slash. -/
def readBehind (scheme : List Char) (authority : Authority) (cs : List Char) : Address :=
  match cs with
  | [] => goOn scheme authority (if isSpecial scheme then ['/'] else []) []
  | c :: rest =>
    if isSpecial scheme then goOn scheme authority ['/'] (if isSlash c then rest else cs)
    else goOn scheme authority (if c = '/' ∨ c = '?' ∨ c = '#' then [] else ['/']) cs

/-- Reads an address from its authority on. -/
def readFromAuthority (scheme cs : List Char) : Except UrlError Address := do
  let within := fun c => !endsAuthority scheme c
  let (authority, behind) ← readAuthority scheme (cs.takeWhile within) (cs.dropWhile within)
  return readBehind scheme authority behind

/-! ## Files -/

/-- The authority of a file that is here. -/
def nobody : Authority := { host := [] }

/-- The first segment of a path. -/
def firstSegment (path : List Char) : List Char := (path.drop 1).takeWhile (· ≠ '/')

/--
Reads a file behind two slashes. A drive there belongs to the path already, and a
drive that the path starts with leaves no host.
-/
def readFileHost (cs : List Char) : Except UrlError Address := do
  let ends := fun c => endsAuthority fileScheme c
  let hostText := cs.takeWhile fun c => !ends c
  let here := fun rest => goOn fileScheme (some nobody) ['/'] rest
  if hostText.isEmpty ∨ Path.isDrive hostText then return here cs
  let host ← Host.ofSpecial hostText
  let rest := cs.drop hostText.length
  if host = "localhost".toList then return here rest
  let path := if rest.head?.any isSlash then rest.drop 1 else rest
  let followed := Path.follow fileScheme ['/'] (splitTail path).1
  let authority := if Path.startsWithDrive (followed.drop 1) then nobody else { host }
  return goOn fileScheme (some authority) ['/'] path

/-- Reads a file behind one slash, which is on the drive or at least on the host of the base. -/
def readFileRoot (base : Option Address) (cs : List Char) : Address :=
  match base with
  | some b =>
    let drive := firstSegment b.path
    if Path.startsWithDrive (cs.drop 1) then goOn fileScheme (some nobody) [] cs
    else if Path.isPlainDrive drive then goOn fileScheme (some nobody) ('/' :: drive) cs
    else goOn fileScheme b.authority [] cs
  | none => goOn fileScheme (some nobody) [] cs

/-- Reads a file, against the base if that is a file as well. -/
def readFile (base : Option Address) (cs : List Char) : Except UrlError Address :=
  match leadingSlashes cs with
  | 0 =>
    match base with
    | some b =>
      match samePath? b cs with
      | some a => .ok a
      | none =>
        if Path.startsWithDrive cs then .ok (goOn fileScheme (some nobody) ['/'] cs)
        else .ok (goOn fileScheme b.authority (Path.directory true b.path) cs)
    | none => .ok (goOn fileScheme (some nobody) ['/'] cs)
  | 1 => .ok (readFileRoot base cs)
  | _ => readFileHost (cs.drop 2)

/-! ## Addresses -/

/-- Reads what leaves out the scheme, against a base that is no file. -/
def readRelative (base : Address) (cs : List Char) : Except UrlError Address :=
  match samePath? base cs with
  | some a => .ok a
  | none =>
    match leadingSlashes cs with
    | 0 =>
      let known := Path.directory false base.path
      .ok (goOn base.scheme base.authority (if known.isEmpty then ['/'] else known) cs)
    | 1 => .ok (goOn base.scheme base.authority ['/'] (cs.drop 1))
    | slashes =>
      let isPlain := "//".toList.isPrefixOf cs
      readFromAuthority base.scheme (cs.drop (if isPlain then 2 else slashes))

/-- Reads what stands behind a scheme without rules of its own. -/
def readOther (scheme cs : List Char) : Except UrlError Address :=
  match cs with
  | '/' :: '/' :: rest => readFromAuthority scheme rest
  | '/' :: rest => .ok (goOn scheme none ['/'] rest)
  | _ =>
    let (path, query, fragment) := splitTail cs
    .ok (assemble scheme none (Percent.encode Percent.controls path) query fragment)

/-- Reads what stands behind a scheme. -/
def readAbsolute (base : Option Address) (scheme cs : List Char) : Except UrlError Address :=
  let alike := base.filter fun b => b.scheme = scheme
  if isFile scheme then readFile alike cs
  else if isSpecial scheme then
    match alike, leadingSlashes cs with
    | some b, 0 | some b, 1 => readRelative b cs
    | _, slashes => readFromAuthority scheme (cs.drop slashes)
  else readOther scheme cs

/-- Reads an address, against a base if there is one. -/
def read (base : Option Address) (text : String) : Except UrlError Address :=
  let cs := cleaned text.toList
  match splitScheme? cs, base, cs with
  | some (scheme, rest), _, _ => readAbsolute base scheme rest
  | none, none, _ => .error .relativeWithoutBase
  | none, some b, '#' :: fragment => .ok (withFragment b fragment)
  | none, some b, _ =>
    if b.isOpaque then .error .baseWithoutPath
    else if isFile b.scheme then readFile base cs
    else readRelative b cs

/-- Reads an address against a base. -/
def join (base : Address) (text : String) : Except UrlError Address := read (some base) text

/-- Reads an address on its own. -/
def parse (text : String) : Except UrlError Address := read none text

end OpenBadges.Url
