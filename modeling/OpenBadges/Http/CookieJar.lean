import OpenBadges.Text.Blank
import OpenBadges.Text.Segments
import OpenBadges.Url.Parser

/-!
# Cookies

A browser keeps the cookies that servers set, and sends those that belong to an
address in one line.
-/

namespace OpenBadges.Cookie

/-!
## Looking cookies up

A line has `name=value` between semicolons. Pieces without an equals sign say
nothing; of two cookies of one name the first counts.
-/

open Text

/-- The name and the value in a piece of the line. -/
def pair? (piece : List Char) : Option (List Char × List Char) := cutAt? '=' (trimmed piece)

/-- The value of a cookie in a line of characters. -/
def find? (name : List Char) (header : List Char) : Option (List Char) :=
  (segments ';' header).findSome? fun piece =>
    (pair? piece).bind fun (key, value) => if key = name then some value else none

def value? (header name : String) : Option String :=
  (find? name.toList header.toList).map String.ofList

end OpenBadges.Cookie

namespace OpenBadges.Http

/-!
## Keeping cookies

A jar gives back the cookies that belong to an address: the host has to be the
same, and the path has to lie under the path of the cookie.
-/

open Text

/-- A cookie that a server has set. -/
structure StoredCookie where
  name : List Char
  value : List Char
  /-- The host that has set it. -/
  host : List Char
  /-- The path under which it counts. -/
  path : List Char
deriving DecidableEq, Repr

/-- The cookies that have been set, first the oldest. -/
abbrev CookieJar := List StoredCookie

namespace CookieJar

def hostOf (a : Url.Address) : List Char := (a.authority.map (·.host)).getD []

/-- The path under which a cookie counts that does not say: up to the last slash. -/
def defaultPath (path : List Char) : List Char :=
  let upTo := (path.reverse.dropWhile (· ≠ '/')).tail.reverse
  if upTo.isEmpty then ['/'] else upTo

/-- The path that the attributes of a cookie name. -/
def pathAttribute? (pieces : List (List Char)) : Option (List Char) :=
  (pieces.filterMap fun piece =>
    match cutAt? '=' piece with
    | some (name, value) =>
      if (trimmed name).map Char.toLower = "path".toList then some (trimmed value) else none
    | none => none).getLast?.filter fun value => value.head? = some '/'

/-- Reads what a server sets. -/
def read? (a : Url.Address) (text : String) : Option StoredCookie :=
  match segments ';' text.toList with
  | [] => none
  | pair :: pieces =>
    (cutAt? '=' pair).bind fun (name, value) =>
      if (trimmed name).isEmpty then none
      else some ⟨trimmed name, trimmed value, hostOf a,
        (pathAttribute? pieces).getD (defaultPath a.path)⟩

/-- Whether two cookies take the same place in the jar. -/
def samePlace (c d : StoredCookie) : Bool := c.name = d.name && c.host = d.host && c.path = d.path

def set (jar : CookieJar) (a : Url.Address) (text : String) : CookieJar :=
  match read? a text with
  | none => jar
  | some c =>
    if jar.any (samePlace c) then jar.map fun d => if samePlace c d then c else d
    else jar ++ [c]

/-- Whether a path lies under the path of a cookie. -/
def covers (cookiePath path : List Char) : Bool :=
  cookiePath = path ||
    (cookiePath.isPrefixOf path &&
      (cookiePath.getLast? = some '/' || (path.drop cookiePath.length).head? = some '/'))

/-- The cookies that belong to an address, in one line. -/
def header? (jar : CookieJar) (a : Url.Address) : Option String :=
  let found := jar.filter fun c => c.host = hostOf a && covers c.path a.path
  if found.isEmpty then none
  else some ("; ".intercalate (found.map fun c => String.ofList (c.name ++ '=' :: c.value)))

end CookieJar

end OpenBadges.Http
