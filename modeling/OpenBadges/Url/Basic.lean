import OpenBadges.Url.Host

/-!
# Addresses

An address in its normal form: every part is encoded, the path has no dot
segments, and a port that goes without saying is left out.
-/

namespace OpenBadges.Url

/-- Who is asked, and where. -/
structure Authority where
  /-- The user, who may have no name. -/
  user : List Char := []
  /-- The password of the user. -/
  password : Option (List Char) := none
  host : List Char
  /-- The port, unless it goes without saying. -/
  port : Option Nat := none
deriving DecidableEq, Repr

/-- An address. -/
structure Address where
  /-- The scheme, in lower case. -/
  scheme : List Char
  authority : Option Authority
  path : List Char
  /-- The query, without its mark. -/
  query : Option (List Char) := none
  /-- The fragment, without its mark. -/
  fragment : Option (List Char) := none
deriving DecidableEq, Repr

/-- Something behind a mark, if it is there. -/
def marked (mark : Char) : Option (List Char) → List Char
  | none => []
  | some cs => mark :: cs

namespace Authority

/-- Whether there is a user or a password. -/
def hasCredentials (au : Authority) : Bool := !au.user.isEmpty || au.password.isSome

def chars (au : Authority) : List Char :=
  (if au.hasCredentials then au.user ++ marked ':' au.password ++ ['@'] else []) ++
    au.host ++ marked ':' (au.port.map (Nat.toDigits 10))

/--
Without the user and the password. A user whose name is no text cannot be told
apart and stays, and so does a password that is no text where the user has no name.
-/
def withoutCredentials (au : Authority) : Authority :=
  let isText := fun cs => (Percent.decode? cs).isSome
  if isText au.user ∧ (au.user ≠ [] ∨ au.password.any isText) then
    { au with user := [], password := none }
  else au

end Authority

namespace Address

/-- Whether no path can be resolved against the address. -/
def isOpaque (a : Address) : Bool := a.authority.isNone && a.path.head? ≠ some '/'

/-- What a server is asked for: the path and the query. -/
def target (a : Address) : String := String.ofList (a.path ++ marked '?' a.query)

/--
What stands before the path. A path that starts with two slashes could be taken
for someone who is asked, so a dot segment goes before it if there is nobody.
-/
def front (a : Address) : List Char :=
  match a.authority with
  | some au => '/' :: '/' :: au.chars
  | none => if "//".toList.isPrefixOf a.path then "/.".toList else []

def text (a : Address) : String :=
  String.ofList (a.scheme ++ ':' :: a.front ++ a.path ++ marked '?' a.query ++
    marked '#' a.fragment)

/-- The address without the user and the password. -/
def withoutCredentials (a : Address) : Address :=
  { a with authority := a.authority.map (·.withoutCredentials) }

end Address

end OpenBadges.Url
