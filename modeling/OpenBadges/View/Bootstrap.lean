import OpenBadges.Collections.Items
import OpenBadges.Json.Decoder
import OpenBadges.Text.Blank
import OpenBadges.View.Menu

/-!
# The bootstrap document

What the page brings along when it is loaded: the first content of some
collections, the user, and menus.
-/

namespace OpenBadges

/-! ## Users -/

/-- A user who has signed in. -/
structure UserProfile where
  /-- The name to sign in with. -/
  username : String := ""
  firstName : String := ""
  lastName : String := ""
  email : Option String := none
  /-- Whether the user belongs to the staff. -/
  isStaff : Bool := false
deriving DecidableEq, Repr

namespace UserProfile

/-- The first and the last name, or the user name where there is neither. -/
def displayName (u : UserProfile) : String :=
  let full := Text.trim (u.firstName ++ " " ++ u.lastName)
  if full.isEmpty then u.username else full

def decode : Decoder UserProfile := fun d => do
  let field ← Decoder.record ["username", "first_name", "last_name", "email", "is_staff"] d
  return {
    username := ← Decoder.orDefault "" Decoder.string (field "username")
    firstName := ← Decoder.orDefault "" Decoder.string (field "first_name")
    lastName := ← Decoder.orDefault "" Decoder.string (field "last_name")
    email := ← Decoder.orNone Decoder.string (field "email")
    isStaff := ← Decoder.orDefault false Decoder.bool (field "is_staff") }

def encode (u : UserProfile) : Json := .ofFields [
  ("username", .str u.username),
  ("first_name", .str u.firstName),
  ("last_name", .str u.lastName),
  ("email", .ofOption .str u.email),
  ("is_staff", .bool u.isStaff)]

end UserProfile

/-! ## The document -/

/-- What the page brings along. -/
structure Bootstrap where
  /-- The first content of some collections. -/
  initialData : Dict (List Item) := ∅
  /-- The user, if somebody has signed in. -/
  user : Option UserProfile := none
  /-- Entries to add to the role menu. -/
  roleMenu : Menu := []
  /-- Menus to use instead of the builtin ones. -/
  menus : Option Menus := none

namespace Bootstrap

def decode : Decoder Bootstrap := fun d => do
  let field ← Decoder.record ["initialData", "user", "roleMenu", "menus"] d
  return {
    initialData :=
      ← Decoder.orDefault ∅ (Decoder.dict (Decoder.list Decoder.json)) (field "initialData")
    user := ← Decoder.orNone UserProfile.decode (field "user")
    roleMenu := ← Decoder.orDefault [] Menus.decodeMenu (field "roleMenu")
    menus := ← Decoder.orNone Menus.decode (field "menus") }

def encode (b : Bootstrap) : Json := .ofFields [
  ("initialData", .ofDict Json.arr b.initialData),
  ("user", .ofOption UserProfile.encode b.user),
  ("roleMenu", Menus.encodeMenu b.roleMenu),
  ("menus", .ofOption Menus.encode b.menus)]

end Bootstrap

end OpenBadges
