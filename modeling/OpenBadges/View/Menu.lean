import OpenBadges.Dict
import OpenBadges.Json.Decoder

/-!
# Menus
-/

namespace OpenBadges

/-- An entry of a menu, with the entries below it. -/
structure MenuItem where
  title : String
  url : String
  /-- The name of its picture. -/
  icon : Option String := none
  children : List MenuItem := []

namespace MenuItem

/-- An entry with a picture and nothing below it. -/
def plain (title url icon : String) : MenuItem := { title := title, url := url, icon := some icon }

def fieldNames : List String := ["title", "url", "icon", "children"]

def decode (d : Document) : Option MenuItem :=
  match _h : Decoder.record fieldNames d with
  | none => none
  | some field => do
    let title ← Decoder.required Decoder.string (field "title")
    let url ← Decoder.required Decoder.string (field "url")
    let icon ← Decoder.orNone Decoder.string (field "icon")
    let children ← match _hc : field "children" with
      | none => some []
      | some (.arr items) => items.attach.mapM fun ⟨item, _hi⟩ => decode item
      | some _ => none
    return ⟨title, url, icon, children⟩
termination_by sizeOf d
decreasing_by
  have := Decoder.sizeOf_record_lt _h _hc
  have := List.sizeOf_lt_of_mem _hi
  simp only [Document.arr.sizeOf_spec] at *
  omega

def encode : MenuItem → Json
  | ⟨title, url, icon, children⟩ => .ofFields [
    ("title", .str title),
    ("url", .str url),
    ("icon", .ofOption .str icon),
    ("children", .arr (children.attach.map fun ⟨item, _⟩ => encode item))]

end MenuItem

/-- A menu. -/
abbrev Menu := List MenuItem

/-- All menus of the application. -/
structure Menus where
  /-- The menu that everybody sees. -/
  topMenu : Menu := []
  /-- The menu for what only some users may do. -/
  roleMenu : Menu := []
  /-- The menu of each section. -/
  secondaryMenus : Dict Menu := ∅

namespace Menus

/-- The menus before the page brings any of its own. -/
def builtin : Menus where
  topMenu := [
    .plain "Earn" "/earner" "fa-certificate",
    .plain "Issue" "/issuer" "fa-send",
    .plain "Explore" "/explorer" "fa-globe"]
  secondaryMenus := .ofList [
    ("earner", [
      .plain "My Badges" "/earner/badges" "fa-certificate",
      .plain "My Collections" "/earner/collections" "fa-folder-open"]),
    ("issuer", [.plain "Issuers" "/issuer/issuers" "fa-institution"])]

def decodeMenu : Decoder Menu := Decoder.list MenuItem.decode

def encodeMenu (m : Menu) : Json := .arr (m.map MenuItem.encode)

def decode : Decoder Menus := fun d => do
  let field ← Decoder.record ["topMenu", "roleMenu", "secondaryMenus"] d
  return {
    topMenu := ← Decoder.orDefault [] decodeMenu (field "topMenu")
    roleMenu := ← Decoder.orDefault [] decodeMenu (field "roleMenu")
    secondaryMenus := ← Decoder.orDefault ∅ (Decoder.dict decodeMenu) (field "secondaryMenus") }

def encode (m : Menus) : Json := .ofFields [
  ("topMenu", encodeMenu m.topMenu),
  ("roleMenu", encodeMenu m.roleMenu),
  ("secondaryMenus", .ofDict encodeMenu m.secondaryMenus)]

end Menus

end OpenBadges
