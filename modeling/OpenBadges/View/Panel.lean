import OpenBadges.Forms.Schema

/-!
# Panels

Each region of the screen may show a panel: the details of an item, a form that
makes a new item, or a form that changes one. A document names the kind of panel
and gives its content, in either order; content that comes before the kind has to
be readable in every part.
-/

namespace OpenBadges

/-- What a region of the screen shows. -/
inductive Panel where
  /-- The details of an item. -/
  | detailView (item : Json)
  | createForm (formType : FormType)
  /-- A form that changes an item. -/
  | editForm (formType : FormType) (item : Json)

/-- The kinds of panel. -/
inductive PanelKind where
  | detailView
  | createForm
  | editForm
deriving DecidableEq, Repr

namespace PanelKind

/-- The kind as documents spell it. -/
def text : PanelKind → String
  | detailView => "detailView"
  | createForm => "createForm"
  | editForm => "editForm"

/-- The kind of this spelling. -/
def ofText? : String → Option PanelKind
  | "detailView" => some detailView
  | "createForm" => some createForm
  | "editForm" => some editForm
  | _ => none

end PanelKind

namespace Panel

/-- Fields by name; a list of values will not do here. -/
def contentFields (names : List String) : Decoder Decoder.Record
  | .obj fs => Decoder.fields names fs
  | _ => none

/-- Reads the content of a panel of some kind. -/
def decodeContent (d : Document) : PanelKind → Option Panel
  | .detailView => do
    let field ← contentFields ["item"] d
    return .detailView (← Decoder.required Decoder.json (field "item"))
  | .createForm => do
    let field ← contentFields ["form_type"] d
    return .createForm (← Decoder.required FormType.decode (field "form_type"))
  | .editForm => do
    let field ← contentFields ["form_type", "item"] d
    return .editForm (← Decoder.required FormType.decode (field "form_type"))
      (← Decoder.required Decoder.json (field "item"))

/-- Whether the first of the fields named `first` or `second` is named `first`. -/
def comesFirst (first second : String) : List (String × Document) → Bool
  | [] => false
  | (k, _) :: rest => if k = first then true else if k = second then false
      else comesFirst first second rest

def decode : Decoder Panel
  | .obj fs => do
    let field ← Decoder.fields ["type", "content"] fs
    let kind ← Decoder.required (Decoder.variant PanelKind.ofText?) (field "type")
    let content ← field "content"
    if comesFirst "content" "type" fs then
      let _ ← content.toJson?
    decodeContent content kind
  | .arr [type, content] => do decodeContent content (← Decoder.variant PanelKind.ofText? type)
  | _ => none

def kind : Panel → PanelKind
  | detailView _ => .detailView
  | createForm _ => .createForm
  | editForm _ _ => .editForm

/-- Writes the content of a panel. -/
def encodeContent : Panel → Json
  | detailView item => .ofFields [("item", item)]
  | createForm formType => .ofFields [("form_type", formType.encode)]
  | editForm formType item => .ofFields [("form_type", formType.encode), ("item", item)]

def encode (p : Panel) : Json := .ofFields [
  ("type", .str p.kind.text),
  ("content", p.encodeContent)]

end Panel

end OpenBadges
