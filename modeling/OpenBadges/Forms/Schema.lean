import OpenBadges.Forms.FieldValue
import OpenBadges.Request.Context

/-!
# What forms look like

A form of a given type has fields, values to start from, a call of the API that
submits it, and a message for when that has worked.
-/

namespace OpenBadges

/-- The forms of the application. -/
inductive FormType where
  | earnerBadgeImport
  | earnerCollectionCreate
  | earnerCollectionEdit
  | issuerCreate
  | badgeClassCreate
  | badgeInstanceCreate
deriving DecidableEq, Repr

namespace FormType

/-- The type as documents spell it. -/
def text : FormType → String
  | earnerBadgeImport => "earner_badge_import"
  | earnerCollectionCreate => "earner_collection_create"
  | earnerCollectionEdit => "earner_collection_edit"
  | issuerCreate => "issuer_create"
  | badgeClassCreate => "badge_class_create"
  | badgeInstanceCreate => "badge_instance_create"

/-- The type as messages and logs spell it. -/
def title : FormType → String
  | earnerBadgeImport => "EarnerBadgeImport"
  | earnerCollectionCreate => "EarnerCollectionCreate"
  | earnerCollectionEdit => "EarnerCollectionEdit"
  | issuerCreate => "IssuerCreate"
  | badgeClassCreate => "BadgeClassCreate"
  | badgeInstanceCreate => "BadgeInstanceCreate"

/-- The type of this spelling. -/
def ofText? : String → Option FormType
  | "earner_badge_import" => some earnerBadgeImport
  | "earner_collection_create" => some earnerCollectionCreate
  | "earner_collection_edit" => some earnerCollectionEdit
  | "issuer_create" => some issuerCreate
  | "badge_class_create" => some badgeClassCreate
  | "badge_instance_create" => some badgeInstanceCreate
  | _ => none

def decode : Decoder FormType := Decoder.variant ofText?

def encode (t : FormType) : Json := .str t.text

end FormType

/-- What a field is for. -/
inductive FieldKind where
  | text
  | textArea
  | email
  | url
  | select
  | checkbox
  | hidden
  | image
  | file
deriving DecidableEq, Repr

namespace FieldKind

/-- The kind as documents spell it. -/
def name : FieldKind → String
  | text => "text"
  | textArea => "textarea"
  | email => "email"
  | url => "url"
  | select => "select"
  | checkbox => "checkbox"
  | hidden => "hidden"
  | image => "image"
  | file => "file"

/-- The kind of this spelling. -/
def ofName? : String → Option FieldKind
  | "text" => some text
  | "textarea" => some textArea
  | "email" => some email
  | "url" => some url
  | "select" => some select
  | "checkbox" => some checkbox
  | "hidden" => some hidden
  | "image" => some image
  | "file" => some file
  | _ => none

/-- Whether the field holds a file. -/
def isFile : FieldKind → Bool
  | image | file => true
  | _ => false

def decode : Decoder FieldKind := Decoder.variant ofName?

def encode (k : FieldKind) : Json := .str k.name

end FieldKind

/-- A field of a form. -/
structure FieldSpec where
  name : String
  kind : FieldKind
  label : String
  /-- Whether it has to be filled in. -/
  required : Bool := false
  /-- The name under which a file is submitted, instead of its own. -/
  filename : Option String := none
deriving DecidableEq, Repr

namespace FieldSpec

def decode : Decoder FieldSpec := fun d => do
  let field ← Decoder.record ["name", "kind", "label", "required", "filename"] d
  return {
    name := ← Decoder.required Decoder.string (field "name")
    kind := ← Decoder.required FieldKind.decode (field "kind")
    label := ← Decoder.required Decoder.string (field "label")
    required := ← Decoder.orDefault false Decoder.bool (field "required")
    filename := ← Decoder.orNone Decoder.string (field "filename") }

def encode (f : FieldSpec) : Json := .ofFields [
  ("name", .str f.name),
  ("kind", f.kind.encode),
  ("label", .str f.label),
  ("required", .bool f.required),
  ("filename", .ofOption .str f.filename)]

end FieldSpec

/-- The call that submits a form. -/
structure ApiBinding where
  /-- The path, possibly with parameters. -/
  actionUrl : String
  method : Method
  /-- The statuses that count as success. -/
  successfulStatuses : List Status
  /-- The collection that the answer belongs to. -/
  collection : String
deriving DecidableEq, Repr

namespace ApiBinding

def decode : Decoder ApiBinding := fun d => do
  let field ← Decoder.record ["action_url", "method", "successful_http_status",
    "api_collection_key"] d
  return {
    actionUrl := ← Decoder.required Decoder.string (field "action_url")
    method := ← Decoder.required Method.decode (field "method")
    successfulStatuses :=
      ← Decoder.required (Decoder.list Status.decode) (field "successful_http_status")
    collection := ← Decoder.required Decoder.string (field "api_collection_key") }

def encode (b : ApiBinding) : Json := .ofFields [
  ("action_url", .str b.actionUrl),
  ("method", b.method.encode),
  ("successful_http_status", .arr (b.successfulStatuses.map Status.encode)),
  ("api_collection_key", .str b.collection)]

end ApiBinding

/-- All there is to know about forms of one type. -/
structure FormConfig where
  formType : FormType
  fields : List FieldSpec
  /-- The values to start from. -/
  defaults : FormValues
  /-- The call that submits the form. -/
  api : ApiBinding
  /-- What to say when the form has been submitted. -/
  successMessage : String

namespace FormConfig

def decode : Decoder FormConfig := fun d => do
  let field ← Decoder.record ["form_type", "fields", "defaults", "api", "success_message"] d
  return {
    formType := ← Decoder.required FormType.decode (field "form_type")
    fields := ← Decoder.required (Decoder.list FieldSpec.decode) (field "fields")
    defaults := ← Decoder.required FormValues.decode (field "defaults")
    api := ← Decoder.required ApiBinding.decode (field "api")
    successMessage := ← Decoder.required Decoder.string (field "success_message") }

def encode (c : FormConfig) : Json := .ofFields [
  ("form_type", c.formType.encode),
  ("fields", .arr (c.fields.map FieldSpec.encode)),
  ("defaults", c.defaults.encode),
  ("api", c.api.encode),
  ("success_message", .str c.successMessage)]

end FormConfig

end OpenBadges
