import OpenBadges.Forms.Registry

/-!
# The forms of the application

Earners import badges and arrange them in collections; issuers set themselves up,
define badges and award them.
-/

namespace OpenBadges

namespace FormConfig

/-- A field that may be left empty. -/
def field (name : String) (kind : FieldKind) (label : String) : FieldSpec :=
  { name := name, kind := kind, label := label }

/-- A field that has to be filled in. -/
def requiredField (name : String) (kind : FieldKind) (label : String) : FieldSpec :=
  { name := name, kind := kind, label := label, required := true }

/-- Importing a badge that somebody else has issued. -/
def earnerBadgeImport : FormConfig where
  formType := .earnerBadgeImport
  fields := [
    { field "image" .image "Badge image" with filename := some "earner_badge_upload.png" },
    field "url" .url "Assertion URL",
    field "assertion" .textArea "Assertion JSON"]
  defaults := .ofList [("image", .null), ("url", .text ""), ("assertion", .text "")]
  api := ⟨"/v1/earner/badges", .post, [200, 201], "earner_badges"⟩
  successMessage := "Badge successfully imported."

/-- The fields of a collection. -/
def collectionFields : List FieldSpec :=
  [requiredField "name" .text "Name", field "description" .textArea "Description"]

/-- The values a collection starts from. -/
def collectionDefaults : FormValues := .ofList [("name", .text ""), ("description", .text "")]

/-- Making a collection of badges. -/
def earnerCollectionCreate : FormConfig where
  formType := .earnerCollectionCreate
  fields := collectionFields
  defaults := collectionDefaults
  api := ⟨"/v1/earner/collections", .post, [200, 201], "earner_collections"⟩
  successMessage := "New collection created."

/-- Changing a collection of badges. -/
def earnerCollectionEdit : FormConfig where
  formType := .earnerCollectionEdit
  fields := collectionFields
  defaults := collectionDefaults
  api := ⟨"/v1/earner/collections/:collection", .put, [200], "earner_collections"⟩
  successMessage := "Collection updated."

def issuerCreate : FormConfig where
  formType := .issuerCreate
  fields := [
    requiredField "name" .text "Issuer name",
    requiredField "description" .textArea "Description",
    requiredField "url" .url "Website URL",
    requiredField "email" .email "Contact email",
    { field "image" .image "Logo" with filename := some "issuer_logo.png" }]
  defaults := .ofList [("name", .text ""), ("description", .text ""), ("url", .text ""),
    ("email", .text ""), ("image", .null)]
  api := ⟨"/v1/issuer/issuers", .post, [200, 201], "issuer_issuers"⟩
  successMessage := "Issuer created."

def badgeClassCreate : FormConfig where
  formType := .badgeClassCreate
  fields := [
    requiredField "name" .text "Badge name",
    requiredField "description" .textArea "Description",
    requiredField "criteria" .textArea "Criteria",
    { requiredField "image" .image "Badge image" with filename := some "badge_image.png" }]
  defaults := .ofList [("name", .text ""), ("description", .text ""), ("criteria", .text ""),
    ("image", .null)]
  api := ⟨"/v1/issuer/issuers/:issuer/badges", .post, [200, 201], "issuer_badgeclasses"⟩
  successMessage := "Badge class created."

def badgeInstanceCreate : FormConfig where
  formType := .badgeInstanceCreate
  fields := [
    requiredField "email" .email "Recipient email",
    field "evidence" .url "Evidence URL",
    field "create_notification" .checkbox "Notify recipient"]
  defaults := .ofList [("email", .text ""), ("evidence", .text ""),
    ("create_notification", .bool false)]
  api := ⟨"/v1/issuer/issuers/:issuer/badges/:badge/assertions", .post, [200, 201],
    "issuer_badgeinstances"⟩
  successMessage := "Badge awarded."

/-- The configuration of a form of the application. -/
def builtin : FormType → FormConfig
  | .earnerBadgeImport => earnerBadgeImport
  | .earnerCollectionCreate => earnerCollectionCreate
  | .earnerCollectionEdit => earnerCollectionEdit
  | .issuerCreate => issuerCreate
  | .badgeClassCreate => badgeClassCreate
  | .badgeInstanceCreate => badgeInstanceCreate

end FormConfig

/-- The registry with every form of the application. -/
def FormRegistry.builtin : FormRegistry := fun t => some (FormConfig.builtin t)

end OpenBadges
