import OpenBadges.Json.Decoder

/-!
# Request contexts

A request context says how a call of the API is made and what becomes of its
answer: the path and the method, the statuses that count as success, the
collection the answer belongs to, the form that waits for it, and the one field
of one item that it may be about.
-/

namespace OpenBadges

/-! ## Methods -/

/-- How a request means to act on what its path names. -/
inductive Method where
  | get
  | post
  | put
  | delete
deriving DecidableEq, Repr, Inhabited

namespace Method

/-- The method as requests spell it. -/
def text : Method → String
  | get => "GET"
  | post => "POST"
  | put => "PUT"
  | delete => "DELETE"

/-- The method of this spelling. -/
def ofText? : String → Option Method
  | "GET" => some get
  | "POST" => some post
  | "PUT" => some put
  | "DELETE" => some delete
  | _ => none

def decode : Decoder Method := Decoder.variant ofText?

def encode (m : Method) : Json := .str m.text

end Method

/-! ## Contexts -/

/-- The identifier that a view gives to one of its forms. -/
abbrev FormId := String

/-- The status of a response. -/
abbrev Status := UInt16

namespace Status

def decode : Decoder Status := fun d => (Decoder.nat UInt16.size d).map UInt16.ofNat

def encode (s : Status) : Json := .int s.toNat

end Status

/-- Sets one field of the first item that has a given value in another field. -/
structure PartialUpdate where
  /-- The field to search in. -/
  searchKey : String
  /-- The value to search for. -/
  searchValue : Json
  updateKey : String
  /-- What to set it to; without it, the body of the response. -/
  updateValue : Option Json := none

namespace PartialUpdate

def decode : Decoder PartialUpdate := fun d => do
  let field ← Decoder.record ["searchKey", "searchValue", "updateKey", "updateValue"] d
  return {
    searchKey := ← Decoder.required Decoder.string (field "searchKey")
    searchValue := ← Decoder.required Decoder.json (field "searchValue")
    updateKey := ← Decoder.required Decoder.string (field "updateKey")
    updateValue := ← Decoder.orNone Decoder.json (field "updateValue") }

def encode (u : PartialUpdate) : Json := .ofFields [
  ("searchKey", .str u.searchKey),
  ("searchValue", u.searchValue),
  ("updateKey", .str u.updateKey),
  ("updateValue", .ofOption id u.updateValue)]

end PartialUpdate

/-- How a call is made, and what becomes of its answer. -/
structure RequestContext where
  /-- The path of the request. -/
  actionUrl : String
  /-- The method of the request. -/
  method : Method := .get
  /-- The statuses that count as success. -/
  successfulStatuses : List Status := [200]
  /-- The collection that the answer belongs to. -/
  collection : String
  /-- Whether the answer replaces the collection or is merged into it. -/
  replacesCollection : Bool := false
  /-- The form that waits for the answer. -/
  formId : Option FormId := none
  /-- The one field that the answer is about. -/
  partialUpdate : Option PartialUpdate := none

namespace RequestContext

/-- A plain GET into a collection. -/
def get (url collection : String) : RequestContext :=
  { actionUrl := url, collection := collection }

/-- The same, but the answer replaces the collection. -/
def replacing (c : RequestContext) : RequestContext := { c with replacesCollection := true }

/-- Whether a status counts as success. -/
def isSuccess (c : RequestContext) (s : Status) : Bool := c.successfulStatuses.contains s

def decode : Decoder RequestContext := fun d => do
  let field ← Decoder.record ["actionUrl", "method", "successfulHttpStatus", "apiCollectionKey",
    "replaceCollection", "formId", "partialUpdate"] d
  return {
    actionUrl := ← Decoder.required Decoder.string (field "actionUrl")
    method := ← Decoder.orDefault .get Method.decode (field "method")
    successfulStatuses :=
      ← Decoder.orDefault [200] (Decoder.list Status.decode) (field "successfulHttpStatus")
    collection := ← Decoder.required Decoder.string (field "apiCollectionKey")
    replacesCollection := ← Decoder.orDefault false Decoder.bool (field "replaceCollection")
    formId := ← Decoder.orNone Decoder.string (field "formId")
    partialUpdate := ← Decoder.orNone PartialUpdate.decode (field "partialUpdate") }

def encode (c : RequestContext) : Json := .ofFields [
  ("actionUrl", .str c.actionUrl),
  ("method", c.method.encode),
  ("successfulHttpStatus", .arr (c.successfulStatuses.map Status.encode)),
  ("apiCollectionKey", .str c.collection),
  ("replaceCollection", .bool c.replacesCollection),
  ("formId", .ofOption .str c.formId),
  ("partialUpdate", .ofOption PartialUpdate.encode c.partialUpdate)]

end RequestContext

end OpenBadges
