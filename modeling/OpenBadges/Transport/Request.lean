import OpenBadges.Forms.FieldValue
import OpenBadges.Json.Parser
import OpenBadges.Request.Context
import OpenBadges.Text.Blank

/-!
# Requests and responses
-/

namespace OpenBadges

/-- A part of the body of a submitted form. -/
inductive FormPart where
  | text (name value : String)
  | file (name filename : String) (bytes : List UInt8)
deriving DecidableEq, Repr

namespace FormPart

/-- The name of the field that a part belongs to. -/
def name : FormPart → String
  | text name _ => name
  | file name _ _ => name

def decode : Decoder FormPart := fun d => do
  let field ← Decoder.record ["kind", "name", "value", "filename", "bytes"] d
  let string := fun k => Decoder.required Decoder.string (field k)
  match ← string "kind" with
  | "text" => return .text (← string "name") (← string "value")
  | "file" =>
    return .file (← string "name") (← string "filename")
      (← Decoder.required (Decoder.list FileUpload.decodeByte) (field "bytes"))
  | _ => none

def encode : FormPart → Json
  | text name value =>
    .ofFields [("kind", .str "text"), ("name", .str name), ("value", .str value)]
  | file name filename bytes => .ofFields [
    ("kind", .str "file"), ("name", .str name), ("filename", .str filename),
    ("bytes", .arr (bytes.map fun b => .int b.toNat))]

end FormPart

/-- What a request carries. -/
inductive RequestBody where
  | empty
  | json (value : Json)
  | multipart (parts : List FormPart)

namespace RequestBody

/-- Reads a body: `"empty"`, or an object that names the kind. -/
def decode : Decoder RequestBody
  | .str "empty" => some .empty
  | .obj [("json", d)] => (Decoder.json d).map json
  | .obj [("multipart", d)] => (Decoder.list FormPart.decode d).map multipart
  | _ => none

def encode : RequestBody → Json
  | .empty => .ofFields [("kind", .str "empty")]
  | .json v => .ofFields [("kind", .str "json"), ("value", v)]
  | .multipart parts => .ofFields [
    ("kind", .str "multipart"), ("parts", .arr (parts.map FormPart.encode))]

end RequestBody

/-- A request to the server. -/
structure Request where
  method : Method
  /-- The path, or a whole address. -/
  path : String
  body : RequestBody := .empty

namespace Request

/-- Reads a request, of which fields that are not its own may be part. -/
def decode : Decoder Request := fun d => do
  let field ← Decoder.record ["method", "path", "body"] d
  return {
    method := ← Decoder.required Method.decode (field "method")
    path := ← Decoder.required Decoder.string (field "path")
    body := ← Decoder.orDefault .empty RequestBody.decode (field "body") }

def encode (r : Request) : Json := .ofFields [
  ("method", .str r.method.text), ("path", .str r.path), ("body", r.body.encode)]

end Request

/-- What the server answers. -/
structure Response where
  status : Status
  body : String
deriving DecidableEq, Repr

/-- The value in the body of a response. Where there is nothing but blanks, it is `null`. -/
def Response.json (r : Response) : Except Json.ReadError Json :=
  if (Text.trimmed r.body.toList).isEmpty then .ok .null else Json.parse r.body

/-- Why there is no response. -/
inductive TransportError where
  /-- The path makes no address. -/
  | invalidUrl (path reason : String)
  /-- The request failed on its way. -/
  | failed (reason : String)
  | unavailable (reason : String)
deriving DecidableEq, Repr

def TransportError.message : TransportError → String
  | invalidUrl path reason => s!"invalid request url `{path}`: {reason}"
  | failed reason => s!"request failed: {reason}"
  | unavailable reason => s!"no response: {reason}"

/-- Sends requests in a world, which may change. -/
abbrev Transport (ω : Type) := ω → Request → Except TransportError Response × ω

end OpenBadges
