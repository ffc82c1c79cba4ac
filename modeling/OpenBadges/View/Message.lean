import OpenBadges.Request.Context

/-!
# Messages to the user

What a view shows after a request has come back, and why a request failed.
-/

namespace OpenBadges

/-- How a message is meant. -/
inductive MessageKind where
  | success
  | info
  | danger
deriving DecidableEq, Repr

namespace MessageKind

/-- The kind as documents spell it. -/
def text : MessageKind → String
  | success => "success"
  | info => "info"
  | danger => "danger"

/-- The kind of this spelling. -/
def ofText? : String → Option MessageKind
  | "success" => some success
  | "info" => some info
  | "danger" => some danger
  | _ => none

end MessageKind

/-- A message to the user. -/
structure Message where
  kind : MessageKind
  content : String
deriving DecidableEq, Repr

namespace Message

def decode : Decoder Message := fun d => do
  let field ← Decoder.record ["type", "content"] d
  return {
    kind := ← Decoder.required (Decoder.variant MessageKind.ofText?) (field "type")
    content := ← Decoder.required Decoder.string (field "content") }

def encode (m : Message) : Json := .ofFields [
  ("type", .str m.kind.text),
  ("content", .str m.content)]

end Message

/-- Why a request came to nothing. -/
inductive RequestFailure where
  /-- There was no response, or none that could be read. -/
  | transport (reason : String)
  /-- The status of the response does not count as success. -/
  | status (status : Status) (body : String)
deriving DecidableEq, Repr

namespace RequestFailure

/-- A failure as a message, given what was being done. -/
def message (doing : String) : RequestFailure → Message
  | transport reason => ⟨.danger, s!"Error {doing}: {reason}"⟩
  | status code body => ⟨.danger, s!"{code.toNat} Error {doing}: {body}"⟩

/-- Reads a failure: an object with one field, which is named for the kind. -/
def decode : Decoder RequestFailure
  | .obj [("transport", d)] => (Decoder.string d).map transport
  | .obj [("status", d)] => do
    let field ← Decoder.record ["status", "body"] d
    return .status (← Decoder.required Status.decode (field "status"))
      (← Decoder.required Decoder.string (field "body"))
  | _ => none

end RequestFailure

end OpenBadges
