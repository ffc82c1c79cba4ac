import OpenBadges.Decimal.Layout
import OpenBadges.Dict
import OpenBadges.Json.Decoder

/-!
# Values of form fields
-/

namespace OpenBadges

/-- A file that the user picked. -/
structure FileUpload where
  filename : String
  bytes : List UInt8 := []
deriving DecidableEq, Repr

namespace FileUpload

def decodeByte : Decoder UInt8 := fun d => (Decoder.nat UInt8.size d).map UInt8.ofNat

def decode : Decoder FileUpload := fun d => do
  let field ← Decoder.record ["filename", "bytes"] d
  return {
    filename := ← Decoder.required Decoder.string (field "filename")
    bytes := ← Decoder.orDefault [] (Decoder.list decodeByte) (field "bytes") }

def encode (f : FileUpload) : Json := .ofFields [
  ("filename", .str f.filename),
  ("bytes", .arr (f.bytes.map fun b => .int b.toNat))]

end FileUpload

/-- What a field of a form holds. -/
inductive FieldValue where
  | null
  | bool (b : Bool)
  | number (x : Binary64)
  | text (s : String)
  | file (f : FileUpload)
deriving DecidableEq, Repr

namespace FieldValue

instance : Inhabited FieldValue := ⟨null⟩

/-- Numbers in a form never have an exponent, whole ones have no point, and ties go up. -/
def layout : Decimal.Layout := ⟨none, false, .up⟩

/-- The value as a form submits it; empty fields and files have no text. -/
def formText : FieldValue → Option String
  | null | file _ => none
  | bool b => some (if b then "true" else "false")
  | number x => some (layout.render x)
  | text s => some s

/-- Whether the field is empty. -/
def isNull : FieldValue → Bool
  | null => true
  | _ => false

/-- Reads a field: a value of its own kind, or else a file. Every part of it has to be readable. -/
def decode : Decoder FieldValue := fun d =>
  match d.toJson? with
  | none => none
  | some .null => some null
  | some (.bool b) => some (bool b)
  | some (.num n) => n.toBinary64?.map number
  | some (.str s) => some (text s)
  | some _ => (FileUpload.decode d).map file

def encode : FieldValue → Json
  | null => .null
  | bool b => .bool b
  | number x => .num (.float x)
  | text s => .str s
  | file f => f.encode

end FieldValue

/-- The fields of a form and what they hold. -/
abbrev FormValues := Dict FieldValue

namespace FormValues

def decode : Decoder FormValues := Decoder.dict FieldValue.decode

def encode (vs : FormValues) : Json := .ofDict FieldValue.encode vs

end FormValues

end OpenBadges
