import OpenBadges.Json.Basic

/-!
# Documents

What a JSON text says before anyone asks what it means. The fields of an object
stand in the order of the text, repetitions included, because whether a repeated
field matters depends on the reader: a record refuses it, a value keeps the last.

A part of the text can be well formed and yet have no value: a number beyond the
doubles, a string with half a surrogate pair, a list nested too deep. Such a part
is `unreadable`. It does no harm where nobody looks at it, as in a field that the
reader does not know.
-/

namespace OpenBadges

/-- A JSON text taken apart. -/
inductive Document where
  | null
  | bool (b : Bool)
  | num (n : Number)
  | str (s : String)
  | arr (items : List Document)
  | obj (fields : List (String × Document))
  /-- A part without a value. -/
  | unreadable
deriving Inhabited, Repr

namespace Document

mutual

/-- The value of a document; of two fields with one key the later counts. -/
def toJson? : Document → Option Json
  | null => some .null
  | bool b => some (.bool b)
  | num n => some (.num n)
  | str s => some (.str s)
  | arr items => (itemValues? items).map .arr
  | obj fields => (fieldValues? fields).map .ofFields
  | unreadable => none

def itemValues? : List Document → Option (List Json)
  | [] => some []
  | d :: ds => do return (← toJson? d) :: (← itemValues? ds)

def fieldValues? : List (String × Document) → Option (List (String × Json))
  | [] => some []
  | (k, d) :: fs => do return (k, ← toJson? d) :: (← fieldValues? fs)

end

mutual

def ofJson : Json → Document
  | .null => null
  | .bool b => bool b
  | .num n => num n
  | .str s => str s
  | .arr items => arr (ofItems items)
  | .obj fields => obj (ofFields fields)

def ofItems : List Json → List Document
  | [] => []
  | v :: vs => ofJson v :: ofItems vs

/-- Each field as a document. -/
def ofFields : List (String × Json) → List (String × Document)
  | [] => []
  | (k, v) :: fs => (k, ofJson v) :: ofFields fs

end

end Document

end OpenBadges
