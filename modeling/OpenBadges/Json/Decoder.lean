import OpenBadges.Dict
import OpenBadges.Json.Document

/-!
# Decoding documents

A decoder turns a document into a value of some type, or refuses it. The
decoders here are for plain values, lists, dictionaries, plain variants and
records.

A record is an object or the list of its fields in their declared order. Fields
it does not know are passed over; a field it knows may not occur twice; a list
may break off early but not go on too long. What a record leaves out is decided
field by field, by `required` and `orDefault`.
-/

namespace OpenBadges

/-- Reads a value out of a document, or refuses. -/
abbrev Decoder (α : Type) := Document → Option α

namespace Decoder

variable {α : Type}

def string : Decoder String
  | .str s => some s
  | _ => none

def bool : Decoder Bool
  | .bool b => some b
  | _ => none

/-- A whole number from zero up to but not including the limit. -/
def nat (limit : Nat) : Decoder Nat
  | .num (.int n) => if 0 ≤ n ∧ n < limit then some n.toNat else none
  | _ => none

def json : Decoder Json := Document.toJson?

/-- A list of values of one type. -/
def list (item : Decoder α) : Decoder (List α)
  | .arr items => items.mapM item
  | _ => none

/-- An object whose fields all have one type; of two under one key the later counts. -/
def dict (value : Decoder α) : Decoder (Dict α)
  | .obj fields => (fields.mapM fun f => (value f.2).map fun a => (f.1, a)).map Dict.ofList
  | _ => none

/-- A value that `null` may stand in for. -/
def optional (value : Decoder α) : Decoder (Option α)
  | .null => some none
  | d => (value d).map some

/-- One of several named variants, written as its name or as an object that maps its name to `null`. -/
def variant (named : String → Option α) : Decoder α
  | .str name => named name
  | .obj [(name, .null)] => named name
  | _ => none

/-! ## Records -/

/-- What a document holds for each field of a record. -/
abbrev Record := String → Option Document

/-- The first value under a name, in the order of the text. -/
def lookup (name : String) : List (String × Document) → Option Document
  | [] => none
  | (k, d) :: rest => if k = name then some d else lookup name rest

def occurrences (name : String) (fields : List (String × Document)) : Nat :=
  fields.countP fun f => f.1 = name

/-- The record with these fields written out, or none if one of its names occurs twice. -/
def fields (names : List String) (fs : List (String × Document)) : Option Record :=
  if names.all fun name => occurrences name fs ≤ 1 then some fun name => lookup name fs else none

/-- The record with these names, as an object or as a list in the order of the names. -/
def record (names : List String) : Decoder Record
  | .obj fs => fields names fs
  | .arr items =>
    if items.length ≤ names.length then some fun name => lookup name (names.zip items) else none
  | _ => none

/-- A field that has to be there. -/
def required (value : Decoder α) : Option Document → Option α
  | none => none
  | some d => value d

/-- A field with a value for when it is missing. -/
def orDefault (default : α) (value : Decoder α) : Option Document → Option α
  | none => some default
  | some d => value d

/-- A field that may be missing or `null`. -/
def orNone (value : Decoder α) : Option Document → Option (Option α) :=
  orDefault none (optional value)

/-! ## Parts are smaller than the whole -/

theorem sizeOf_lookup_lt {name : String} {fs : List (String × Document)} {d : Document}
    (h : lookup name fs = some d) : sizeOf d < sizeOf fs := by
  induction fs with
  | nil => simp [lookup] at h
  | cons f rest ih =>
    obtain ⟨k, e⟩ := f
    rw [lookup] at h
    split at h
    · cases h
      simp
      omega
    · have := ih h
      simp
      omega

theorem sizeOf_lookup_zip_lt {name : String} {names : List String} {items : List Document}
    {d : Document} (h : lookup name (names.zip items) = some d) : sizeOf d < sizeOf items := by
  induction names generalizing items with
  | nil => simp [lookup] at h
  | cons k names ih =>
    cases items with
    | nil => simp [lookup] at h
    | cons e items =>
      rw [List.zip_cons_cons, lookup] at h
      split at h
      · cases h
        simp
        omega
      · have := ih h
        simp
        omega

/-- What a record holds is a proper part of the document. -/
theorem sizeOf_record_lt {names : List String} {doc : Document} {r : Record}
    (h : record names doc = some r) {name : String} {d : Document} (hd : r name = some d) :
    sizeOf d < sizeOf doc := by
  cases doc with
  | obj fs =>
    simp only [record, fields] at h
    split at h
    · cases h
      have := sizeOf_lookup_lt hd
      simp
      omega
    · simp at h
  | arr items =>
    simp only [record] at h
    split at h
    · cases h
      have := sizeOf_lookup_zip_lt hd
      simp
      omega
    · simp at h
  | null => simp [record] at h
  | bool b => simp [record] at h
  | num n => simp [record] at h
  | str s => simp [record] at h
  | unreadable => simp [record] at h

end Decoder

end OpenBadges
