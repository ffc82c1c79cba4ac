import OpenBadges.Decimal.Binary64
import OpenBadges.Dict

/-!
# JSON values

The items of a collection, the bodies of requests and responses and the values a
filter compares with are all JSON values. Numbers come in two kinds that never
mix, whole numbers and doubles, so `1` and `1.0` are different values. An object
is a list of fields in key order without repetitions; that is what `ofFields` and
`set` build and what reading a text yields.

`==` is equality of values: by kind for numbers, numerical between doubles, and
regardless of the order in which the fields of an object were written.
-/

namespace OpenBadges

/-- A JSON number. -/
inductive Number where
  | int (n : Int)
  /-- A number with a point or an exponent, or one too large to be whole. -/
  | float (x : Binary64)
deriving DecidableEq, Repr

/-- Numbers of the same kind with the same value. -/
def Number.same : Number → Number → Bool
  | .int m, .int n => m = n
  | .float x, .float y => x.sameValue y
  | _, _ => false

/-- The double nearest to a number. -/
def Number.toBinary64? : Number → Option Binary64
  | .int n => Binary64.ofInt? n
  | .float x => some x

/-- A JSON value. -/
inductive Json where
  | null
  | bool (b : Bool)
  | num (n : Number)
  | str (s : String)
  | arr (items : List Json)
  /-- The fields in key order, no key twice. -/
  | obj (fields : List (String × Json))
deriving Inhabited, Repr

namespace Json

mutual

def same : Json → Json → Bool
  | null, null => true
  | bool a, bool b => a = b
  | num m, num n => m.same n
  | str s, str t => s = t
  | arr as, arr bs => sameItems as bs
  | obj fs, obj gs => sameFields fs gs
  | _, _ => false

/-- Equality of lists of values, place by place. -/
def sameItems : List Json → List Json → Bool
  | [], [] => true
  | a :: as, b :: bs => same a b && sameItems as bs
  | _, _ => false

/-- Equality of lists of fields, place by place. -/
def sameFields : List (String × Json) → List (String × Json) → Bool
  | [], [] => true
  | (k, a) :: fs, (l, b) :: gs => k = l && same a b && sameFields fs gs
  | _, _ => false

end

instance : BEq Json := ⟨same⟩

/-- Whether the value is `null`. -/
def isNull : Json → Bool
  | null => true
  | _ => false

/-- The field `k` of an object; nothing else has fields. -/
def get? (k : String) : Json → Option Json
  | obj fields => Entries.find? k fields
  | _ => none

/-- An object with its field `k` set to `v`; nothing else has fields to set. -/
def set? (object : Json) (k : String) (v : Json) : Option Json :=
  match object with
  | obj fields => some (obj (Entries.insert k v fields))
  | _ => none

def items? : Json → Option (List Json)
  | arr items => some items
  | _ => none

/-- The object of these fields; of two under one key the later counts. -/
def ofFields (fields : List (String × Json)) : Json :=
  obj (fields.foldl (fun es e => Entries.insert e.1 e.2 es) [])

theorem ofFields_eq (fields : List (String × Json)) :
    ofFields fields = obj (Dict.ofList fields).entries :=
  congrArg obj (Dict.entries_insertAll ∅ fields).symm

/-- Fields in order are left as they are. -/
theorem ofFields_of_sorted {fields : List (String × Json)} (h : Entries.Sorted fields) :
    ofFields fields = obj fields := by
  rw [ofFields_eq, Dict.ofList_entries ⟨fields, h⟩]

theorem ofFields_ne_null (fields : List (String × Json)) : ofFields fields ≠ null :=
  nofun

def int (n : Int) : Json := num (.int n)

/-- The value that stands for something, or `null` where there is nothing. -/
def ofOption {α : Type} (f : α → Json) : Option α → Json
  | none => null
  | some a => f a

/-- The object whose fields are the entries of a dictionary. -/
def ofDict {α : Type} (f : α → Json) (m : Dict α) : Json :=
  obj (m.entries.map fun e => (e.1, f e.2))

end Json

end OpenBadges
