import OpenBadges.Json.Basic

/-!
# Items of a collection

A collection is a list of items, and one field of its items identifies them. An
item without a value in that field, or with `null` there, is anonymous: it is
never the same as another item. Storing an item overwrites the first with the same
identity, in its place, or else appends.
-/

namespace OpenBadges

/-- An item of a collection, as the server sends it. -/
abbrev Item := Json

namespace Items

/-- What identifies an item, if anything does. -/
def identity? (field : String) (item : Item) : Option Json :=
  (item.get? field).filter fun id => !id.isNull

/-- Whether the item has the value in the field. -/
def holds (field : String) (value : Json) (item : Item) : Bool :=
  (item.get? field).any fun v => v == value

/-- The place of the first item with the identity of `item`. -/
def position? (field : String) (items : List Item) (item : Item) : Option Nat :=
  (identity? field item).bind fun id => items.findIdx? (holds field id)

/-- Overwrites the item of the same identity, or appends. -/
def replace (field : String) (items : List Item) (item : Item) : List Item :=
  match position? field items item with
  | some i => items.set i item
  | none => items ++ [item]

/-- Stores an item. One that is known to be new is stored like any other. -/
def add (field : String) (isNew : Bool) (items : List Item) (item : Item) : List Item :=
  if isNew || (position? field items item).isSome then replace field items item
  else items ++ [item]

/-- Stores items one after another. -/
def addAll (field : String) (items : List Item) (more : List Item) : List Item :=
  more.foldl (add field false) items

/-- Takes out the item of the same identity; also that item. -/
def remove? (field : String) (items : List Item) (item : Item) : Option (Item × List Item) := do
  let i ← position? field items item
  return (← items[i]?, items.eraseIdx i)

/-- Sets a field of the first item that holds a value in another field; also the changed item. -/
def setField? (searchKey : String) (searchValue : Json) (updateKey : String) (updateValue : Json)
    (items : List Item) : Option (Item × List Item) := do
  let i ← items.findIdx? (holds searchKey searchValue)
  let changed ← (← items[i]?).set? updateKey updateValue
  return (changed, items.set i changed)

/-- The first item that holds a value in a field. -/
def first? (field : String) (value : Json) (items : List Item) : Option Item :=
  items.find? (holds field value)

end Items

/-- What a filter lets through: one value, or any of several. -/
inductive FilterValue where
  | one (value : Json)
  | anyOf (values : List Json)

namespace FilterValue

/-- A list of values lets any of them through, everything else only itself. -/
def ofJson : Json → FilterValue
  | .arr values => anyOf values
  | value => one value

/-- Whether the filter lets a value through. -/
def accepts : FilterValue → Json → Bool
  | one value, candidate => value == candidate
  | anyOf values, candidate => values.any fun v => v == candidate

/-- The items that hold an accepted value in a field. -/
def select (f : FilterValue) (field : String) (items : List Item) : List Item :=
  items.filter fun item => (item.get? field).any f.accepts

end FilterValue

end OpenBadges
