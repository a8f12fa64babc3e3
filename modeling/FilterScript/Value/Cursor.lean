import FilterScript.Value.Basic

/-! # Iteration

The items of an array, a text or a map, one after the other. A text has its characters for items.
An item comes with its place: a number, or its key in a map. A cursor knows how many items it has
given; cursors on one value are independent, and the value is never changed.
-/

namespace FilterScript

/-- Where an item stands in the value it belongs to. -/
inductive Place where
  | index (n : Nat)
  | key (name : String)
  deriving DecidableEq, Repr

namespace Value

/-- The items of a value with their places, if it has items. -/
def items? : Value → Option (List (Value × Place))
  | .array elements => some (elements.zipIdx.map fun (element, n) => (element, .index n))
  | .string text =>
    some (text.toList.zipIdx.map fun (c, n) => (.string (String.ofList [c]), .index n))
  | .map entries => some (entries.map fun (key, value) => (value, .key key))
  | _ => none

end Value

/-- The items of a value, and how many of them have been given. -/
structure ItemCursor where
  items : List (Value × Place)
  given : Nat

namespace ItemCursor

/-- A new cursor on a value. -/
def ofValue (value : Value) : Except Failure ItemCursor :=
  match value.items? with
  | some items => .ok ⟨items, 0⟩
  | none => .error (.notIterable value.typeName)

/-- The next item, if there is one left, and the cursor behind it. -/
def next (cursor : ItemCursor) : Option (Value × Place) × ItemCursor :=
  match cursor.items[cursor.given]? with
  | some item => (some item, { cursor with given := cursor.given + 1 })
  | none => (none, cursor)

/-- The cursor before the first item. -/
def reset (cursor : ItemCursor) : ItemCursor := { cursor with given := 0 }

end ItemCursor

end FilterScript
