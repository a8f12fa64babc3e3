import FilterScript.Proofs.Iteration
import FilterScript.Proofs.TextRelations
import Mathlib.Logic.Relation

/-! # Parts of a value

An array, a text or a map has parts: its items, their items, and so on. The rendering of a value
has the renderings of its items in it as they are, between the brackets and separators that belong
to the value alone, and so `~=` finds every part, at any depth, and every key of a map among the
parts (`Value.contains_parts`).
-/

namespace FilterScript

/-- Each of some texts occurs where they are joined. -/
theorem infix_intercalate (separator : String) {text : String} {texts : List String}
    (member : text ∈ texts) : text.toList <:+: (separator.intercalate texts).toList := by
  induction texts with
  | nil => cases member
  | cons first rest ih =>
      cases rest with
      | nil =>
          obtain rfl := List.mem_singleton.mp member
          rw [String.intercalate_singleton]
      | cons second others =>
          rw [String.intercalate_cons_cons, String.toList_append, String.toList_append]
          rcases List.mem_cons.mp member with rfl | later
          · rw [List.append_assoc]
            exact List.infix_append_left
          · exact (ih later).trans List.infix_append_right

/-- A text occurs between two others. -/
theorem infix_between (front text back : String) :
    text.toList <:+: (front ++ text ++ back).toList := by
  rw [String.toList_append, String.toList_append]
  exact List.infix_append _ _ _

namespace Value

variable {value item part : Value} {items : List (Value × Place)} {place : Place} {key : String}

theorem renderAll_eq_map (elements : List Value) : renderAll elements = elements.map render := by
  induction elements with
  | nil => rfl
  | cons element rest ih => rw [renderAll, ih, List.map_cons]

/-- The rendering of an entry of a map. -/
def renderEntry (entry : String × Value) : String := entry.1 ++ ": " ++ entry.2.render

/-- The renderings of entries are made one by one. -/
theorem renderEntries_eq_map (entries : List (String × Value)) :
    renderEntries entries = entries.map renderEntry := by
  induction entries with
  | nil => rfl
  | cons entry rest ih => rw [renderEntries, ih, List.map_cons, renderEntry]

/-- The rendering of an array contains the renderings of its elements. -/
theorem contains_element {elements : List Value} (member : item ∈ elements) :
    (Value.array elements).Contains item := by
  have rendered : item.render ∈ renderAll elements := by
    rw [renderAll_eq_map]
    exact List.mem_map_of_mem member
  rw [contains_iff, render]
  exact (infix_intercalate ", " rendered).trans (infix_between _ _ _)

/-- A text contains each of its characters. -/
theorem contains_character {text : String} {c : Char} (member : c ∈ text.toList) :
    (Value.string text).Contains (.string (String.ofList [c])) := by
  rw [contains_iff, render, render, String.toList_ofList]
  exact (List.singleton_infix_iff c _).mpr member

/-- Whatever occurs in an entry occurs in the map. -/
theorem infix_entry {entries : List (String × Value)} {entry : String × Value}
    (member : entry ∈ entries) :
    (renderEntry entry).toList <:+: (Value.map entries).render.toList := by
  have rendered : renderEntry entry ∈ renderEntries entries := by
    rw [renderEntries_eq_map]
    exact List.mem_map_of_mem member
  rw [render]
  exact (infix_intercalate ", " rendered).trans (infix_between _ _ _)

/-- The rendering of a map contains the renderings of its values. -/
theorem contains_value {entries : List (String × Value)} (member : (key, item) ∈ entries) :
    (Value.map entries).Contains item := by
  have behindKey : item.render.toList <:+: (renderEntry (key, item)).toList := by
    rw [renderEntry, String.toList_append]
    exact List.infix_append_right
  exact contains_iff.mpr (behindKey.trans (infix_entry member))

/-- The rendering of a map contains its keys. -/
theorem contains_key {entries : List (String × Value)} (member : key ∈ Table.names entries) :
    (Value.map entries).Contains (.string key) := by
  obtain ⟨entry, there, rfl⟩ := List.mem_map.mp member
  have beforeValue : entry.1.toList <:+: (renderEntry entry).toList := by
    rw [renderEntry, String.append_assoc, String.toList_append]
    exact List.infix_append_left
  exact contains_iff.mpr (beforeValue.trans (infix_entry there))

/-- Every item of a value is found in it. -/
theorem contains_item (listed : value.items? = some items) (member : (item, place) ∈ items) :
    value.Contains item := by
  rcases items?_cases listed with ⟨elements, rfl, rfl⟩ | ⟨text, rfl, rfl⟩ | ⟨entries, rfl, rfl⟩
  · obtain ⟨⟨element, n⟩, there, same⟩ := List.mem_map.mp member
    cases same
    exact contains_element (List.fst_mem_of_mem_zipIdx there)
  · obtain ⟨⟨c, n⟩, there, same⟩ := List.mem_map.mp member
    cases same
    exact contains_character (List.fst_mem_of_mem_zipIdx there)
  · obtain ⟨⟨key, value⟩, there, same⟩ := List.mem_map.mp member
    cases same
    exact contains_value there

/-! ## Parts at any depth -/

/-- A cursor on the value gives the item. -/
def Gives (value item : Value) : Prop :=
  ∃ cursor place, ItemCursor.ofValue value = .ok cursor ∧ (item, place) ∈ cursor.drain

/-- The part comes of the value by going on to an item any number of times. -/
def HasPart : Value → Value → Prop := Relation.ReflTransGen Gives

/-- What an iteration lists, it gives at some time. -/
theorem gives_of_mem (listed : value.items? = some items) (member : (item, place) ∈ items) :
    value.Gives item := by
  have opened : ItemCursor.ofValue value = .ok ⟨items, 0⟩ := by rw [ItemCursor.ofValue, listed]
  refine ⟨⟨items, 0⟩, place, opened, ?_⟩
  rw [ItemCursor.drain_eq]
  exact member

theorem Gives.contains (gives : value.Gives item) : value.Contains item := by
  obtain ⟨cursor, place, opened, member⟩ := gives
  exact contains_item (ItemCursor.drain_ofValue opened) member

/-- A part of a part is contained in the rendering of the whole. -/
theorem HasPart.contains (reached : value.HasPart part) : value.Contains part := by
  induction reached with
  | refl => exact .refl value
  | tail _ gives ih => exact ih.trans gives.contains

/-- **Every part of a value is found in it.** So is every key of a map that is a part of it. -/
theorem contains_parts (value part : Value) (reached : value.HasPart part) :
    value.relate (some part) "~=" = .ok true ∧
      ∀ entries, part = .map entries → ∀ key ∈ Table.names entries,
        value.relate (some (.string key)) "~=" = .ok true := by
  refine ⟨reached.contains, ?_⟩
  rintro entries rfl key member
  exact reached.contains.trans (contains_key member)

/-- A character of a text under a key of a map inside a list is found in the list, and so is the
key. -/
theorem contains_parts_nested :
    let map := Value.map [("key", .string "ab")]
    let value := Value.array [.boolean true, map]
    value.HasPart map ∧ value.HasPart (.string "b") ∧
      value.relate (some (.string "b")) "~=" = .ok true ∧
      "key" ∈ Table.names [("key", Value.string "ab")] ∧
      value.relate (some (.string "key")) "~=" = .ok true := by
  intro map value
  have first : value.Gives map := gives_of_mem rfl (.tail _ (.head _))
  have second : map.Gives (.string "ab") := gives_of_mem rfl (.head _)
  have third : Gives (.string "ab") (.string "b") := gives_of_mem rfl (.tail _ (.head _))
  have key : "key" ∈ Table.names [("key", Value.string "ab")] := .head _
  have toMap : value.HasPart map := .single first
  have toCharacter : value.HasPart (.string "b") := (toMap.tail second).tail third
  exact ⟨toMap, toCharacter, (contains_parts value _ toCharacter).1, key,
    (contains_parts value map toMap).2 _ rfl "key" key⟩

end Value

end FilterScript
