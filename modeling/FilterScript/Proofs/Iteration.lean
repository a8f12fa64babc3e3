import FilterScript.Proofs.WellFormed
import FilterScript.Value.Cursor

/-! # What a cursor gives

A cursor that is asked until it has nothing left gives the items of its value from the first to the
last. From these the value can be put together again, the built-in function `len` counts them, and
the value is true if there is one. What the items are is said by their indices, without a cursor.
-/

namespace FilterScript

namespace Value

/-- The kinds of the values that have items. -/
def iterableKinds : List Kind := [.array, .string, .map]

/-- The item at an index that counts from zero, with its place: the index itself in an array or a
text, and the key in a map. -/
def itemAt? : Value → Nat → Option (Value × Place)
  | .array elements, n => elements[n]?.map fun element => (element, .index n)
  | .string text, n => text.toList[n]?.map fun c => (.string (String.ofList [c]), .index n)
  | .map entries, n => entries[n]?.map fun (key, value) => (value, .key key)
  | _, _ => none

/-- An item as an entry of a map, if it has a key. -/
def entryOfItem? : Value × Place → Option (String × Value)
  | (value, .key key) => some (key, value)
  | (_, .index _) => none

/-- The value of a kind that has the given items. -/
def ofItems? (kind : Kind) (items : List (Value × Place)) : Option Value :=
  match kind with
  | .array => some (.array (items.map Prod.fst))
  | .string => some (.string (String.join (items.map fun item => item.1.render)))
  | .map => some (.map (items.filterMap entryOfItem?))
  | _ => none

variable {value : Value} {items : List (Value × Place)}

/-- A value of an iterable kind has items. -/
theorem exists_items (iterable : value.kind ∈ iterableKinds) :
    ∃ items, value.items? = some items := by
  simp only [iterableKinds, List.mem_cons, List.not_mem_nil, or_false] at iterable
  cases value with
  | array elements | string text | map entries => exact ⟨_, rfl⟩
  | _ => rcases iterable with other | other | other <;> cases other

/-- Only arrays, texts and maps have items. -/
theorem items?_cases (listed : value.items? = some items) :
    (∃ elements, value = .array elements ∧
      items = elements.zipIdx.map fun (element, n) => (element, .index n)) ∨
    (∃ text, value = .string text ∧
      items = text.toList.zipIdx.map fun (c, n) => (.string (String.ofList [c]), .index n)) ∨
    ∃ entries, value = .map entries ∧
      items = entries.map fun (key, value) => (value, .key key) := by
  cases value with
  | array elements => exact .inl ⟨elements, rfl, (Option.some.inj listed).symm⟩
  | string text => exact .inr (.inl ⟨text, rfl, (Option.some.inj listed).symm⟩)
  | map entries => exact .inr (.inr ⟨entries, rfl, (Option.some.inj listed).symm⟩)
  | _ => cases listed

/-- An item can be looked up by its number without the list of all. -/
theorem getElem?_items (listed : value.items? = some items) (n : Nat) :
    items[n]? = value.itemAt? n := by
  rcases items?_cases listed with ⟨elements, rfl, rfl⟩ | ⟨text, rfl, rfl⟩ | ⟨entries, rfl, rfl⟩
  · rw [List.getElem?_map, List.getElem?_zipIdx, Option.map_map, Nat.zero_add]
    rfl
  · rw [List.getElem?_map, List.getElem?_zipIdx, Option.map_map, Nat.zero_add]
    rfl
  · rw [List.getElem?_map]
    rfl

/-- A text is made of its characters. -/
theorem join_characters (text : String) :
    String.join (text.toList.map fun c => String.ofList [c]) = text := by
  apply String.toList_injective
  simp only [String.toList_join, List.flatMap_map, String.toList_ofList, List.flatMap_singleton']

/-- A value is made of its items. -/
theorem ofItems?_items (listed : value.items? = some items) :
    ofItems? value.kind items = some value := by
  rcases items?_cases listed with ⟨elements, rfl, rfl⟩ | ⟨text, rfl, rfl⟩ | ⟨entries, rfl, rfl⟩
  · have elementsBack : (elements.zipIdx.map fun (element, n) => (element, Place.index n)).map
        Prod.fst = elements := by
      rw [List.map_map]
      exact List.zipIdx_map_fst 0 elements
    exact congrArg (some ∘ Value.array) elementsBack
  · have charactersBack : (text.toList.zipIdx.map fun (c, n) =>
        (Value.string (String.ofList [c]), Place.index n)).map (fun item => item.1.render) =
          text.toList.map fun c => String.ofList [c] :=
      calc _ = (text.toList.zipIdx.map Prod.fst).map fun c => String.ofList [c] := by
            rw [List.map_map, List.map_map]
            rfl
        _ = _ := by rw [List.zipIdx_map_fst]
    exact congrArg (some ∘ Value.string) ((congrArg String.join charactersBack).trans
      (join_characters text))
  · have entriesBack : (entries.map fun (key, value) => (value, Place.key key)).filterMap
        entryOfItem? = entries := by
      rw [List.filterMap_map]
      exact List.filterMap_some
    exact congrArg (some ∘ Value.map) entriesBack

/-- There are as many items as the length of the value says. -/
theorem length_items (listed : value.items? = some items) :
    items.length = Builtin.count value := by
  rcases items?_cases listed with ⟨elements, rfl, rfl⟩ | ⟨text, rfl, rfl⟩ | ⟨entries, rfl, rfl⟩
  · rw [List.length_map, List.length_zipIdx, Builtin.count]
  · rw [List.length_map, List.length_zipIdx, String.length_toList, Builtin.count]
  · rw [List.length_map, Builtin.count]

/-- An iterable value is true exactly if it has items. -/
theorem truthy_iff_items (listed : value.items? = some items) :
    value.truthy = true ↔ items ≠ [] := by
  rcases items?_cases listed with ⟨elements, rfl, rfl⟩ | ⟨text, rfl, rfl⟩ | ⟨entries, rfl, rfl⟩
  · simp [truthy]
  · simp [truthy]
  · simp [truthy]

end Value

/-- The built-in function `len` counts, as far as an `int` does. -/
theorem Builtin.compute_len_eq_ok_iff (characterNamed? : String → Option Char) (value : Value)
    (n : Int) :
    Builtin.len.compute characterNamed? [value] = .ok (.integer .int n) ↔
      n = Builtin.count value ∧ Builtin.count value < 2 ^ 63 := by
  have computed : Builtin.len.compute characterNamed? [value] =
      (Value.ofInt .int (Builtin.count value)).mapError Failure.ofCause := rfl
  rw [computed]
  by_cases short : Builtin.count value < 2 ^ 63
  · rw [ofInt_length short]
    constructor
    · intro same
      cases same
      exact ⟨rfl, short⟩
    · rintro ⟨rfl, -⟩
      rfl
  · have high : IntKind.int.high = 2 ^ 63 - 1 := by decide
    have exceeds : ¬ IntKind.int.Holds (Builtin.count value) := fun holds => by
      have bounded := holds.2
      omega
    rw [Value.ofInt, if_neg exceeds]
    exact ⟨nofun, fun both => absurd both.2 short⟩

namespace ItemCursor

variable {cursor behind : ItemCursor} {item : Value × Place}

/-- A cursor that has items left gives the next one and moves on. -/
theorem next_of_some (left : cursor.items[cursor.given]? = some item) :
    cursor.next = (some item, { cursor with given := cursor.given + 1 }) := by
  simp only [next, left]

/-- A cursor that has none left gives nothing and stays. -/
theorem next_of_none (exhausted : cursor.items[cursor.given]? = none) :
    cursor.next = (none, cursor) := by
  simp only [next, exhausted]

/-- The answer to the question for the next item is the item at the index of the cursor. -/
theorem fst_next (cursor : ItemCursor) : cursor.next.1 = cursor.items[cursor.given]? := by
  cases left : cursor.items[cursor.given]? with
  | some item => rw [next_of_some left]
  | none => rw [next_of_none left]

/-- A cursor that is asked keeps its items. -/
theorem items_next (cursor : ItemCursor) : cursor.next.2.items = cursor.items := by
  cases left : cursor.items[cursor.given]? with
  | some item => rw [next_of_some left]
  | none => rw [next_of_none left]

/-- A cursor that gives an item has one item less to give. -/
theorem eq_of_next (asked : cursor.next = (some item, behind)) :
    cursor.items[cursor.given]? = some item ∧
      behind = { cursor with given := cursor.given + 1 } := by
  cases left : cursor.items[cursor.given]? with
  | some other =>
      rw [next_of_some left] at asked
      cases asked
      exact ⟨rfl, rfl⟩
  | none =>
      rw [next_of_none left] at asked
      cases asked

/-- The items that a cursor gives until it has none left. -/
def drain (cursor : ItemCursor) : List (Value × Place) :=
  match _asked : cursor.next with
  | (some item, behind) => item :: behind.drain
  | (none, _) => []
termination_by cursor.items.length - cursor.given
decreasing_by
  obtain ⟨left, rfl⟩ := eq_of_next _asked
  have bounded := (List.getElem?_eq_some_iff.mp left).1
  simp only
  omega

/-- A cursor gives the items that it has not given yet. -/
theorem drain_eq (cursor : ItemCursor) : cursor.drain = cursor.items.drop cursor.given := by
  fun_induction drain cursor with
  | case1 cursor item behind asked ih =>
      obtain ⟨left, rfl⟩ := eq_of_next asked
      rw [ih, List.drop_eq_getElem?_toList_append (i := cursor.given), left]
      rfl
  | case2 cursor behind asked =>
      have exhausted : cursor.items[cursor.given]? = none := by rw [← fst_next, asked]
      exact (List.drop_eq_nil_of_le (List.getElem?_eq_none_iff.mp exhausted)).symm

/-- A new cursor gives all items of its value. -/
theorem drain_ofValue {value : Value} (opened : ofValue value = .ok cursor) :
    value.items? = some cursor.drain := by
  unfold ofValue at opened
  cases listed : value.items? with
  | none =>
      rw [listed] at opened
      cases opened
  | some items =>
      rw [listed] at opened
      cases opened
      rw [drain_eq, List.drop_zero]

end ItemCursor

end FilterScript
