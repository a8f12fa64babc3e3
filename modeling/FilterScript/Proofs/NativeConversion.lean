import FilterScript.Proofs.Masking
import FilterScript.Proofs.NativeRoundTrip
import Mathlib.Data.List.Induction

/-! # What host values become

A host value is taken in from left to right, a list or a dictionary with everything that stands in
it. It is refused exactly if a whole number that neither an `int` nor a `uint64` holds is come to on
the way, and then for the first such number. Otherwise it becomes the one value that a relation
without any order of evaluation describes, in which a dictionary becomes a map with an entry for
every text of a key: where the first key of that text stands, and with what the last one holds
(`Value.ofNative_refused_or_becomes`).
-/

namespace FilterScript

/-! ## Tables made of pairs -/

namespace Table

variable {α κ : Type} [DecidableEq κ]

theorem ofPairs_concat (pairs : Table α κ) (name : κ) (value : α) :
    ofPairs (pairs ++ [(name, value)]) = (ofPairs pairs).set name value := by
  rw [ofPairs, List.foldl_append]
  rfl

/-- The names of a table made of pairs stand where they came first. -/
theorem names_ofPairs (pairs : Table α κ) : (ofPairs pairs).names = pairs.names.eraseDups := by
  induction pairs using List.reverseRecOn with
  | nil => rfl
  | append_singleton pairs pair ih =>
      have later : names (pairs ++ [pair]) = names pairs ++ [pair.1] := List.map_append
      rw [ofPairs_concat, names_set, ih, later, List.eraseDups_append]
      by_cases there : pair.1 ∈ names pairs
      · have again : [pair.1].removeAll (names pairs) = [] := by
          simp only [List.removeAll, List.filter_cons, List.elem_eq_mem, there, decide_true,
            Bool.not_true, Bool.false_eq_true, ↓reduceIte, List.filter_nil]
        rw [again, if_pos (List.mem_eraseDups.mpr there), List.eraseDups_nil, List.append_nil]
      · have first : [pair.1].removeAll (names pairs) = [pair.1] := by
          simp only [List.removeAll, List.filter_cons, List.elem_eq_mem, there, decide_false,
            Bool.not_false, ↓reduceIte, List.filter_nil]
        rw [first, if_neg fun member => there (List.mem_eraseDups.mp member)]
        rfl

/-- A name of a table made of pairs has the value that it was given last. -/
theorem get?_ofPairs (pairs : Table α κ) (name : κ) :
    (ofPairs pairs).get? name = get? pairs.reverse name := by
  induction pairs using List.reverseRecOn with
  | nil => rfl
  | append_singleton pairs pair ih =>
      rw [ofPairs_concat, get?_set, ih, List.reverse_append]
      exact (get?_cons pair.1 name pair.2 pairs.reverse).symm

theorem get?_eq_none {table : Table α κ} {name : κ} (absent : name ∉ table.names) :
    table.get? name = none := by
  refine List.lookup_eq_none_iff.mpr fun pair member => bne_iff_ne.mpr fun same => absent ?_
  exact same ▸ List.mem_map_of_mem member

/-- A table is given by its names in order and their values. -/
theorem eq_of_names_of_get? {table other : Table α κ} (distinct : table.names.Nodup)
    (names : table.names = other.names) (values : ∀ name, table.get? name = other.get? name) :
    table = other := by
  induction table generalizing other with
  | nil => exact (List.map_eq_nil_iff.mp names.symm).symm
  | cons entry rest ih =>
      obtain ⟨key, held⟩ := entry
      cases other with
      | nil => cases names
      | cons entry' rest' =>
          obtain ⟨key', held'⟩ := entry'
          obtain ⟨rfl, alike⟩ := List.cons_eq_cons.mp names
          obtain ⟨absent, distinct⟩ := List.nodup_cons.mp distinct
          have here := values key
          simp only [get?_cons, ↓reduceIte, Option.some.injEq] at here
          have later : rest = rest' := by
            refine ih distinct alike fun name => ?_
            by_cases same : name = key
            · subst same
              have absent' : name ∉ Table.names rest' := fun member => absent (alike ▸ member)
              rw [get?_eq_none absent, get?_eq_none absent']
            · have there := values name
              simp only [get?_cons, same, ↓reduceIte] at there
              exact there
          rw [here, later]

/-- The table gathers pairs: it has each of their names once, where it came first, with the value
that came last. -/
structure Gathers (table pairs : Table α κ) : Prop where
  names : table.names = pairs.names.eraseDups
  values : ∀ name, table.get? name = get? pairs.reverse name

/-- The one table that gathers pairs is the table made of them. -/
theorem gathers_iff {table pairs : Table α κ} : table.Gathers pairs ↔ table = ofPairs pairs := by
  constructor
  · intro gathers
    have names := gathers.names.trans (names_ofPairs pairs).symm
    refine eq_of_names_of_get? (names ▸ nodup_names_ofPairs pairs) names fun name => ?_
    rw [gathers.values, get?_ofPairs]
  · rintro rfl
    exact ⟨names_ofPairs pairs, get?_ofPairs pairs⟩

end Table

/-! ## The parts of a host value -/

mutual

/-- What stands in a host value, in the order in which it is come to: the items of a list or a tuple
and the values of a dictionary, each with everything that stands in it. Keys are not counted, and
nothing stands in a value of a script. -/
def Native.inner : Native → List Native
  | .list items | .tuple items => innerOfItems items
  | .mapping entries => innerOfEntries entries
  | .none | .bool _ | .int _ | .float _ | .string _ | .object _ _ | .value _ => []

def innerOfItems : List Native → List Native
  | [] => []
  | item :: rest => item :: item.inner ++ innerOfItems rest

def innerOfEntries : List (NativeKey × Native) → List Native
  | [] => []
  | (_, item) :: rest => item :: item.inner ++ innerOfEntries rest

end

namespace Native

/-- A host value and what stands in it. -/
def parts (native : Native) : List Native := native :: native.inner

/-- The whole number that a host value is, unless it fits. -/
def misfit? : Native → Option Int
  | .int n => if Fits n then .none else some n
  | .none | .bool _ | .float _ | .string _ | .list _ | .tuple _ | .mapping _ | .object _ _
  | .value _ => .none

end Native

mutual

/-- The misfits of a host value are those of its parts. -/
theorem Native.misfits_eq : (native : Native) →
    native.misfits = native.parts.filterMap Native.misfit?
  | .int n => by
      by_cases fits : Fits n <;>
        simp only [Native.misfits, Native.parts, Native.inner, List.filterMap_cons,
          Native.misfit?, fits, ↓reduceIte, List.filterMap_nil]
  | .list items | .tuple items => by
      simp only [Native.misfits, Native.parts, Native.inner, List.filterMap_cons, Native.misfit?,
        misfitsOfItems_eq items]
  | .mapping entries => by
      simp only [Native.misfits, Native.parts, Native.inner, List.filterMap_cons, Native.misfit?,
        misfitsOfEntries_eq entries]
  | .none | .bool _ | .float _ | .string _ | .object _ _ | .value _ => by
      simp only [Native.misfits, Native.parts, Native.inner, List.filterMap_cons, Native.misfit?,
        List.filterMap_nil]

theorem misfitsOfItems_eq : (items : List Native) →
    misfitsOfItems items = (innerOfItems items).filterMap Native.misfit?
  | [] => by simp only [misfitsOfItems, innerOfItems, List.filterMap_nil]
  | item :: rest => by
      rw [misfitsOfItems, innerOfItems, List.filterMap_append, item.misfits_eq,
        misfitsOfItems_eq rest, Native.parts]

theorem misfitsOfEntries_eq : (entries : List (NativeKey × Native)) →
    misfitsOfEntries entries = (innerOfEntries entries).filterMap Native.misfit?
  | [] => by simp only [misfitsOfEntries, innerOfEntries, List.filterMap_nil]
  | (_, item) :: rest => by
      rw [misfitsOfEntries, innerOfEntries, List.filterMap_append, item.misfits_eq,
        misfitsOfEntries_eq rest, Native.parts]

end

mutual

/-- A host value becomes a value of a script. -/
inductive Native.Becomes : Native → Value → Prop
  | none : Native.Becomes .none .null
  | bool (truth : Bool) : Native.Becomes (.bool truth) (.boolean truth)
  | int {n : Int} (fits : Fits n) : Native.Becomes (.int n) (.integer (.ofHost n) n)
  | float (x : Double) : Native.Becomes (.float x) (.float64 x)
  | string (text : String) : Native.Becomes (.string text) (.string text)
  | list {items values} (each : ItemsBecome items values) :
      Native.Becomes (.list items) (.array values)
  | tuple {items values} (each : ItemsBecome items values) :
      Native.Becomes (.tuple items) (.array values)
  | mapping {entries pairs table} (each : EntriesBecome entries pairs)
      (gathers : Table.Gathers table pairs) : Native.Becomes (.mapping entries) (.map table)
  | object (className text : String) :
      Native.Becomes (.object className text) (.object (.object className text))
  | value (value : Value) : Native.Becomes (.value value) value

/-- Host values become values of a script, one by one. -/
inductive ItemsBecome : List Native → List Value → Prop
  | nil : ItemsBecome [] []
  | cons {item value rest values} (first : Native.Becomes item value)
      (later : ItemsBecome rest values) : ItemsBecome (item :: rest) (value :: values)

/-- The entries of a host dictionary become pairs, one by one, under the texts of their keys. -/
inductive EntriesBecome : List (NativeKey × Native) → List (String × Value) → Prop
  | nil : EntriesBecome [] []
  | cons {key item value rest pairs} (first : Native.Becomes item value)
      (later : EntriesBecome rest pairs) :
      EntriesBecome ((key, item) :: rest) ((key.text, value) :: pairs)

end

namespace Value

/-- A whole number is taken in exactly if it fits, and then as it is. -/
theorem ofNativeInt_eq_ok_iff {n : Int} {value : Value} :
    ofNativeInt n = .ok value ↔ Fits n ∧ value = .integer (.ofHost n) n := by
  by_cases fits : Fits n
  · rw [ofNativeInt_eq fits.1 fits.2, Except.ok.injEq, eq_comm]
    exact (and_iff_right fits).symm
  · have refuses := ofNativeInt_refusesFirst n
    rw [if_neg fits] at refuses
    have refused : ofNativeInt n = .error (.outOfRange n IntKind.int.name) := refuses
    simp only [refused, reduceCtorEq, fits, false_and]

mutual

/-- What a host value is taken in as, it becomes. -/
theorem becomes_of_ofNative : (native : Native) → {value : Value} →
    ofNative native = .ok value → native.Becomes value
  | .none, _, taken | .bool _, _, taken | .float _, _, taken | .string _, _, taken
  | .object _ _, _, taken | .value _, _, taken => by
      simp only [ofNative, Except.ok.injEq] at taken
      subst taken
      constructor
  | .int n, _, taken => by
      simp only [ofNative] at taken
      obtain ⟨fits, rfl⟩ := ofNativeInt_eq_ok_iff.mp taken
      exact .int fits
  | .list items, _, taken => by
      simp only [ofNative] at taken
      obtain ⟨values, each, same⟩ := ok_of_bind taken
      cases same
      exact .list (itemsBecome_of_ofNatives items each)
  | .tuple items, _, taken => by
      simp only [ofNative] at taken
      obtain ⟨values, each, same⟩ := ok_of_bind taken
      cases same
      exact .tuple (itemsBecome_of_ofNatives items each)
  | .mapping entries, _, taken => by
      simp only [ofNative] at taken
      obtain ⟨pairs, each, same⟩ := ok_of_bind taken
      cases same
      exact .mapping (entriesBecome_of_ofNativeEntries entries each) (Table.gathers_iff.mpr rfl)

theorem itemsBecome_of_ofNatives : (items : List Native) → {values : List Value} →
    ofNatives items = .ok values → ItemsBecome items values
  | [], _, taken => by
      simp only [ofNatives, Except.ok.injEq] at taken
      subst taken
      exact .nil
  | item :: rest, _, taken => by
      simp only [ofNatives] at taken
      obtain ⟨value, first, taken⟩ := ok_of_bind taken
      obtain ⟨values, later, same⟩ := ok_of_bind taken
      cases same
      exact .cons (becomes_of_ofNative item first) (itemsBecome_of_ofNatives rest later)

theorem entriesBecome_of_ofNativeEntries : (entries : List (NativeKey × Native)) →
    {pairs : List (String × Value)} → ofNativeEntries entries = .ok pairs →
      EntriesBecome entries pairs
  | [], _, taken => by
      simp only [ofNativeEntries, Except.ok.injEq] at taken
      subst taken
      exact .nil
  | (key, item) :: rest, _, taken => by
      simp only [ofNativeEntries] at taken
      obtain ⟨value, first, taken⟩ := ok_of_bind taken
      obtain ⟨pairs, later, same⟩ := ok_of_bind taken
      cases same
      exact .cons (becomes_of_ofNative item first) (entriesBecome_of_ofNativeEntries rest later)

end

mutual

/-- What a host value becomes, it is taken in as. -/
theorem ofNative_of_becomes : (native : Native) → {value : Value} → native.Becomes value →
    ofNative native = .ok value
  | .none, _, .none | .bool _, _, .bool _ | .float _, _, .float _ | .string _, _, .string _
  | .object _ _, _, .object _ _ | .value _, _, .value _ => by
      simp only [ofNative]
  | .int n, _, .int fits => by
      simp only [ofNative]
      exact ofNativeInt_eq_ok_iff.mpr ⟨fits, rfl⟩
  | .list items, _, .list each | .tuple items, _, .tuple each => by
      simp only [ofNative, ofNatives_of_become items each]
      rfl
  | .mapping entries, _, .mapping each gathers => by
      simp only [ofNative, ofNativeEntries_of_become entries each, Table.gathers_iff.mp gathers]
      rfl

theorem ofNatives_of_become : (items : List Native) → {values : List Value} →
    ItemsBecome items values → ofNatives items = .ok values
  | [], _, .nil => by simp only [ofNatives]
  | item :: rest, _, .cons first later => by
      simp only [ofNatives, ofNative_of_becomes item first, ofNatives_of_become rest later]
      rfl

theorem ofNativeEntries_of_become : (entries : List (NativeKey × Native)) →
    {pairs : List (String × Value)} → EntriesBecome entries pairs →
      ofNativeEntries entries = .ok pairs
  | [], _, .nil => by simp only [ofNativeEntries]
  | (key, item) :: rest, _, .cons first later => by
      simp only [ofNativeEntries, ofNative_of_becomes item first,
        ofNativeEntries_of_become rest later]
      rfl

end

/-- A misfit counts although a later key of the same text would replace it. -/
example : ofNative (.mapping [(.int 1, .int (2 ^ 64)), (.string "1", .none)]) =
    .error (.outOfRange (2 ^ 64) "int") := rfl

/-- The first key of a text gives the place, and the last one the value. -/
example : ofNative (.mapping [(.bool true, .int 1), (.string "x", .none),
    (.string "True", .bool false)]) = .ok (.map [("True", .boolean false), ("x", .null)]) := rfl

end Value

end FilterScript
