import FilterScript.Proofs.Narrowing
import FilterScript.Proofs.NumericOrder
import FilterScript.Proofs.WellFormed

/-! # There and back between host and script

A value that the host takes back and hands in again has lost the kind of its numbers, and nothing
else: an integer has the kind that a host's whole number is given, and a single is the double that
it is (`Value.hosted`). The host cannot tell the two values apart, a test of truth cannot either,
and without singles they have one rendering. In the other direction nothing is lost but that tuples
come back as lists (`Value.native_round_trip`).

This is said of values whose objects are opaque. An object may also wrap a host value that has a
meaning for scripts; the host gets that value back and may hand it in as what it is.
-/

namespace FilterScript

/-! ## Plain host values -/

mutual

/-- A host value without values of a script in it: whole numbers are in the ranges of `int` and
`uint64` together, and dictionaries have texts as keys. -/
def Native.Plain : Native → Prop
  | .int n => -2 ^ 63 ≤ n ∧ n < 2 ^ 64
  | .list items | .tuple items => AllNativesPlain items
  | .mapping entries => (Table.names entries).Nodup ∧ NativeEntriesPlain entries
  | .value _ => False
  | .none | .bool _ | .float _ | .string _ | .object _ _ => True

/-- The same for host values. -/
def AllNativesPlain : List Native → Prop
  | [] => True
  | item :: rest => item.Plain ∧ AllNativesPlain rest

/-- The same for the entries of a host dictionary. -/
def NativeEntriesPlain : List (NativeKey × Native) → Prop
  | [] => True
  | (key, item) :: rest => (∃ text, key = .string text) ∧ item.Plain ∧ NativeEntriesPlain rest

end

mutual

/-- A host value with lists in the place of its tuples. -/
def Native.listed : Native → Native
  | .list items | .tuple items => .list (listedAll items)
  | .mapping entries => .mapping (listedEntries entries)
  | .none => .none
  | .bool truth => .bool truth
  | .int n => .int n
  | .float x => .float x
  | .string text => .string text
  | .object className text => .object className text
  | .value value => .value value

/-- The same for host values. -/
def listedAll : List Native → List Native
  | [] => []
  | item :: rest => item.listed :: listedAll rest

/-- The same for the entries of a host dictionary, under the same keys. -/
def listedEntries : List (NativeKey × Native) → List (NativeKey × Native)
  | [] => []
  | (key, item) :: rest => (key, item.listed) :: listedEntries rest

end

/-- Lists in the place of tuples do not change the keys of a dictionary. -/
theorem names_listedEntries (entries : List (NativeKey × Native)) :
    Table.names (listedEntries entries) = Table.names entries := by
  induction entries with
  | nil => rfl
  | cons entry rest ih => exact congrArg (entry.1 :: ·) ih

/-- The kind that a host's whole number is given. -/
def IntKind.ofHost (n : Int) : IntKind := if 2 ^ 63 ≤ n then .uint64 else .int

/-- A single is zero when it is as a double. -/
theorem Binary.isZero_convert_double (x : Single) : (x.convert .double).isZero = x.isZero := by
  cases x with
  | nan => rfl
  | infinity negative => rfl
  | finite negative rank =>
      have widened : (finite negative rank : Single).convert .double =
          ofRank negative (Format.single.convertRank .double rank) := rfl
      rw [widened, finite_eq_ofRank, Bool.eq_iff_iff, isZero_ofRank_iff, isZero_ofRank_iff]
      exact Format.convertRank_double_eq_zero_iff

namespace Value

/-! ## What comes back -/

mutual

/-- A value as it comes back from the host: the kinds of integers are those that the host's whole
numbers are given, and singles are doubles. -/
def hosted : Value → Value
  | .null => .null
  | .boolean truth => .boolean truth
  | .string text => .string text
  | .integer _ n => .integer (.ofHost n) n
  | .float32 x => .float64 (x.convert .double)
  | .float64 x => .float64 x
  | .array elements => .array (hostedAll elements)
  | .map entries => .map (hostedEntries entries)
  | .object payload => .object payload

/-- The values of a list as they come back. -/
def hostedAll : List Value → List Value
  | [] => []
  | value :: rest => value.hosted :: hostedAll rest

/-- Entries as they come back, under the same keys. -/
def hostedEntries : List (String × Value) → List (String × Value)
  | [] => []
  | (key, value) :: rest => (key, value.hosted) :: hostedEntries rest

end

mutual

/-- The values inside a value that hold no others are of a sort, at every depth. -/
def LeavesAre (sort : Value → Prop) : Value → Prop
  | .array elements => AllLeavesAre sort elements
  | .map entries => EntriesLeavesAre sort entries
  | value => sort value

/-- The same for the values of a list. -/
def AllLeavesAre (sort : Value → Prop) : List Value → Prop
  | [] => True
  | value :: rest => value.LeavesAre sort ∧ AllLeavesAre sort rest

/-- The same for the values of entries. -/
def EntriesLeavesAre (sort : Value → Prop) : List (String × Value) → Prop
  | [] => True
  | (_, value) :: rest => value.LeavesAre sort ∧ EntriesLeavesAre sort rest

end

/-- The value is no single. -/
def IsNoSingle (value : Value) : Prop := value.kind ≠ .float32

/-- No single occurs at any depth. -/
def NoSingle (value : Value) : Prop := value.LeavesAre IsNoSingle

/-- If the value is an object, what it wraps has no other meaning for scripts. -/
def IsOpaque (value : Value) : Prop :=
  ∀ payload, value = .object payload → ∃ className text, payload = .object className text

/-- A value of another kind than object is opaque for want of a payload. -/
theorem isOpaque_of_kind {value : Value} (other : value.kind ≠ .object) : value.IsOpaque := by
  rintro payload rfl
  exact (other rfl).elim

/-- The objects at every depth are opaque. -/
def OpaqueObjects (value : Value) : Prop := value.LeavesAre IsOpaque

/-- Values come back under the names that they had. -/
theorem names_hostedEntries (entries : List (String × Value)) :
    Table.names (hostedEntries entries) = Table.names entries := by
  induction entries with
  | nil => rfl
  | cons entry rest ih => exact congrArg (entry.1 :: ·) ih

/-- A whole number in the ranges of `int` and `uint64` together is taken in. -/
theorem ofNativeInt_eq {n : Int} (low : IntKind.int.low ≤ n) (high : n ≤ IntKind.uint64.high) :
    ofNativeInt n = .ok (.integer (.ofHost n) n) := by
  have intHigh : IntKind.int.high = 2 ^ 63 - 1 := by decide
  have longLow : IntKind.uint64.low = 0 := by decide
  unfold ofNativeInt ofInt IntKind.ofHost
  by_cases long : 2 ^ 63 ≤ n
  · have beyond : IntKind.int.high < n := by omega
    have holds : IntKind.uint64.Holds n := ⟨by omega, high⟩
    rw [if_pos ⟨beyond, high⟩, if_pos holds, if_pos long]
  · have within : n ≤ IntKind.int.high := by omega
    have holds : IntKind.int.Holds n := ⟨low, within⟩
    rw [if_neg fun beyond => not_lt_of_ge within beyond.1, if_pos holds, if_neg long]

mutual

/-- **A value that comes back has lost the kinds of its numbers alone.** -/
theorem ofNative_toNative : (value : Value) → value.WellFormed → value.LeavesAre IsOpaque →
    ofNative value.toNative = .ok value.hosted
  | .null, _, _ | .boolean _, _, _ | .string _, _, _ | .float32 _, _, _ | .float64 _, _, _ => by
      simp only [toNative, ofNative, hosted]
  | .object payload, _, unseen => by
      simp only [LeavesAre] at unseen
      obtain ⟨className, text, rfl⟩ := unseen payload rfl
      simp only [toNative, ofNative, hosted]
  | .integer kind n, valid, _ => by
      simp only [WellFormed] at valid
      simp only [toNative, ofNative, hosted]
      exact ofNativeInt_eq valid.bounds.1 valid.bounds.2
  | .array elements, valid, unseen => by
      simp only [WellFormed] at valid
      simp only [LeavesAre] at unseen
      simp only [toNative, ofNative, hosted, ofNatives_toNatives elements valid unseen]
      rfl
  | .map entries, valid, unseen => by
      simp only [WellFormed] at valid
      simp only [LeavesAre] at unseen
      simp only [toNative, ofNative, hosted, ofNativeEntries_toNativeEntries entries valid.2 unseen]
      have distinct := valid.1
      rw [← names_hostedEntries] at distinct
      exact congrArg _ (congrArg Value.map (Table.ofPairs_of_nodup distinct))

theorem ofNatives_toNatives : (values : List Value) → AllWellFormed values →
    AllLeavesAre IsOpaque values → ofNatives (toNatives values) = .ok (hostedAll values)
  | [], _, _ => by simp only [toNatives, ofNatives, hostedAll]
  | value :: rest, valid, unseen => by
      simp only [AllWellFormed] at valid
      simp only [AllLeavesAre] at unseen
      simp only [toNatives, ofNatives, hostedAll, ofNative_toNative value valid.1 unseen.1,
        ofNatives_toNatives rest valid.2 unseen.2]
      rfl

theorem ofNativeEntries_toNativeEntries : (entries : List (String × Value)) →
    EntriesWellFormed entries → EntriesLeavesAre IsOpaque entries →
      ofNativeEntries (toNativeEntries entries) = .ok (hostedEntries entries)
  | [], _, _ => by simp only [toNativeEntries, ofNativeEntries, hostedEntries]
  | (key, value) :: rest, valid, unseen => by
      simp only [EntriesWellFormed] at valid
      simp only [EntriesLeavesAre] at unseen
      simp only [toNativeEntries, ofNativeEntries, hostedEntries,
        ofNative_toNative value valid.1 unseen.1,
        ofNativeEntries_toNativeEntries rest valid.2 unseen.2]
      rfl

end

mutual

/-- The host cannot tell a value from what comes back. -/
theorem toNative_hosted : (value : Value) → value.hosted.toNative = value.toNative
  | .null | .boolean _ | .string _ | .integer _ _ | .float32 _ | .float64 _ | .object _ => by
      simp only [hosted, toNative]
  | .array elements => by simp only [hosted, toNative, toNatives_hostedAll elements]
  | .map entries => by simp only [hosted, toNative, toNativeEntries_hostedEntries entries]

theorem toNatives_hostedAll : (values : List Value) →
    toNatives (hostedAll values) = toNatives values
  | [] => by simp only [hostedAll]
  | value :: rest => by
      simp only [hostedAll, toNatives, toNative_hosted value, toNatives_hostedAll rest]

theorem toNativeEntries_hostedEntries : (entries : List (String × Value)) →
    toNativeEntries (hostedEntries entries) = toNativeEntries entries
  | [] => by simp only [hostedEntries]
  | (key, value) :: rest => by
      simp only [hostedEntries, toNativeEntries, toNative_hosted value,
        toNativeEntries_hostedEntries rest]

end

/-- What comes back is as true as the value. -/
theorem truthy_hosted (value : Value) : value.hosted.truthy = value.truthy := by
  cases value with
  | float32 x =>
      simp only [hosted, truthy]
      rw [Binary.isZero_convert_double]
  | array elements => cases elements <;> simp only [hosted, hostedAll, truthy, List.isEmpty]
  | map entries => cases entries <;> simp only [hosted, hostedEntries, truthy, List.isEmpty]
  | _ => simp only [hosted, truthy]

mutual

/-- Without singles, a value and what comes back have one rendering. -/
theorem render_hosted : (value : Value) → value.LeavesAre IsNoSingle →
    value.hosted.render = value.render
  | .null, _ | .boolean _, _ | .string _, _ | .integer _ _, _ | .float64 _, _ | .object _, _ => by
      simp only [hosted, render]
  | .float32 _, noSingle => by
      simp only [LeavesAre] at noSingle
      exact (noSingle rfl).elim
  | .array elements, noSingle => by
      simp only [LeavesAre] at noSingle
      simp only [hosted, render, renderAll_hostedAll elements noSingle]
  | .map entries, noSingle => by
      simp only [LeavesAre] at noSingle
      simp only [hosted, render, renderEntries_hostedEntries entries noSingle]

theorem renderAll_hostedAll : (values : List Value) → AllLeavesAre IsNoSingle values →
    renderAll (hostedAll values) = renderAll values
  | [], _ => by simp only [hostedAll]
  | value :: rest, noSingle => by
      simp only [AllLeavesAre] at noSingle
      simp only [hostedAll, renderAll, render_hosted value noSingle.1,
        renderAll_hostedAll rest noSingle.2]

theorem renderEntries_hostedEntries : (entries : List (String × Value)) →
    EntriesLeavesAre IsNoSingle entries →
      renderEntries (hostedEntries entries) = renderEntries entries
  | [], _ => by simp only [hostedEntries]
  | (key, value) :: rest, noSingle => by
      simp only [EntriesLeavesAre] at noSingle
      simp only [hostedEntries, renderEntries, render_hosted value noSingle.1,
        renderEntries_hostedEntries rest noSingle.2]

end

/-! ## Host values that a script gives back -/

/-- A map goes to the host with its names as keys. -/
theorem names_toNativeEntries (entries : List (String × Value)) :
    Table.names (toNativeEntries entries) = (Table.names entries).map .string := by
  induction entries with
  | nil => rfl
  | cons entry rest ih => exact congrArg (NativeKey.string entry.1 :: ·) ih

mutual

/-- A host value becomes what it becomes with lists in the place of its tuples. -/
theorem ofNative_listed : (native : Native) → ofNative native.listed = ofNative native
  | .none | .bool _ | .int _ | .float _ | .string _ | .object _ _ | .value _ => by
      simp only [Native.listed]
  | .list items | .tuple items => by
      simp only [Native.listed, ofNative, ofNatives_listedAll items]
  | .mapping entries => by
      simp only [Native.listed, ofNative, ofNativeEntries_listedEntries entries]

theorem ofNatives_listedAll : (items : List Native) →
    ofNatives (listedAll items) = ofNatives items
  | [] => by simp only [listedAll]
  | item :: rest => by
      simp only [listedAll, ofNatives, ofNative_listed item, ofNatives_listedAll rest]

theorem ofNativeEntries_listedEntries : (entries : List (NativeKey × Native)) →
    ofNativeEntries (listedEntries entries) = ofNativeEntries entries
  | [] => by simp only [listedEntries]
  | (key, item) :: rest => by
      simp only [listedEntries, ofNativeEntries, ofNative_listed item,
        ofNativeEntries_listedEntries rest]

end

/-- The value keeps its kinds when it goes to the host and back. -/
structure KeepsKinds (value : Value) : Prop where
  valid : value.WellFormed
  unseen : value.OpaqueObjects
  kept : value.hosted = value

/-- The same for the values of a list. -/
structure AllKeepKinds (values : List Value) : Prop where
  valid : AllWellFormed values
  unseen : AllLeavesAre IsOpaque values
  kept : hostedAll values = values

/-- The same for the values of entries. -/
structure EntriesKeepKinds (entries : List (String × Value)) : Prop where
  valid : EntriesWellFormed entries
  unseen : EntriesLeavesAre IsOpaque entries
  kept : hostedEntries entries = entries

mutual

/-- Every plain host value with lists in the place of its tuples is what the host takes back of a
value that keeps its kinds. -/
theorem exists_keepsKinds : (native : Native) → native.Plain →
    ∃ value : Value, value.KeepsKinds ∧ value.toNative = native.listed
  | .none, _ => ⟨.null, ⟨trivial, nofun, rfl⟩, rfl⟩
  | .bool truth, _ => ⟨.boolean truth, ⟨trivial, nofun, rfl⟩, rfl⟩
  | .float x, _ => ⟨.float64 x, ⟨trivial, nofun, rfl⟩, rfl⟩
  | .string text, _ => ⟨.string text, ⟨trivial, nofun, rfl⟩, rfl⟩
  | .object className text, _ =>
      ⟨.object (.object className text),
        ⟨trivial, fun _ same => ⟨className, text, (Value.object.inj same).symm⟩, rfl⟩, rfl⟩
  | .int n, plain => by
      simp only [Native.Plain] at plain
      have low : IntKind.int.low ≤ n := plain.1
      have high : n ≤ IntKind.uint64.high := Int.le_of_lt_add_one plain.2
      have valid := ofNativeInt_wellFormed (ofNativeInt_eq low high)
      exact ⟨_, ⟨valid, nofun, by simp only [hosted]⟩, by simp only [toNative, Native.listed]⟩
  | .list items, plain | .tuple items, plain => by
      simp only [Native.Plain] at plain
      obtain ⟨values, keeps, same⟩ := exists_allKeepKinds items plain
      refine ⟨.array values, ⟨?_, ?_, ?_⟩, ?_⟩
      · simp only [WellFormed]
        exact keeps.valid
      · simp only [OpaqueObjects, LeavesAre]
        exact keeps.unseen
      · simp only [hosted, keeps.kept]
      · simp only [toNative, same, Native.listed]
  | .mapping entries, plain => by
      simp only [Native.Plain] at plain
      obtain ⟨distinct, plain⟩ := plain
      obtain ⟨pairs, keeps, same⟩ := exists_entriesKeepKinds entries plain
      rw [← names_listedEntries, ← same, names_toNativeEntries] at distinct
      refine ⟨.map pairs, ⟨?_, ?_, ?_⟩, ?_⟩
      · simp only [WellFormed]
        exact ⟨distinct.of_map _, keeps.valid⟩
      · simp only [OpaqueObjects, LeavesAre]
        exact keeps.unseen
      · simp only [hosted, keeps.kept]
      · simp only [toNative, same, Native.listed]
  | .value _, plain => by
      simp only [Native.Plain] at plain

theorem exists_allKeepKinds : (items : List Native) → AllNativesPlain items →
    ∃ values, AllKeepKinds values ∧ toNatives values = listedAll items
  | [], _ => ⟨[], ⟨trivial, trivial, rfl⟩, rfl⟩
  | item :: rest, plain => by
      simp only [AllNativesPlain] at plain
      obtain ⟨value, keeps, same⟩ := exists_keepsKinds item plain.1
      obtain ⟨values, keepsRest, sameRest⟩ := exists_allKeepKinds rest plain.2
      refine ⟨value :: values,
        ⟨⟨keeps.valid, keepsRest.valid⟩, ⟨keeps.unseen, keepsRest.unseen⟩, ?_⟩, ?_⟩
      · simp only [hostedAll, keeps.kept, keepsRest.kept]
      · simp only [toNatives, same, sameRest, listedAll]

theorem exists_entriesKeepKinds : (entries : List (NativeKey × Native)) →
    NativeEntriesPlain entries →
      ∃ pairs, EntriesKeepKinds pairs ∧ toNativeEntries pairs = listedEntries entries
  | [], _ => ⟨[], ⟨trivial, trivial, rfl⟩, rfl⟩
  | (_, item) :: rest, plain => by
      simp only [NativeEntriesPlain] at plain
      obtain ⟨⟨text, rfl⟩, plain, plainRest⟩ := plain
      obtain ⟨value, keeps, same⟩ := exists_keepsKinds item plain
      obtain ⟨pairs, keepsRest, sameRest⟩ := exists_entriesKeepKinds rest plainRest
      refine ⟨(text, value) :: pairs,
        ⟨⟨keeps.valid, keepsRest.valid⟩, ⟨keeps.unseen, keepsRest.unseen⟩, ?_⟩, ?_⟩
      · simp only [hostedEntries, keeps.kept, keepsRest.kept]
      · simp only [toNativeEntries, same, sameRest, listedEntries]

end

/-- **A plain host value is given back as it was handed in, with lists for its tuples, and a value
with opaque objects that goes to the host and back loses the kinds of its numbers alone.** -/
theorem native_round_trip :
    (∀ native : Native, native.Plain → ∃ value, ofNative native = .ok value ∧
      value.hosted = value ∧ value.toNative = native.listed) ∧
    (∀ value : Value, value.WellFormed → value.OpaqueObjects → ∃ back,
      ofNative value.toNative = .ok back ∧ back = value.hosted ∧
      back.toNative = value.toNative ∧ back.truthy = value.truthy ∧
      (value.NoSingle → back.render = value.render)) := by
  constructor
  · intro native plain
    obtain ⟨value, keeps, same⟩ := exists_keepsKinds native plain
    have back := ofNative_toNative value keeps.valid keeps.unseen
    rw [keeps.kept, same, ofNative_listed] at back
    exact ⟨value, back, keeps.kept, same⟩
  · intro value valid unseen
    exact ⟨_, ofNative_toNative value valid unseen, rfl, toNative_hosted value,
      truthy_hosted value, render_hosted value⟩

/-- That objects are opaque cannot be left out. One that wraps a whole number is false, while the
number that comes back is true; and one may wrap a number that is not taken in again. -/
theorem wrapped_numbers_come_back_as_numbers :
    let wrapped (n : Int) : Value := .object (.int n)
    (wrapped 5).WellFormed ∧ (wrapped 5).truthy = false ∧
      ofNative (wrapped 5).toNative = .ok (.integer .int 5) ∧
      (Value.integer .int 5).truthy = true ∧
      (wrapped (2 ^ 64)).WellFormed ∧
      ofNative (wrapped (2 ^ 64)).toNative = .error (.outOfRange (2 ^ 64) "int") := by
  intro wrapped
  exact ⟨trivial, rfl, rfl, rfl, trivial, rfl⟩

/-- A host dictionary with a whole number beyond `int` in a tuple. -/
def nestedNative : Native :=
  .mapping [(.string "b", .tuple [.int (2 ^ 63), .bool true]), (.string "a", .none)]

/-- An array of a small integer, its text and an object. -/
def nestedValue : Value := .array [.integer .uint8 7, .string "7", .object (.object "Person" "Ann")]

/-- The dictionary is given back with a list for its tuple, and the array comes back as true and
with the rendering that it had. -/
theorem native_round_trip_nested :
    nestedNative.Plain ∧
    (∃ value, ofNative nestedNative = .ok value ∧ value.hosted = value ∧
      value.toNative = nestedNative.listed) ∧
    nestedValue.WellFormed ∧ nestedValue.OpaqueObjects ∧ nestedValue.NoSingle ∧
    ∃ back, ofNative nestedValue.toNative = .ok back ∧ back.truthy = true ∧
      back.render = "[7, 7, Ann]" := by
  have plain : nestedNative.Plain := by
    simp only [nestedNative, Native.Plain, NativeEntriesPlain, AllNativesPlain]
    exact ⟨by decide, ⟨_, rfl⟩, ⟨by decide, trivial, trivial⟩, ⟨_, rfl⟩, trivial, trivial⟩
  have valid : nestedValue.WellFormed := by
    simp only [nestedValue, WellFormed, AllWellFormed]
    decide
  have unseen : nestedValue.OpaqueObjects := by
    simp only [nestedValue, OpaqueObjects, LeavesAre, AllLeavesAre]
    exact ⟨isOpaque_of_kind (by decide), isOpaque_of_kind (by decide),
      fun _ same => ⟨_, _, (Value.object.inj same).symm⟩, trivial⟩
  have noSingle : nestedValue.NoSingle := by
    simp only [nestedValue, NoSingle, LeavesAre, AllLeavesAre, IsNoSingle]
    decide
  obtain ⟨there, back⟩ := native_round_trip
  obtain ⟨value, taken, _, _, truth, rendering⟩ := back _ valid unseen
  exact ⟨plain, there _ plain, valid, unseen, noSingle, value, taken, truth, rendering noSingle⟩

end Value

end FilterScript
