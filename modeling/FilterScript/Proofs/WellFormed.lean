import FilterScript.Proofs.Refusal
import FilterScript.Value.Native
import Mathlib.Algebra.Group.Nat.Defs

/-! # Values keep to their kinds

Constructors and host values make well-formed values, and built-in functions return such values
(`Value.ofIntOfKind_wellFormed`, `Value.ofNative_wellFormed`, `Builtin.compute_wellFormed`); they
fail for no range unless they count too far (`Builtin.not_isOutOfRange`). What is gained by it is
that a whole number that has its range can be converted to a double, which would otherwise be
refused for its size (`Value.WellFormed.convertible`).
-/

namespace FilterScript

/-! ## Host values -/

mutual

/-- The values of scripts that stand inside a host value are well formed. -/
def Native.WellFormed : Native → Prop
  | .value value => value.WellFormed
  | .list items | .tuple items => AllNativesWellFormed items
  | .mapping entries => NativeEntriesWellFormed entries
  | .none | .bool _ | .int _ | .float _ | .string _ | .object _ _ => True

/-- The same for host values. -/
def AllNativesWellFormed : List Native → Prop
  | [] => True
  | item :: rest => item.WellFormed ∧ AllNativesWellFormed rest

/-- The same for the entries of a host dictionary. -/
def NativeEntriesWellFormed : List (NativeKey × Native) → Prop
  | [] => True
  | (_, item) :: rest => item.WellFormed ∧ NativeEntriesWellFormed rest

end

namespace Value

/-- An integer that is accepted is in the range of its kind. -/
theorem ofInt_wellFormed {kind : IntKind} {n : Int} {value : Value}
    (accepted : ofInt kind n = .ok value) : value.WellFormed := by
  unfold ofInt at accepted
  by_cases holds : kind.Holds n
  · simp only [holds, ↓reduceIte, Except.ok.injEq] at accepted
    subst accepted
    simp only [WellFormed]
    exact holds
  · simp only [holds, ↓reduceIte, reduceCtorEq] at accepted

/-- A whole number of a named integer kind becomes a well-formed value. -/
theorem ofIntOfKind_wellFormed {kind : Kind} {n : Int} {value : Value}
    (accepted : ofIntOfKind kind n = .ok value) : value.WellFormed := by
  unfold ofIntOfKind at accepted
  split at accepted
  · exact ofInt_wellFormed (ok_of_mapError accepted)
  · cases accepted

/-- A double of a named float kind becomes a well-formed value. -/
theorem ofDoubleOfKind_wellFormed {kind : Kind} {x : Double} {value : Value}
    (accepted : ofDoubleOfKind kind x = .ok value) : value.WellFormed := by
  unfold ofDoubleOfKind at accepted
  split at accepted
  · cases accepted
    simp only [WellFormed]
  · cases accepted
    simp only [WellFormed]
  · cases accepted

/-- A whole number of a named float kind becomes a well-formed value. -/
theorem ofIntOfFloatKind_wellFormed {kind : Kind} {n : Int} {value : Value}
    (accepted : ofIntOfFloatKind kind n = .ok value) : value.WellFormed := by
  unfold ofIntOfFloatKind at accepted
  split at accepted
  · obtain ⟨x, _, accepted⟩ := ok_of_bind accepted
    exact ofDoubleOfKind_wellFormed accepted
  · cases accepted

/-- What is found under a name in a table of well-formed values is well formed. -/
theorem wellFormed_of_get? {table : Table Value} {name : String} {value : Value}
    (entries : EntriesWellFormed table) (present : table.get? name = some value) :
    value.WellFormed := by
  induction table with
  | nil => cases present
  | cons entry rest ih =>
      obtain ⟨key, held⟩ := entry
      simp only [EntriesWellFormed] at entries
      rw [Table.get?_cons] at present
      by_cases same : name = key
      · simp only [same, ↓reduceIte, Option.some.injEq] at present
        subst present
        exact entries.1
      · simp only [same, ↓reduceIte] at present
        exact ih entries.2 present

/-- Setting a name to a well-formed value keeps a table well formed. -/
theorem entriesWellFormed_set {table : Table Value} {name : String} {value : Value}
    (entries : EntriesWellFormed table) (valid : value.WellFormed) :
    EntriesWellFormed (table.set name value) := by
  induction table with
  | nil =>
      simp only [Table.set, EntriesWellFormed]
      exact ⟨valid, trivial⟩
  | cons entry rest ih =>
      obtain ⟨key, held⟩ := entry
      simp only [EntriesWellFormed] at entries
      by_cases same : key = name
      · simp only [Table.set, same, ↓reduceIte, EntriesWellFormed]
        exact ⟨valid, entries.2⟩
      · simp only [Table.set, same, ↓reduceIte, EntriesWellFormed]
        exact ⟨entries.1, ih entries.2⟩

/-- A map that is built of well-formed values is well formed. -/
theorem ofPairs_wellFormed {pairs : List (String × Value)} (entries : EntriesWellFormed pairs) :
    (ofPairs pairs).WellFormed := by
  have grown : ∀ table : Table Value, EntriesWellFormed table →
      EntriesWellFormed (pairs.foldl (fun table pair => Table.set table pair.1 pair.2) table) := by
    induction pairs with
    | nil => exact fun _ valid => valid
    | cons pair rest ih =>
        obtain ⟨key, value⟩ := pair
        simp only [EntriesWellFormed] at entries
        intro table valid
        exact ih entries.2 _ (entriesWellFormed_set valid entries.1)
  simp only [ofPairs, WellFormed]
  exact ⟨Table.nodup_names_ofPairs pairs, grown [] trivial⟩

/-- A host integer that is accepted becomes a well-formed value. -/
theorem ofNativeInt_wellFormed {n : Int} {value : Value} (accepted : ofNativeInt n = .ok value) :
    value.WellFormed := by
  unfold ofNativeInt at accepted
  split at accepted
  · exact ofInt_wellFormed accepted
  · exact ofInt_wellFormed accepted

mutual

/-- The value of a host value is well formed. -/
theorem ofNative_wellFormed : (native : Native) → {value : Value} → native.WellFormed →
    ofNative native = .ok value → value.WellFormed
  | .none, _, _, accepted | .bool _, _, _, accepted | .float _, _, _, accepted
  | .string _, _, _, accepted | .object _ _, _, _, accepted => by
      simp only [ofNative, Except.ok.injEq] at accepted
      subst accepted
      simp only [WellFormed]
  | .int n, _, _, accepted => by
      simp only [ofNative] at accepted
      exact ofNativeInt_wellFormed accepted
  | .value value, _, valid, accepted => by
      simp only [ofNative, Except.ok.injEq] at accepted
      subst accepted
      simp only [Native.WellFormed] at valid
      exact valid
  | .list items, _, valid, accepted | .tuple items, _, valid, accepted => by
      simp only [ofNative] at accepted
      obtain ⟨values, converted, same⟩ := ok_of_bind accepted
      cases same
      simp only [Native.WellFormed] at valid
      simp only [WellFormed]
      exact ofNatives_wellFormed items valid converted
  | .mapping entries, _, valid, accepted => by
      simp only [ofNative] at accepted
      obtain ⟨pairs, converted, same⟩ := ok_of_bind accepted
      cases same
      simp only [Native.WellFormed] at valid
      exact ofPairs_wellFormed (ofNativeEntries_wellFormed entries valid converted)

/-- Host values in which all values are well formed become such values. -/
theorem ofNatives_wellFormed : (items : List Native) → {values : List Value} →
    AllNativesWellFormed items → ofNatives items = .ok values → AllWellFormed values
  | [], _, _, accepted => by
      simp only [ofNatives, Except.ok.injEq] at accepted
      subst accepted
      simp only [AllWellFormed]
  | item :: rest, _, valid, accepted => by
      simp only [ofNatives] at accepted
      obtain ⟨first, converted, accepted⟩ := ok_of_bind accepted
      obtain ⟨others, convertedRest, same⟩ := ok_of_bind accepted
      cases same
      simp only [AllNativesWellFormed] at valid
      simp only [AllWellFormed]
      exact ⟨ofNative_wellFormed item valid.1 converted,
        ofNatives_wellFormed rest valid.2 convertedRest⟩

/-- Host entries in which all values are well formed become such entries. -/
theorem ofNativeEntries_wellFormed : (entries : List (NativeKey × Native)) →
    {pairs : List (String × Value)} → NativeEntriesWellFormed entries →
      ofNativeEntries entries = .ok pairs → EntriesWellFormed pairs
  | [], _, _, accepted => by
      simp only [ofNativeEntries, Except.ok.injEq] at accepted
      subst accepted
      simp only [EntriesWellFormed]
  | (key, item) :: rest, _, valid, accepted => by
      simp only [ofNativeEntries] at accepted
      obtain ⟨first, converted, accepted⟩ := ok_of_bind accepted
      obtain ⟨others, convertedRest, same⟩ := ok_of_bind accepted
      cases same
      simp only [NativeEntriesWellFormed] at valid
      simp only [EntriesWellFormed]
      exact ⟨ofNative_wellFormed item valid.1 converted,
        ofNativeEntries_wellFormed rest valid.2 convertedRest⟩

end

end Value

/-! ## Built-in functions -/

/-- What a built-in function returns is well formed, whatever its arguments are. -/
theorem Builtin.compute_wellFormed {characterNamed? : String → Option Char} {builtin : Builtin}
    {arguments : List Value} {value : Value}
    (computed : builtin.compute characterNamed? arguments = .ok value) : value.WellFormed := by
  unfold compute at computed
  split at computed
  · exact Value.ofInt_wellFormed (ok_of_mapError computed)
  · exact Value.ofInt_wellFormed (ok_of_mapError computed)
  · cases computed
    simp only [Value.WellFormed]
  · cases computed
    simp only [Value.WellFormed]
  · cases computed
    simp only [Value.WellFormed]
  · cases computed
    simp only [Value.WellFormed]
  · obtain ⟨pattern, _, same⟩ := ok_of_bind computed
    cases same
    simp only [Value.WellFormed]
  · cases computed
  · cases computed

/-- A whole number does not fit in the kind that it was meant for. -/
def Failure.IsOutOfRange (failure : Failure) : Prop :=
  ∃ error n typeName, failure = .script error ∧ error.cause = .outOfRange n typeName

namespace Builtin

/-- A length of less than `2 ^ 63` is in the range of an integer. -/
theorem ofInt_length {length : Nat} (short : length < 2 ^ 63) :
    Value.ofInt .int length = .ok (.integer .int length) := by
  have holds : IntKind.int.Holds length := by
    constructor
    · have low : IntKind.int.low = -2 ^ 63 := by decide
      omega
    · have high : IntKind.int.high = 2 ^ 63 - 1 := by decide
      omega
  unfold Value.ofInt
  rw [if_pos holds]

variable {characterNamed? : String → Option Char}

/-- A pattern is never refused for a range. -/
theorem not_isOutOfRange_patternOf {text : String} {failure : Failure}
    (refused : patternOf characterNamed? text = .error failure) : ¬ failure.IsOutOfRange := by
  rintro ⟨error, n, typeName, rfl, out⟩
  unfold patternOf at refused
  split at refused <;> cases refused
  cases out

/-- Built-in functions fail for no range, if what they count is less than `2 ^ 63`. -/
theorem not_isOutOfRange {builtin : Builtin} {arguments : List Value} {failure : Failure}
    (few : arguments.length < 2 ^ 63) (short : ∀ argument ∈ arguments, count argument < 2 ^ 63)
    (refused : builtin.compute characterNamed? arguments = .error failure) :
    ¬ failure.IsOutOfRange := by
  unfold compute at refused
  split at refused
  · rw [ofInt_length few] at refused
    cases refused
  · rw [ofInt_length (short _ List.mem_cons_self)] at refused
    cases refused
  · cases refused
  · cases refused
  · cases refused
  · cases refused
  · rename_i value text
    cases read : patternOf characterNamed? text.render with
    | ok pattern =>
        rw [read] at refused
        cases refused
    | error other =>
        rw [read] at refused
        cases refused
        exact not_isOutOfRange_patternOf read
  -- A wrong number of arguments is a cause of its own.
  · cases refused
    rintro ⟨error, n, typeName, same, out⟩
    cases same
    cases out
  · cases refused
    rintro ⟨error, n, typeName, same, out⟩
    cases same
    cases out

end Builtin

/-! ## Whole numbers as doubles -/

/-- A ratio that is rounded has a rank in the two blocks from its scale on. -/
theorem Format.nearestRank_le (f : Format) (positive : 0 < f.precision) (num den : Nat) :
    f.nearestRank num den ≤ (f.scaleFor (num * 2 ^ f.places / den) + 2) * f.leading := by
  unfold nearestRank
  simp only [Nat.pow_eq]
  generalize num * 2 ^ f.places = units
  have scaled : units / den < 2 ^ (f.precision + f.scaleFor (units / den)) := by
    have fits : (units / den).log2 + 1 ≤ f.precision + f.scaleFor (units / den) := by
      unfold scaleFor
      omega
    exact Nat.lt_of_lt_of_le Nat.lt_log2_self (Nat.pow_le_pow_right (by decide) fits)
  generalize f.scaleFor (units / den) = scale at scaled ⊢
  have quotient : units / (den * 2 ^ scale) < 2 ^ f.precision := by
    rw [← Nat.div_div_eq_div_mul]
    refine Nat.div_lt_of_lt_mul ?_
    rw [← Nat.pow_add, Nat.add_comm]
    exact scaled
  have doubled : 2 ^ f.precision = f.leading * 2 := by
    have precision : f.precision = f.precision - 1 + 1 := by omega
    rw [leading, Nat.pow_eq, ← Nat.pow_succ]
    exact congrArg (2 ^ ·) precision
  have rounded := roundDiv_eq_or units (den * 2 ^ scale)
  rw [Nat.add_mul]
  omega

/-- The scale of a number grows with the bits it has beyond the precision. -/
theorem Format.scaleFor_le (f : Format) (positive : 0 < f.precision) {units bits : Nat}
    (small : units < 2 ^ bits) : f.scaleFor units ≤ bits - f.precision := by
  unfold scaleFor
  by_cases zero : units = 0
  · have log : units.log2 = 0 := by
      subst zero
      decide
    omega
  · have log := (Nat.log2_lt zero).mpr small
    omega

/-- A whole number of so many bits is rounded to a finite number, if the format has room for
them. -/
theorem Binary.ofInt_finite {f : Format} (positive : 0 < f.precision) {n : Int} {bits : Nat}
    (small : n.natAbs < 2 ^ bits) (room : bits + f.places - f.precision + 1 < f.scales) :
    ∃ negative rank, (Binary.ofInt n : Binary f) = .finite negative rank := by
  have units : n.natAbs * 2 ^ f.places / 1 < 2 ^ (bits + f.places) := by
    rw [Nat.div_one, Nat.pow_add]
    exact Nat.mul_lt_mul_of_pos_right small (Nat.pow_pos (by decide))
  have scale := f.scaleFor_le positive units
  have ranked := f.nearestRank_le positive n.natAbs 1
  have bounded : f.nearestRank n.natAbs 1 < f.finiteCount := by
    refine Nat.lt_of_le_of_lt ranked ?_
    have leading : 0 < f.leading := Nat.pow_pos (by decide)
    unfold Format.finiteCount
    refine Nat.mul_lt_mul_of_pos_right ?_ leading
    omega
  refine ⟨decide (n < 0), ⟨_, bounded⟩, ?_⟩
  unfold ofInt ofRatio ofRank
  simp only [bounded, ↓reduceDIte]

/-- All kinds of integers together reach from the least `int` to the greatest `uint64`. -/
theorem IntKind.Holds.bounds {kind : IntKind} {n : Int} (holds : kind.Holds n) :
    IntKind.int.low ≤ n ∧ n ≤ IntKind.uint64.high := by
  have lowest : IntKind.int.low ≤ kind.low := by cases kind <;> decide
  have highest : kind.high ≤ IntKind.uint64.high := by cases kind <;> decide
  exact ⟨Int.le_trans lowest holds.1, Int.le_trans holds.2 highest⟩

/-- A number that a kind of integers holds has at most sixty-four bits. -/
theorem IntKind.Holds.natAbs_lt {kind : IntKind} {n : Int} (holds : kind.Holds n) :
    n.natAbs < 2 ^ 64 := by
  obtain ⟨low, high⟩ := holds.bounds
  have lowest : -(2 ^ 64 : Int) < IntKind.int.low := by decide
  have highest : IntKind.uint64.high < (2 ^ 64 : Int) := by decide
  omega

namespace Value

/-- An integer that has its range is the double nearest to it. -/
theorem doubleOfInt_eq_ok {kind : IntKind} {n : Int} (holds : kind.Holds n) :
    doubleOfInt n = .ok (Binary.ofInt n) := by
  obtain ⟨negative, rank, finite⟩ :=
    Binary.ofInt_finite (f := .double) (by decide) holds.natAbs_lt (by decide)
  unfold doubleOfInt
  rw [finite]
  rfl

/-- Integers that have their range are not too large for a double. -/
theorem WellFormed.convertible {value : Value} (valid : value.WellFormed) : value.Convertible := by
  intro tooLarge
  cases value with
  | integer kind n =>
      simp only [WellFormed] at valid
      by_cases isSigned : kind.isSigned = true
      · have converted := (if_pos isSigned).symm.trans tooLarge
        rw [doubleOfInt_eq_ok valid] at converted
        cases converted
      · have refused := (if_neg isSigned).symm.trans tooLarge
        cases refused
  | _ => cases tooLarge

end Value

end FilterScript
