import FilterScript.Value.Render

/-! # Host values

The values that a host hands in and takes back. A whole number becomes an `int`, or a `uint64` when
only that holds it; one that neither holds is refused. Lists and tuples both become arrays, and are
taken back as lists. The keys of a host dictionary need not be texts, and become their texts; keys
that become the same one share the place of the first and the value of the last. What the host has
wrapped as an object is taken back as it was.
-/

namespace FilterScript

/-- The host dictionary that pairs make when they are written one after the other: an equal key
keeps its place and takes the new value. -/
def Native.ofPairs (pairs : List (NativeKey × Native)) : Native := .mapping (Table.ofPairs pairs)

namespace Value

/-- A host's whole number: an `int`, or a `uint64` from the first number past it up to its end. -/
def ofNativeInt (n : Int) : Except Cause Value :=
  if IntKind.int.high < n ∧ n ≤ IntKind.uint64.high then ofInt .uint64 n else ofInt .int n

mutual

/-- The value of a host value. -/
def ofNative : Native → Except Cause Value
  | .none => .ok .null
  | .bool truth => .ok (.boolean truth)
  | .int n => ofNativeInt n
  | .float x => .ok (.float64 x)
  | .string text => .ok (.string text)
  | .list items | .tuple items => do return .array (← ofNatives items)
  | .mapping entries => do return ofPairs (← ofNativeEntries entries)
  | .object className text => .ok (.object (.object className text))
  | .value value => .ok value

/-- The values of host values, from left to right. -/
def ofNatives : List Native → Except Cause (List Value)
  | [] => .ok []
  | item :: rest => do return (← ofNative item) :: (← ofNatives rest)

/-- The values of the entries of a host dictionary in order, under the texts of the keys. -/
def ofNativeEntries : List (NativeKey × Native) → Except Cause (List (String × Value))
  | [] => .ok []
  | (key, item) :: rest => do return (key.text, ← ofNative item) :: (← ofNativeEntries rest)

end

mutual

/-- A value as the host takes it back. Kinds of integers and floats are forgotten. -/
def toNative : Value → Native
  | .null => .none
  | .boolean truth => .bool truth
  | .string text => .string text
  | .integer _ n => .int n
  | .float32 x => .float (x.convert .double)
  | .float64 x => .float x
  | .array elements => .list (toNatives elements)
  | .map entries => .mapping (toNativeEntries entries)
  | .object payload => payload

/-- The values of a list as the host takes them back. -/
def toNatives : List Value → List Native
  | [] => []
  | value :: rest => value.toNative :: toNatives rest

/-- Entries as the host takes them back; every key is a text. -/
def toNativeEntries : List (String × Value) → List (NativeKey × Native)
  | [] => []
  | (key, value) :: rest => (.string key, value.toNative) :: toNativeEntries rest

end

end Value

end FilterScript
