import FilterScript.Error
import FilterScript.Number.Rounding
import FilterScript.Table
import FilterScript.Value.Kind

/-! # Values

What a script computes with, and the host values around it. Single-precision payloads are single by
their type; that an integer lies in the range of its kind, and that the keys of a map differ, is
kept by the constructors below and said by `Value.WellFormed`. A value of the kind `object` holds a
host value as it is, whatever that is, and a host value may hold values of a script.
-/

namespace FilterScript

/-- A key of a host dictionary. -/
inductive NativeKey where
  | none
  | bool (truth : Bool)
  | int (n : Int)
  | float (x : Double)
  | string (text : String)
  | object (className text : String)
  deriving DecidableEq

mutual

/-- A value of a script. -/
inductive Value where
  | null
  | boolean (truth : Bool)
  | string (text : String)
  | integer (kind : IntKind) (n : Int)
  | float32 (x : Single)
  | float64 (x : Double)
  | array (elements : List Value)
  | map (entries : List (String × Value))
  | object (payload : Native)

/-- A host value. An opaque object shows the name of its class and one text. -/
inductive Native where
  | none
  | bool (truth : Bool)
  | int (n : Int)
  | float (x : Double)
  | string (text : String)
  | list (items : List Native)
  | tuple (items : List Native)
  | mapping (entries : List (NativeKey × Native))
  | object (className text : String)
  | value (value : Value)

end

namespace Value

/-- The kind of a value. -/
def kind : Value → Kind
  | .null => .null
  | .boolean _ => .boolean
  | .string _ => .string
  | .integer kind _ => .integer kind
  | .float32 _ => .float32
  | .float64 _ => .float64
  | .array _ => .array
  | .map _ => .map
  | .object _ => .object

/-- The name of the kind of a value. -/
def typeName (value : Value) : String := value.kind.name

/-- A whole number as a value of an integer kind that holds it. -/
def ofInt (kind : IntKind) (n : Int) : Except Cause Value :=
  if kind.Holds n then .ok (.integer kind n) else .error (.outOfRange n kind.name)

/-- A whole number as a value of a given kind, which must be an integer kind and hold it. -/
def ofIntOfKind (kind : Kind) (n : Int) : Except Failure Value :=
  match kind with
  | .integer kind => (ofInt kind n).mapError Failure.ofCause
  | other => .error (.notIntegerType other.name)

/-- A double as a value of a given kind, which must be a float kind; it is rounded to it. -/
def ofDoubleOfKind (kind : Kind) (x : Double) : Except Failure Value :=
  match kind with
  | .float64 => .ok (.float64 x)
  | .float32 => .ok (.float32 (x.convert .single))
  | other => .error (.notFloatType other.name)

/-- A double that a whole number has been rounded to, which must be finite. -/
def requireFinite : Double → Except Failure Double
  | .finite negative rank => .ok (.finite negative rank)
  | _ => .error .integerTooLarge

/-- A whole number as a double, unless it is too large for one. -/
def doubleOfInt (n : Int) : Except Failure Double := requireFinite (Binary.ofInt n)

/-- A whole number as a value of a float kind. It is first rounded to a double. -/
def ofIntOfFloatKind (kind : Kind) (n : Int) : Except Failure Value :=
  if kind = .float64 ∨ kind = .float32 then do
    ofDoubleOfKind kind (← doubleOfInt n)
  else
    .error (.notFloatType kind.name)

/-- A map of the pairs, written one after the other. -/
def ofPairs (pairs : List (String × Value)) : Value := .map (Table.ofPairs pairs)

mutual

/-- Integers lie in the range of their kind and the keys of every map differ, at every depth. -/
def WellFormed : Value → Prop
  | .integer kind n => kind.Holds n
  | .array elements => AllWellFormed elements
  | .map entries => (Table.names entries).Nodup ∧ EntriesWellFormed entries
  | _ => True

/-- All values of a list are well formed. -/
def AllWellFormed : List Value → Prop
  | [] => True
  | value :: rest => value.WellFormed ∧ AllWellFormed rest

/-- The values of all entries are well formed. -/
def EntriesWellFormed : List (String × Value) → Prop
  | [] => True
  | (_, value) :: rest => value.WellFormed ∧ EntriesWellFormed rest

end

end Value

end FilterScript
