/-! # Kinds of values

Every value has one of eighteen kinds. The ten integer kinds differ in sign and width; `int` and
`uint` are 64 bits wide like `int64` and `uint64`, and are kinds of their own.
-/

namespace FilterScript

/-- The integer kinds. -/
inductive IntKind where
  | int | int8 | int16 | int32 | int64 | uint | uint8 | uint16 | uint32 | uint64
  deriving DecidableEq, Repr

namespace IntKind

/-- The kind holds negative numbers. -/
def isSigned : IntKind → Bool
  | .int | .int8 | .int16 | .int32 | .int64 => true
  | .uint | .uint8 | .uint16 | .uint32 | .uint64 => false

/-- The width in bits. -/
def bits : IntKind → Nat
  | .int | .int64 | .uint | .uint64 => 64
  | .int8 | .uint8 => 8
  | .int16 | .uint16 => 16
  | .int32 | .uint32 => 32

/-- The least number of the kind. -/
def low (kind : IntKind) : Int :=
  if kind.isSigned then -(Nat.pow 2 (kind.bits - 1) : Nat) else 0

/-- The greatest number of the kind. -/
def high (kind : IntKind) : Int :=
  (Nat.pow 2 (if kind.isSigned then kind.bits - 1 else kind.bits) : Nat) - 1

/-- The number lies in the range of the kind. -/
def Holds (kind : IntKind) (n : Int) : Prop := kind.low ≤ n ∧ n ≤ kind.high

instance (kind : IntKind) (n : Int) : Decidable (kind.Holds n) :=
  inferInstanceAs (Decidable (_ ∧ _))

/-- The name of the kind. -/
def name : IntKind → String
  | .int => "int"
  | .int8 => "int8"
  | .int16 => "int16"
  | .int32 => "int32"
  | .int64 => "int64"
  | .uint => "uint"
  | .uint8 => "uint8"
  | .uint16 => "uint16"
  | .uint32 => "uint32"
  | .uint64 => "uint64"

end IntKind

/-- The kinds of values. -/
inductive Kind where
  | null | boolean | string
  | integer (kind : IntKind)
  | float32 | float64
  | array | map | object
  deriving DecidableEq, Repr

namespace Kind

/-- The name of the kind. -/
def name : Kind → String
  | .null => "null"
  | .boolean => "boolean"
  | .string => "string"
  | .integer kind => kind.name
  | .float32 => "float32"
  | .float64 => "float64"
  | .array => "array"
  | .map => "map"
  | .object => "object"

/-- All kinds. -/
def all : List Kind :=
  [.null, .boolean, .string, .integer .int, .integer .int8, .integer .int16, .integer .int32,
    .integer .int64, .integer .uint, .integer .uint8, .integer .uint16, .integer .uint32,
    .integer .uint64, .float32, .float64, .array, .map, .object]

/-- The kind of a given name. -/
def ofName? (name : String) : Option Kind := all.find? (·.name == name)

end Kind

end FilterScript
