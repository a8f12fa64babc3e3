import FilterScript.Number.Literal
import FilterScript.Value.Render

/-! # Truth, numbers and relations

A value is true by its kind: numbers unless they are zero, texts, arrays and maps unless they are
empty. Two values are compared by their renderings, where one text may also contain the other, or by
their numbers. Texts and signed integers have numbers; a text without a numeral in it has zero, and
an integer has the double that it is rounded to, which must be finite.
-/

namespace FilterScript

/-- A part occurs in a text from some place on. -/
def occursIn (part : List Char) : List Char → Bool
  | [] => part.isEmpty
  | c :: rest => part.isPrefixOf (c :: rest) || occursIn part rest

/-- The name of the class of a host value. -/
def Native.className : Native → String
  | .none => "NoneType"
  | .bool _ => "bool"
  | .int _ => "int"
  | .float _ => "float"
  | .string _ => "str"
  | .list _ => "list"
  | .tuple _ => "tuple"
  | .mapping _ => "dict"
  | .object className _ => className
  | .value _ => "Value"

namespace Value

/-- The truth of a value. An object is not true. -/
def truthy : Value → Bool
  | .null => false
  | .boolean truth => truth
  | .string text => text != ""
  | .integer _ n => n != 0
  | .float32 x => !x.isZero
  | .float64 x => !x.isZero
  | .array elements => !elements.isEmpty
  | .map entries => !entries.isEmpty
  | .object _ => false

/-- What is to be said about asking for the truth of a value. -/
def truthWarning? : Value → Option String
  | .object payload => some ("unexpected type " ++ payload.className ++ " in truth test")
  | _ => none

/-- The number of a value. -/
def number (value : Value) : Except Failure Double :=
  match value with
  | .string text => .ok ((Single.ofText text).convert .double)
  | .integer kind n =>
    if kind.isSigned then doubleOfInt n
    else .error (.ofCause (.notNumeric value.render value.typeName))
  | _ => .error (.ofCause (.notNumeric value.render value.typeName))

end Value

/-- The relations between two texts. -/
inductive TextRelation where
  | equal | unequal | contains | lacks
  deriving DecidableEq, Repr

/-- The relation holds between two texts. -/
def TextRelation.holds (left right : String) : TextRelation → Bool
  | .equal => left == right
  | .unequal => left != right
  | .contains => occursIn right.toList left.toList
  | .lacks => !occursIn right.toList left.toList

/-- The relations between two numbers. -/
inductive NumberRelation where
  | greater | greaterOrEqual | less | lessOrEqual
  deriving DecidableEq, Repr

/-- The relation holds between two numbers. -/
def NumberRelation.holds (left right : Double) : NumberRelation → Bool
  | .greater => right.lt left
  | .greaterOrEqual => right.le left
  | .less => left.lt right
  | .lessOrEqual => left.le right

/-- The relations between two values: those between their renderings, and those between their
numbers. -/
inductive Operator where
  | texts (relation : TextRelation)
  | numbers (relation : NumberRelation)
  deriving DecidableEq, Repr

/-- The operator of a symbol. -/
def Operator.ofSymbol? : String → Option Operator
  | "==" => some (.texts .equal)
  | "!=" => some (.texts .unequal)
  | "~=" => some (.texts .contains)
  | "!~" => some (.texts .lacks)
  | ">" => some (.numbers .greater)
  | ">=" => some (.numbers .greaterOrEqual)
  | "<" => some (.numbers .less)
  | "<=" => some (.numbers .lessOrEqual)
  | _ => none

/-- The empty symbol is not the symbol of an operator. -/
theorem Operator.ne_empty_of_ofSymbol? {symbol : String} {operator : Operator}
    (named : ofSymbol? symbol = some operator) : symbol ≠ "" := by
  rintro rfl
  cases named

namespace Value

/-- How a missing value renders beside a relation. -/
def renderOption : Option Value → String
  | some value => value.render
  | none => "None"

/-- The relation of a symbol between two values. The empty symbol asks for the truth of the left one
alone. A relation of numbers takes the left number first. -/
def relate (left : Value) (right : Option Value) (symbol : String) : Except Failure Bool :=
  if symbol = "" then .ok left.truthy
  else
    match Operator.ofSymbol? symbol with
    | none => .error (.ofCause (.unknownOperator symbol))
    | some (.texts relation) => .ok (relation.holds left.render (renderOption right))
    | some (.numbers relation) => do
      let leftNumber ← left.number
      match right with
      | none => .error .absentOperand
      | some right =>
        let rightNumber ← right.number
        return relation.holds leftNumber rightNumber

/-- What is to be said about relating a value: the empty symbol asks for its truth. -/
def relateWarning? (left : Value) (symbol : String) : Option String :=
  if symbol = "" then left.truthWarning? else none

end Value

end FilterScript
