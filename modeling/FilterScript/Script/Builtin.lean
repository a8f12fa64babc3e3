import FilterScript.Pattern.Search
import FilterScript.Text.Case
import FilterScript.Value.Relation

/-! # Built-in functions

Seven functions belong to every script. Six of them compute a value from their arguments alone;
`print` also leaves a line, which is the business of the evaluation.
-/

namespace FilterScript

/-- The built-in functions. -/
inductive Builtin where
  | print | len | lower | upper | trim | type | search
  deriving DecidableEq, Repr

namespace Builtin

/-- The name of a built-in function. -/
def name : Builtin → String
  | .print => "print"
  | .len => "len"
  | .lower => "lower"
  | .upper => "upper"
  | .trim => "trim"
  | .type => "type"
  | .search => "match"

/-- All built-in functions. -/
def all : List Builtin := [.print, .len, .lower, .upper, .trim, .type, .search]

/-- The error of a call with another number of arguments than the function takes. -/
def wrongCount (builtin : Builtin) (expected given : Nat) : Failure :=
  .ofCause (.general (builtin.name ++ "() expects " ++ toString expected ++ " argument(s), got " ++
    toString given))

/-- The number of items of a value, and of characters for one that is no container. -/
def count : Value → Nat
  | .string text => text.length
  | .array elements => elements.length
  | .map entries => entries.length
  | value => value.render.length

/-- The pattern that a text is read as, where characters may be given by name. A malformed text is
an error of the script. -/
def patternOf (characterNamed? : String → Option Char) (text : String) : Except Failure Pattern :=
  match Pattern.ofText characterNamed? text.toList with
  | .ok pattern => .ok pattern
  | .error (.malformed fault position) =>
    .error (.ofCause (.general ("invalid regular expression " ++ Text.quoted text ++ ": " ++
      fault.messageIn text.toList position)))
  | .error .countTooLarge => .error .loopCountTooLarge
  | .error (.tooManyDigits count) => .error (.tooManyDigits count)
  | .error .twoAlphabets => .error .twoAlphabets
  | .error .codeTooLarge => .error .codeTooLarge

/-- What a built-in function computes from its arguments. Only a pattern asks for the characters
that have names. -/
def compute (characterNamed? : String → Option Char) (builtin : Builtin) (arguments : List Value) :
    Except Failure Value :=
  match builtin, arguments with
  | .print, arguments => (Value.ofInt .int arguments.length).mapError Failure.ofCause
  | .len, [value] => (Value.ofInt .int (count value)).mapError Failure.ofCause
  | .lower, [value] => .ok (.string (Text.lower value.render))
  | .upper, [value] => .ok (.string (Text.upper value.render))
  | .trim, [value] => .ok (.string (Text.trim value.render))
  | .type, [value] => .ok (.string value.typeName)
  | .search, [value, text] => do
    return .boolean ((← patternOf characterNamed? text.render).foundIn value.render)
  | .search, arguments => .error (wrongCount .search 2 arguments.length)
  | builtin, arguments => .error (wrongCount builtin 1 arguments.length)

end Builtin

end FilterScript
