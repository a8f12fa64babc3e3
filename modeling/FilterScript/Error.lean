import FilterScript.Text.Quoted

/-! # Errors

A script fails for a cause. While the error leaves the statements that were being executed, each of
them adds its description to the trail, so the trail reads from the inside out. Whatever else can go
wrong belongs to the host, to what it shows, to the use of a value, or to a pattern that the
language of patterns refuses in its own way; such failures carry no trail. -/

namespace FilterScript

/-- Why a script fails. -/
inductive Cause where
  | general (message : String)
  | unknownOperator (symbol : String)
  | unknownCombinator (tag : String)
  | notNumeric (rendered typeName : String)
  | missingOperand (symbol : String)
  | outOfRange (value : Int) (typeName : String)
  | unknownFunction (name : String)
  | tooDeep (depth : Int)
  | cancelled (message : String)
  deriving DecidableEq, Repr

namespace Cause

/-- The message of a cancellation that gives none. -/
def cancelledByDefault : Cause := .cancelled "evaluation cancelled"

/-- The wording of a cause. -/
def message : Cause → String
  | .general message => message
  | .unknownOperator symbol => "unknown operator " ++ Text.quoted symbol
  | .unknownCombinator tag => "unknown if-expression-type " ++ Text.quoted tag
  | .notNumeric rendered typeName =>
    "failed to convert " ++ rendered ++ " (" ++ typeName ++ ") to number"
  | .missingOperand symbol =>
    "operator " ++ Text.quoted symbol ++ " needs a right-hand operand"
  | .outOfRange value typeName => toString value ++ " does not fit in " ++ typeName
  | .unknownFunction name => "function '" ++ name ++ "' is not defined"
  | .tooDeep depth => "statement nesting exceeds maximum depth of " ++ toString depth
  | .cancelled message => message

end Cause

/-- A cause with the trail of what was being executed, innermost first. -/
structure ScriptError where
  cause : Cause
  trail : List String
  deriving DecidableEq, Repr

namespace ScriptError

/-- An error that has not left any statement yet. -/
def ofCause (cause : Cause) : ScriptError := ⟨cause, []⟩

/-- One more description at the outer end of the trail. -/
def addContext (error : ScriptError) (description : String) : ScriptError :=
  { error with trail := error.trail ++ [description] }

/-- The wording of an error with its trail. -/
def message (error : ScriptError) : String :=
  if error.trail.isEmpty then error.cause.message
  else error.cause.message ++ " (in " ++ " <- ".intercalate error.trail ++ ")"

end ScriptError

/-- Everything that can end an evaluation without an outcome. -/
inductive Failure where
  /-- An error of the script itself. -/
  | script (error : ScriptError)
  /-- A host function ran out of stack. -/
  | stackExhausted
  /-- A host function failed in a way of its own. -/
  | host (message : String)
  /-- A printed line cannot be encoded where it is to be shown. -/
  | unencodable (message : String)
  /-- An operand without a meaning was resolved. -/
  | abstractOperand
  /-- A statement without a meaning was executed. -/
  | abstractStatement (className : String)
  /-- The number of a value that is missing was asked for. -/
  | absentOperand
  | notIterable (typeName : String)
  | notIntegerType (typeName : String)
  | notFloatType (typeName : String)
  /-- A whole number exceeds every finite double. -/
  | integerTooLarge
  /-- A pattern counts more rounds than a loop can. -/
  | loopCountTooLarge
  /-- A pattern writes a number of rounds with more digits than the host reads. -/
  | tooManyDigits (count : Nat)
  /-- A pattern asks for two alphabets. -/
  | twoAlphabets
  /-- A pattern gives a code point past what the host can count. -/
  | codeTooLarge
  deriving DecidableEq, Repr

namespace Failure

/-- A failure for a cause, without a trail. -/
def ofCause (cause : Cause) : Failure := .script (.ofCause cause)

/-- Adds to the trail of a script error; other failures have none. -/
def addContext (description : String) : Failure → Failure
  | .script error => .script (error.addContext description)
  | failure => failure

/-- The wording of a failure, where it is not left to the host. -/
def message? : Failure → Option String
  | .script error => some error.message
  | .host message | .unencodable message => some message
  | .abstractOperand => some "Argument cannot be resolved"
  | .abstractStatement className => some (className ++ " has no executor")
  | .absentOperand => some "'NoneType' object has no attribute 'type'"
  | .notIterable typeName => some (typeName ++ " value is not iterable")
  | .notIntegerType typeName => some (typeName ++ " is not an integer type")
  | .notFloatType typeName => some (typeName ++ " is not a float type")
  | .integerTooLarge => some "int too large to convert to float"
  | .loopCountTooLarge => some "the repetition number is too large"
  | .twoAlphabets => some "ASCII and UNICODE flags are incompatible"
  | .stackExhausted | .tooManyDigits _ | .codeTooLarge => none

end Failure

end FilterScript
