import FilterScript.Script.State

/-! # Evaluation

Operands resolve to values, tests to truth values, and statements to outcomes. Everything is done
from left to right and once. A block of statements is executed one level deeper than the statement
it belongs to, and the level is left again however the block ends. An error that comes out of a
statement takes the description of the statement with it; one that comes from the hook before the
statement does not.
-/

namespace FilterScript

variable {H : Extension}

/-- Fails for a cause. -/
def Eval.fail {α : Type} (cause : Cause) : Eval H α := throw (.ofCause cause)

/-- Takes over a result that was computed without the state. -/
def Eval.ofExcept {α : Type} : Except Failure α → Eval H α
  | .ok result => pure result
  | .error failure => throw failure

/-- Prints a line, which is then in the output even if it cannot be shown. -/
def Eval.print (line : String) : Eval H Unit := do
  modify (·.print line)
  Eval.ofExcept ((← get).showing line)

/-- Calls a built-in function. Printing leaves the joined renderings as one line. -/
def Builtin.call (builtin : Builtin) (arguments : List Value) : Eval H Value := do
  if builtin = .print then
    Eval.print (String.join (arguments.map Value.render))
  Eval.ofExcept (builtin.compute H.characterNamed? arguments)

namespace Callable

/-- Calls a function. -/
def call (host : Host H) (arguments : List Value) : Callable H → Eval H Value
  | .builtin function => function.call arguments
  | .host function => host.call function arguments

end Callable

mutual

/-- The value of an operand. A call looks its function up before it resolves its arguments. -/
def Operand.resolve (host : Host H) (subject : Subject) : Operand H → Eval H Value
  | .literal value => Eval.ofExcept ((Value.ofNative value).mapError Failure.ofCause)
  | .field name =>
    Eval.ofExcept ((Value.ofNative ((subject.field? name).getD .none)).mapError Failure.ofCause)
  | .var name => do return (← get).variableValue name
  | .call name arguments => do
    match (← get).functions.get? name with
    | none => Eval.fail (.unknownFunction name)
    | some function => function.call host (← resolveAll host subject arguments)
  | .bare _ => throw .abstractOperand
  | .host operand => host.resolve operand subject

/-- The values of operands, from left to right. -/
def resolveAll (host : Host H) (subject : Subject) : List (Operand H) → Eval H (List Value)
  | [] => return []
  | operand :: rest => do
    let value ← operand.resolve host subject
    return value :: (← resolveAll host subject rest)

end

namespace Test

/-- The truth of a value; asking for that of an opaque object gives a warning. -/
def truth (value : Value) : Eval H Bool := do
  match value.truthWarning? with
  | some warning => modify (·.warn warning)
  | none => pure ()
  return value.truthy

/-- The error of an operator that has no right operand. -/
def missingRight (op : String) : Cause :=
  if (Operator.ofSymbol? op).isSome then .missingOperand op else .unknownOperator op

/-- What an error of a relation between two values says about them. -/
def relationContext (left right : Value) (op : String) : String :=
  "test " ++ Text.quoted left.render ++ " " ++ op ++ " " ++ Text.quoted right.render

/-- The truth of a test. Without a right operand only the empty operator is admitted, and under the
empty operator only the left operand is resolved. -/
def eval (host : Host H) (subject : Subject) (test : Test H) : Eval H Bool := do
  if test.op = "" then
    truth (← test.left.resolve host subject)
  else
    match test.right with
    | none => Eval.fail (missingRight test.op)
    | some right =>
      let left ← test.left.resolve host subject
      let right ← right.resolve host subject
      Eval.ofExcept ((left.relate (some right) test.op).mapError
        (Failure.addContext (relationContext left right test.op)))

/-- Every test is true; the first that is not ends the evaluation. -/
def evalAll (host : Host H) (subject : Subject) : List (Test H) → Eval H Bool
  | [] => return true
  | test :: rest => do
    if ← test.eval host subject then evalAll host subject rest else return false

/-- Some test is true; all of them are evaluated. -/
def evalAny (host : Host H) (subject : Subject) : List (Test H) → Eval H Bool
  | [] => return false
  | test :: rest => do
    let found ← test.eval host subject
    let others ← evalAny host subject rest
    return found || others

/-- The truth of tests under a combinator. -/
def combine (host : Host H) (subject : Subject) (combinator : String) (tests : List (Test H)) :
    Eval H Bool :=
  if combinator = "and" then evalAll host subject tests
  else if combinator = "or" then evalAny host subject tests
  else Eval.fail (.unknownCombinator combinator)

end Test

/-- Executes a block one level deeper, which must not be too deep, and returns to the level. -/
def Eval.nested {α : Type} (block : Eval H α) : Eval H α := fun state =>
  let inner := { state with depth := state.depth + 1 }
  let result := if inner.maxDepth < inner.depth then Eval.fail (.tooDeep inner.maxDepth) inner
    else block inner
  match result with
  | .ok value final => .ok value { final with depth := final.depth - 1 }
  | .error failure final => .error failure { final with depth := final.depth - 1 }

/-- Executes a statement that has the given description, which errors of the script take with them.
A description that is refused replaces the error. A stack that ran out means that the nesting is too
deep. -/
def Eval.describing {α : Type} (description : Except Cause String) (statement : Eval H α) :
    Eval H α := fun state =>
  match statement state with
  | .ok value final => .ok value final
  | .error .stackExhausted final => .error (.ofCause (.tooDeep final.depth)) final
  | .error (.script error) final =>
    match description with
    | .ok text => .error (.script (error.addContext text)) final
    | .error cause => .error (.ofCause cause) final
  | .error failure final => .error failure final

/-- Calls the hook of a host that has one. -/
def Host.beforeStatement (host : Host H) : Eval H Unit :=
  match host.hook with
  | some hook => hook
  | none => pure ()

mutual

/-- The outcome of a statement. That of a condition is the outcome of the branch it chooses. -/
def Statement.execute (host : Host H) (subject : Subject) : Statement H → Eval H Outcome
  | .cond tests combinator whenTrue whenFalse => do
    if ← Test.combine host subject combinator tests then
      Eval.nested (executeAll host subject whenTrue)
    else
      Eval.nested (executeAll host subject whenFalse)
  | .verdict value => return .terminate value
  | .call name arguments => do
    let _ ← (Operand.call name arguments).resolve host subject
    return .proceed
  | .inert className => throw (.abstractStatement className)
  | .host statement => host.execute statement subject

/-- The outcome of statements in order, of which the first that terminates is the last. -/
def executeAll (host : Host H) (subject : Subject) : List (Statement H) → Eval H Outcome
  | [] => return .proceed
  | statement :: rest => do
    host.beforeStatement
    let outcome ← Eval.describing (statement.describe host.descriptions)
      (statement.execute host subject)
    if outcome.terminated then return outcome
    executeAll host subject rest

end

/-- The outcome of a script, executed as a block. -/
def run (host : Host H) (script : List (Statement H)) (subject : Subject) : Eval H Outcome :=
  Eval.nested (executeAll host subject script)

end FilterScript
