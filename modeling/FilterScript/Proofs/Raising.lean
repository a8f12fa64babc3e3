import FilterScript.Proofs.Evaluation

/-! # Where errors arise

An error of a script arises at one place, while certain statements are being executed: the first of
them stands in the script, and each other one in a branch of the one before. These relations say
where that can be, without saying what becomes of the error on its way out: the error appears in
them as it was raised. The statements are listed from the outside in, and the origin says what
raised the error.
-/

namespace FilterScript

variable {H : Extension}

/-- What raises an error. -/
inductive Origin (H : Extension) where
  /-- The value of a literal is refused. -/
  | literal (value : Native)
  /-- The value of a field is refused. -/
  | field (name : String)
  /-- There is no function of the name that is called. -/
  | unknownFunction (name : String)
  /-- The function that is called fails. -/
  | function (function : Callable H)
  /-- An operand of the host fails. -/
  | operand (operand : H.Operand)
  /-- An operator has no right operand. -/
  | missingRight (op : String)
  /-- The relation between two values fails. -/
  | comparison (left right : Value) (op : String)
  /-- There is no such combinator. -/
  | combinator (tag : String)
  /-- A statement of the host fails. -/
  | statement (statement : H.Statement)
  /-- The hook fails. -/
  | hook
  /-- A block would be nested too deep. -/
  | depth
  /-- The stack ran out inside a statement. -/
  | stack

namespace Origin

/-- What the evaluation of a test adds to an error before the error leaves the test. Only the
relation between two values is described in this way. -/
def entry : Origin H → List String
  | .comparison left right op => [Test.relationContext left right op]
  | _ => []

/-- The error is raised by the host, which may have begun the trail. -/
def ByHost : Origin H → Prop
  | .function (.host _) | .operand _ | .statement _ | .hook => True
  | _ => False

/-- The error is raised while operands are resolved or tests are evaluated. -/
def InTest : Origin H → Prop
  | .statement _ | .hook | .depth | .stack => False
  | _ => True

end Origin

/-- The error is raised while the operand is resolved. -/
inductive Operand.Raises (host : Host H) (subject : Subject) :
    Operand H → State H → Origin H → ScriptError → State H → Prop
  | literal {value state cause} (refused : Value.ofNative value = .error cause) :
      Raises host subject (.literal value) state (.literal value) (.ofCause cause) state
  | field {name state cause}
      (refused : Value.ofNative ((subject.field? name).getD .none) = .error cause) :
      Raises host subject (.field name) state (.field name) (.ofCause cause) state
  | unknown {name arguments state} (absent : state.functions.get? name = none) :
      Raises host subject (.call name arguments) state (.unknownFunction name)
        (.ofCause (.unknownFunction name)) state
  | argument {name function before operand after values state between origin raised last}
      (present : state.functions.get? name = some function)
      (earlier : resolveAll host subject before state = .ok values between)
      (raises : Raises host subject operand between origin raised last) :
      Raises host subject (.call name (before ++ operand :: after)) state origin raised last
  | function {name function arguments values state called raised last}
      (present : state.functions.get? name = some function)
      (resolved : resolveAll host subject arguments state = .ok values called)
      (fails : function.call host values called = .error (.script raised) last) :
      Raises host subject (.call name arguments) state (.function function) raised last
  | host {operand state raised last}
      (fails : host.resolve operand subject state = .error (.script raised) last) :
      Raises host subject (.host operand) state (.operand operand) raised last

/-- The error is raised while the test is evaluated. -/
inductive Test.Raises (host : Host H) (subject : Subject) :
    Test H → State H → Origin H → ScriptError → State H → Prop
  | missingRight {test state} (relation : test.op ≠ "") (absent : test.right = none) :
      Raises host subject test state (.missingRight test.op)
        (.ofCause (Test.missingRight test.op)) state
  | left {test state origin raised last} (admitted : test.op = "" ∨ test.right ≠ none)
      (raises : test.left.Raises host subject state origin raised last) :
      Raises host subject test state origin raised last
  | right {test right left state between origin raised last} (relation : test.op ≠ "")
      (present : test.right = some right)
      (resolved : test.left.resolve host subject state = .ok left between)
      (raises : right.Raises host subject between origin raised last) :
      Raises host subject test state origin raised last
  | comparison {test right left value state between last cause} (relation : test.op ≠ "")
      (present : test.right = some right)
      (resolved : test.left.resolve host subject state = .ok left between)
      (resolvedRight : right.resolve host subject between = .ok value last)
      (fails : left.relate (some value) test.op = .error (.ofCause cause)) :
      Raises host subject test state (.comparison left value test.op) (.ofCause cause) last

/-- The error is raised while the tests are evaluated under the combinator: by the first test that
is evaluated and fails, or by a combinator that there is not. -/
inductive Test.CombinedRaise (host : Host H) (subject : Subject) :
    String → List (Test H) → State H → Origin H → ScriptError → State H → Prop
  | unknown {combinator tests state} (notAnd : combinator ≠ "and") (notOr : combinator ≠ "or") :
      CombinedRaise host subject combinator tests state (.combinator combinator)
        (.ofCause (.unknownCombinator combinator)) state
  | all {before test after state between origin raised last}
      (earlier : Test.evalAll host subject before state = .ok true between)
      (raises : test.Raises host subject between origin raised last) :
      CombinedRaise host subject "and" (before ++ test :: after) state origin raised last
  | any {before test after found state between origin raised last}
      (earlier : Test.evalAny host subject before state = .ok found between)
      (raises : test.Raises host subject between origin raised last) :
      CombinedRaise host subject "or" (before ++ test :: after) state origin raised last

mutual

/-- The error is raised while the statement is executed, and, inside it, the statements of the
path. -/
inductive Statement.Raises (host : Host H) (subject : Subject) :
    Statement H → State H → List (Statement H) → Origin H → ScriptError → State H → Prop
  | test {tests combinator whenTrue whenFalse state origin raised last}
      (raises : Test.CombinedRaise host subject combinator tests state origin raised last) :
      Statement.Raises host subject (.cond tests combinator whenTrue whenFalse) state [] origin
        raised last
  | branch {tests combinator whenTrue whenFalse state found between path origin raised last}
      (chosen : Test.combine host subject combinator tests state = .ok found between)
      (raises : RunRaises host subject (if found then whenTrue else whenFalse) between path origin
        raised last) :
      Statement.Raises host subject (.cond tests combinator whenTrue whenFalse) state path origin
        raised last
  | call {name arguments state origin raised last}
      (raises : (Operand.call name arguments).Raises host subject state origin raised last) :
      Statement.Raises host subject (.call name arguments) state [] origin raised last
  | host {statement state raised last}
      (fails : host.execute statement subject state = .error (.script raised) last) :
      Statement.Raises host subject (.host statement) state [] (.statement statement) raised last

/-- The error is raised while the statements are executed in an open block. The hook is called
before a statement, so an error of the hook is raised outside it; so is the error that a stack which
ran out inside a statement turns into when it comes out of the statement. -/
inductive BlockRaises (host : Host H) (subject : Subject) :
    List (Statement H) → State H → List (Statement H) → Origin H → ScriptError → State H → Prop
  | hook {statement rest state raised last}
      (fails : host.beforeStatement state = .error (.script raised) last) :
      BlockRaises host subject (statement :: rest) state [] .hook raised last
  | statement {statement rest state ready path origin raised last}
      (begun : host.beforeStatement state = .ok () ready)
      (raises : statement.Raises host subject ready path origin raised last) :
      BlockRaises host subject (statement :: rest) state (statement :: path) origin raised last
  | stack {statement rest state ready last}
      (begun : host.beforeStatement state = .ok () ready)
      (exhausts : statement.execute host subject ready = .error .stackExhausted last) :
      BlockRaises host subject (statement :: rest) state [] .stack
        (.ofCause (.tooDeep last.depth)) last
  | later {statement rest state ready next path origin raised last}
      (begun : host.beforeStatement state = .ok () ready)
      (done : statement.execute host subject ready = .ok .proceed next)
      (raises : BlockRaises host subject rest next path origin raised last) :
      BlockRaises host subject (statement :: rest) state path origin raised last

/-- The error is raised while the statements are run as a block, or by entering it. -/
inductive RunRaises (host : Host H) (subject : Subject) :
    List (Statement H) → State H → List (Statement H) → Origin H → ScriptError → State H → Prop
  | limit {script state} (limit : state.AtLimit) :
      RunRaises host subject script state [] .depth (.ofCause (.tooDeep state.maxDepth)) state
  | block {script state path origin raised inner} (room : ¬ state.AtLimit)
      (raises : BlockRaises host subject script state.enter path origin raised inner) :
      RunRaises host subject script state path origin raised inner.leave

end

section

variable {host : Host H} {subject : Subject} {state last : State H} {origin : Origin H}
  {raised : ScriptError}

/-- An error of an operand is raised where tests are. -/
theorem Operand.Raises.inTest {operand : Operand H}
    (raises : operand.Raises host subject state origin raised last) : origin.InTest := by
  induction raises with
  | argument _ _ _ ih => exact ih
  | literal | field | unknown | function | host => trivial

/-- An error of a test is raised where tests are. -/
theorem Test.Raises.inTest {test : Test H}
    (raises : test.Raises host subject state origin raised last) : origin.InTest := by
  cases raises with
  | missingRight | comparison => trivial
  | left _ raises => exact raises.inTest
  | right _ _ _ raises => exact raises.inTest

/-- An error of combined tests is raised where tests are. -/
theorem Test.CombinedRaise.inTest {combinator : String} {tests : List (Test H)}
    (raises : CombinedRaise host subject combinator tests state origin raised last) :
    origin.InTest := by
  cases raises with
  | unknown => trivial
  | all _ raises => exact raises.inTest
  | any _ raises => exact raises.inTest

end

end FilterScript
