import FilterScript.Proofs.Journal

/-! # What a run does with values

The journal shows the states of a run and the arguments of its calls. Beside it stands the list of
the values that operands are resolved to, and of the values that tests compare, in the order in
which this is done. The arguments of a call are operands and are listed as such, before the call
that they belong to. Like the journal, the list is read off the evaluation.
-/

namespace FilterScript

variable {H : Extension} {α : Type}

/-- What a run does with values. -/
inductive Use (H : Extension) where
  /-- The operand is resolved to the value. -/
  | resolved (operand : Operand H) (value : Value)
  /-- The values are compared by the operator. -/
  | compared (left : Value) (op : String) (right : Value)

/-- The uses that follow on the success of an evaluation. -/
def Eval.usesOnward (action : Eval H α) (next : α → State H → List (Use H)) (state : State H) :
    List (Use H) :=
  match action state with
  | .ok value between => next value between
  | .error _ _ => []

theorem Eval.usesOnward_of_ok {action : Eval H α} {next : α → State H → List (Use H)}
    {state between : State H} {value : α} (succeeds : action state = .ok value between) :
    action.usesOnward next state = next value between := by
  simp only [usesOnward, succeeds]

theorem Eval.usesOnward_of_error {action : Eval H α} {next : α → State H → List (Use H)}
    {state between : State H} {failure : Failure} (fails : action state = .error failure between) :
    action.usesOnward next state = [] := by
  simp only [usesOnward, fails]

/-- The value that an operand is resolved to, if it is. -/
def Operand.resolution (host : Host H) (subject : Subject) (operand : Operand H)
    (state : State H) : List (Use H) :=
  (operand.resolve host subject).usesOnward (fun value _ => [.resolved operand value]) state

mutual

/-- What is done with values while an operand is resolved. -/
def Operand.uses (host : Host H) (subject : Subject) : Operand H → State H → List (Use H)
  | .call name arguments, state =>
    (match state.functions.get? name with
      | none => []
      | some _ => usesOfOperands host subject arguments state) ++
      (Operand.call name arguments).resolution host subject state
  | .literal native, state => (Operand.literal native).resolution host subject state
  | .field name, state => (Operand.field name).resolution host subject state
  | .var name, state => (Operand.var name).resolution host subject state
  | .bare line, state => (Operand.bare line).resolution host subject state
  | .host operand, state => (Operand.host operand).resolution host subject state

/-- What is done with values while operands are resolved from left to right. -/
def usesOfOperands (host : Host H) (subject : Subject) :
    List (Operand H) → State H → List (Use H)
  | [], _ => []
  | operand :: rest, state =>
    operand.uses host subject state ++
      (operand.resolve host subject).usesOnward
        (fun _ => usesOfOperands host subject rest) state

end

namespace Test

/-- What is done with values while a test is evaluated. -/
def uses (host : Host H) (subject : Subject) (test : Test H) (state : State H) : List (Use H) :=
  if test.op = "" then
    test.left.uses host subject state
  else
    match test.right with
    | none => []
    | some right =>
      test.left.uses host subject state ++
        (test.left.resolve host subject).usesOnward
          (fun leftValue between =>
            right.uses host subject between ++
              (right.resolve host subject).usesOnward
                (fun rightValue _ => [.compared leftValue test.op rightValue]) between) state

/-- What is done with values while tests are evaluated up to the first that is not true. -/
def usesOfAll (host : Host H) (subject : Subject) : List (Test H) → State H → List (Use H)
  | [], _ => []
  | test :: rest, state =>
    test.uses host subject state ++
      (test.eval host subject).usesOnward
        (fun found next => if found then usesOfAll host subject rest next else []) state

/-- What is done with values while all of some tests are evaluated. -/
def usesOfAny (host : Host H) (subject : Subject) : List (Test H) → State H → List (Use H)
  | [], _ => []
  | test :: rest, state =>
    test.uses host subject state ++
      (test.eval host subject).usesOnward (fun _ => usesOfAny host subject rest) state

/-- What is done with values while tests are evaluated under a combinator. -/
def usesOfCombined (host : Host H) (subject : Subject) (combinator : String)
    (tests : List (Test H)) (state : State H) : List (Use H) :=
  if combinator = "and" then usesOfAll host subject tests state
  else if combinator = "or" then usesOfAny host subject tests state
  else []

end Test

mutual

/-- What is done with values while a statement is executed. -/
def Statement.uses (host : Host H) (subject : Subject) : Statement H → State H → List (Use H)
  | .cond tests combinator whenTrue whenFalse, state =>
    Test.usesOfCombined host subject combinator tests state ++
      (Test.combine host subject combinator tests).usesOnward
        (fun found next =>
          if next.AtLimit then []
          else if found then usesOfBlock host subject whenTrue next.enter
          else usesOfBlock host subject whenFalse next.enter) state
  | .call name arguments, state => (Operand.call name arguments).uses host subject state
  | .verdict _, _ | .inert _, _ | .host _, _ => []

/-- What is done with values while statements are executed. -/
def usesOfBlock (host : Host H) (subject : Subject) : List (Statement H) → State H → List (Use H)
  | [], _ => []
  | statement :: rest, state =>
    host.beforeStatement.usesOnward
      (fun _ ready =>
        statement.uses host subject ready ++
          (Eval.describing (statement.describe host.descriptions)
            (statement.execute host subject)).usesOnward
            (fun outcome next =>
              if outcome.terminated then [] else usesOfBlock host subject rest next) ready) state

end

/-- What is done with values while a script runs. -/
def usesOfRun (host : Host H) (subject : Subject) (script : List (Statement H))
    (state : State H) : List (Use H) :=
  if state.AtLimit then [] else usesOfBlock host subject script state.enter

end FilterScript
