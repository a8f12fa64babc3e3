import FilterScript.Proofs.Evaluation

/-! # What a run keeps

A relation between the state before and the state after holds of a whole run as soon as it survives
what the language itself does to a state, which is to print, to warn and to enter and leave blocks,
and holds of each behaviour of the host (`run_keeps`). The run may succeed or fail.
-/

namespace FilterScript

variable {H : Extension} {α β : Type}

/-- The evaluation relates every state to the state that it leaves. -/
def Eval.Keeps (action : Eval H α) (kept : State H → State H → Prop) : Prop :=
  ∀ state, kept state (action.final state)

/-- A relation between the state before and the state after that survives whatever the language
itself does. -/
structure Steady (kept : State H → State H → Prop) : Prop where
  refl : ∀ state, kept state state
  trans : ∀ {first second third}, kept first second → kept second third → kept first third
  print : ∀ state line, kept state (state.print line)
  warn : ∀ state message, kept state (state.warn message)
  nested : ∀ {state inner : State H}, ¬ state.AtLimit → kept state.enter inner →
    kept state inner.leave

/-- Every behaviour of the host relates the state before to the state after. -/
structure Host.Keeps (host : Host H) (kept : State H → State H → Prop) : Prop where
  call : ∀ function arguments, (host.call function arguments).Keeps kept
  resolve : ∀ operand subject, (host.resolve operand subject).Keeps kept
  execute : ∀ statement subject, (host.execute statement subject).Keeps kept
  hook : ∀ hook, host.hook = some hook → hook.Keeps kept

/-- A description of a statement does not change what it keeps. -/
theorem Eval.Keeps.describing {statement : Eval H α} {kept : State H → State H → Prop}
    (inside : statement.Keeps kept) (description : Except Cause String) :
    (Eval.describing description statement).Keeps kept := by
  intro state
  rw [Eval.final_describing]
  exact inside state

namespace Steady

variable {kept : State H → State H → Prop} (steady : Steady kept)
include steady

theorem pure (value : α) : (Pure.pure value : Eval H α).Keeps kept := steady.refl

theorem throw (failure : Failure) : (MonadExcept.throw failure : Eval H α).Keeps kept :=
  steady.refl

theorem get : (MonadState.get : Eval H (State H)).Keeps kept := steady.refl

theorem ofExcept (result : Except Failure α) : (Eval.ofExcept result : Eval H α).Keeps kept := by
  cases result with
  | ok value => exact steady.pure value
  | error failure => exact steady.throw failure

/-- A sequence keeps what both of its parts keep. -/
theorem bind {action : Eval H α} {next : α → Eval H β} (first : action.Keeps kept)
    (second : ∀ value, (next value).Keeps kept) : (action >>= next).Keeps kept := by
  intro state
  have before := first state
  cases result : action state with
  | ok value between =>
      rw [Eval.final_of_ok result] at before
      rw [Eval.final_bind_of_ok result]
      exact steady.trans before (second value between)
  | error failure between =>
      rw [Eval.final_of_error result] at before
      rw [Eval.final_bind_of_error result]
      exact before

/-- A block keeps what its inside keeps, as entering and leaving cancel out. -/
theorem inBlock {block : Eval H α} (inside : block.Keeps kept) : block.nested.Keeps kept := by
  intro state
  by_cases limit : state.AtLimit
  · rw [Eval.final_nested_of_atLimit limit]
    exact steady.refl state
  · rw [Eval.final_nested limit]
    exact steady.nested limit (inside state.enter)

/-- Asking a value for its truth at most warns. -/
theorem truth (value : Value) : (Test.truth value : Eval H Bool).Keeps kept := by
  intro state
  unfold Test.truth
  cases value.truthWarning? with
  | some warning => exact steady.warn state warning
  | none => exact steady.refl state

/-- A built-in function at most prints. -/
theorem builtin (function : Builtin) (arguments : List Value) :
    (function.call arguments : Eval H Value).Keeps kept := by
  unfold Builtin.call
  by_cases printing : function = .print
  · simp only [printing, ↓reduceIte]
    exact steady.bind (fun state => (Eval.final_print _ state).symm ▸ steady.print state _)
      fun _ => steady.ofExcept _
  · simp only [printing, ↓reduceIte]
    exact steady.ofExcept _

end Steady

section

variable {kept : State H → State H → Prop} {host : Host H} {subject : Subject}

/-- A call of a function keeps what the language and the host keep. -/
theorem Callable.call_keeps (steady : Steady kept) (behaves : host.Keeps kept)
    (function : Callable H) (arguments : List Value) :
    (function.call host arguments).Keeps kept := by
  cases function with
  | builtin function => exact steady.builtin function arguments
  | host function => exact behaves.call function arguments

/-- The hook keeps what the host keeps. -/
theorem Host.beforeStatement_keeps (steady : Steady kept) (behaves : host.Keeps kept) :
    host.beforeStatement.Keeps kept := by
  unfold Host.beforeStatement
  cases hooked : host.hook with
  | none => exact steady.pure ()
  | some hook => exact behaves.hook hook hooked

mutual

/-- Resolving an operand keeps what the language and the host keep. -/
theorem Operand.resolve_keeps (steady : Steady kept) (behaves : host.Keeps kept) :
    (operand : Operand H) → (operand.resolve host subject).Keeps kept
  | .literal _ | .field _ => by
      unfold Operand.resolve
      exact steady.ofExcept _
  | .var _ => by
      unfold Operand.resolve
      exact steady.bind steady.get fun _ => steady.pure _
  | .call name arguments => by
      unfold Operand.resolve
      refine steady.bind steady.get fun state => ?_
      cases state.functions.get? name with
      | none => exact steady.throw _
      | some function =>
          exact steady.bind (resolveAll_keeps steady behaves arguments) fun values =>
            function.call_keeps steady behaves values
  | .bare _ => by
      unfold Operand.resolve
      exact steady.throw _
  | .host operand => by
      unfold Operand.resolve
      exact behaves.resolve operand subject

/-- Resolving operands keeps what the language and the host keep. -/
theorem resolveAll_keeps (steady : Steady kept) (behaves : host.Keeps kept) :
    (operands : List (Operand H)) → (resolveAll host subject operands).Keeps kept
  | [] => by
      unfold resolveAll
      exact steady.pure []
  | operand :: rest => by
      unfold resolveAll
      exact steady.bind (operand.resolve_keeps steady behaves) fun value =>
        steady.bind (resolveAll_keeps steady behaves rest) fun values => steady.pure _

end

namespace Test

/-- A test keeps what the language and the host keep. -/
theorem eval_keeps (steady : Steady kept) (behaves : host.Keeps kept) (test : Test H) :
    (test.eval host subject).Keeps kept := by
  unfold eval
  by_cases single : test.op = ""
  · simp only [single, ↓reduceIte]
    exact steady.bind (test.left.resolve_keeps steady behaves) fun value => steady.truth value
  · simp only [single, ↓reduceIte]
    cases test.right with
    | none => exact steady.throw _
    | some right =>
        exact steady.bind (test.left.resolve_keeps steady behaves) fun left =>
          steady.bind (right.resolve_keeps steady behaves) fun right => steady.ofExcept _

/-- Tests that are all to be true keep what the language and the host keep. -/
theorem evalAll_keeps (steady : Steady kept) (behaves : host.Keeps kept) (tests : List (Test H)) :
    (evalAll host subject tests).Keeps kept := by
  induction tests with
  | nil => exact steady.pure true
  | cons test rest ih =>
      unfold evalAll
      refine steady.bind (test.eval_keeps steady behaves) fun found => ?_
      cases found with
      | true => exact ih
      | false => exact steady.pure false

/-- Tests of which some is to be true keep what the language and the host keep. -/
theorem evalAny_keeps (steady : Steady kept) (behaves : host.Keeps kept) (tests : List (Test H)) :
    (evalAny host subject tests).Keeps kept := by
  induction tests with
  | nil => exact steady.pure false
  | cons test rest ih =>
      unfold evalAny
      exact steady.bind (test.eval_keeps steady behaves) fun found =>
        steady.bind ih fun others => steady.pure _

/-- Under every combinator tests keep what the language and the host keep. -/
theorem combine_keeps (steady : Steady kept) (behaves : host.Keeps kept) (combinator : String)
    (tests : List (Test H)) : (combine host subject combinator tests).Keeps kept := by
  unfold combine
  split
  · exact evalAll_keeps steady behaves tests
  · split
    · exact evalAny_keeps steady behaves tests
    · exact steady.throw _

end Test

mutual

/-- A statement keeps what the language and the host keep. -/
theorem Statement.execute_keeps (steady : Steady kept) (behaves : host.Keeps kept) :
    (statement : Statement H) → (statement.execute host subject).Keeps kept
  | .cond tests combinator whenTrue whenFalse => by
      unfold Statement.execute
      refine steady.bind (Test.combine_keeps steady behaves combinator tests) fun found => ?_
      cases found with
      | true => exact steady.inBlock (executeAll_keeps steady behaves whenTrue)
      | false => exact steady.inBlock (executeAll_keeps steady behaves whenFalse)
  | .verdict _ => by
      unfold Statement.execute
      exact steady.pure _
  | .call name arguments => by
      unfold Statement.execute
      exact steady.bind ((Operand.call name arguments).resolve_keeps steady behaves) fun _ =>
        steady.pure _
  | .inert _ => by
      unfold Statement.execute
      exact steady.throw _
  | .host statement => by
      unfold Statement.execute
      exact behaves.execute statement subject

/-- A block keeps what the language and the host keep. -/
theorem executeAll_keeps (steady : Steady kept) (behaves : host.Keeps kept) :
    (block : List (Statement H)) → (executeAll host subject block).Keeps kept
  | [] => by
      unfold executeAll
      exact steady.pure _
  | statement :: rest => by
      unfold executeAll
      refine steady.bind (host.beforeStatement_keeps steady behaves) fun _ => ?_
      refine steady.bind ((statement.execute_keeps steady behaves).describing _) ?_
      intro outcome
      cases outcome with
      | proceed => exact executeAll_keeps steady behaves rest
      | terminate verdict => exact steady.pure _

end

/-- **Frame of a run.** What survives the language and holds of the host holds of every run. -/
theorem run_keeps (steady : Steady kept) (behaves : host.Keeps kept)
    (script : List (Statement H)) : (run host script subject).Keeps kept :=
  steady.inBlock (executeAll_keeps steady behaves script)

end

end FilterScript
