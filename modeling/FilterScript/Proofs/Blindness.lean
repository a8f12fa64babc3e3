import FilterScript.Proofs.InStep
import FilterScript.Proofs.Journal

/-! # What tests do not look at

Operands and tests read variables, look up functions, print and warn. A relation between states that
leaves all this the same, and that the host respects, is one that they do not see through: from
related states they give the same values or fail in the same way (`Test.combine_inStep`). Unlike a
whole script, they never look at the depth.
-/

namespace FilterScript

variable {H : Extension}

/-- A relation between states under which operands and tests see the same. -/
structure Unseen (host : Host H) (related : State H → State H → Prop) : Prop where
  read : ∀ {state state'}, related state state' → ∀ name,
    state.variableValue name = state'.variableValue name
  lookup : ∀ {state state'}, related state state' → ∀ name,
    state.functions.get? name = state'.functions.get? name
  print : ∀ {state state'}, related state state' → ∀ line,
    related (state.print line) (state'.print line)
  showing : ∀ {state state'}, related state state' → ∀ line,
    state.showing line = state'.showing line
  warn : ∀ {state state'}, related state state' → ∀ message,
    related (state.warn message) (state'.warn message)
  behaves : host.Respects related

section

variable {host : Host H} {subject : Subject} {related : State H → State H → Prop}

/-- A function call cannot tell related states apart, whoever has provided the function. -/
theorem Callable.call_inStep (unseen : Unseen host related) (function : Callable H)
    (arguments : List Value) :
    InStep related (function.call host arguments) (function.call host arguments) := by
  cases function with
  | builtin function => exact function.call_inStep unseen.print unseen.showing arguments
  | host function => exact unseen.behaves.call function arguments

mutual

/-- Resolving an operand cannot tell related states apart. -/
theorem Operand.resolve_inStep (unseen : Unseen host related) : (operand : Operand H) →
    InStep related (operand.resolve host subject) (operand.resolve host subject)
  | .literal _ | .field _ => by
      unfold Operand.resolve
      exact .ofExcept _
  | .var name => by
      unfold Operand.resolve
      refine .of_state fun state state' same => ?_
      rw [unseen.read same]
      exact .ok _ same
  | .call name arguments => by
      unfold Operand.resolve
      refine .of_state fun state state' same => ?_
      rw [unseen.lookup same]
      cases state'.functions.get? name with
      | none => exact .error _ same
      | some function =>
          exact InStep.bind (resolveAll_inStep unseen arguments)
            (fun values => function.call_inStep unseen values) state state' same
  | .bare _ => by
      unfold Operand.resolve
      exact .throw _
  | .host operand => by
      unfold Operand.resolve
      exact unseen.behaves.resolve operand subject

theorem resolveAll_inStep (unseen : Unseen host related) : (operands : List (Operand H)) →
    InStep related (resolveAll host subject operands) (resolveAll host subject operands)
  | [] => by
      unfold resolveAll
      exact .pure []
  | operand :: rest => by
      unfold resolveAll
      exact .bind (operand.resolve_inStep unseen) fun value =>
        .bind (resolveAll_inStep unseen rest) fun values => .pure _

end

namespace Test

/-- A test cannot tell related states apart. -/
theorem eval_inStep (unseen : Unseen host related) (test : Test H) :
    InStep related (test.eval host subject) (test.eval host subject) := by
  unfold eval
  by_cases single : test.op = ""
  · simp only [single, ↓reduceIte]
    exact .bind (test.left.resolve_inStep unseen) fun value =>
      truth_inStep unseen.warn value
  · simp only [single, ↓reduceIte]
    cases test.right with
    | none => exact .throw _
    | some right =>
        exact .bind (test.left.resolve_inStep unseen) fun left =>
          .bind (right.resolve_inStep unseen) fun right => .ofExcept _

/-- Tests that are all to be true cannot tell related states apart. -/
theorem evalAll_inStep (unseen : Unseen host related) (tests : List (Test H)) :
    InStep related (evalAll host subject tests) (evalAll host subject tests) := by
  induction tests with
  | nil => exact .pure true
  | cons test rest ih =>
      unfold evalAll
      refine .bind (test.eval_inStep unseen) fun found => ?_
      cases found with
      | true => exact ih
      | false => exact .pure false

/-- Tests of which some is to be true cannot tell related states apart. -/
theorem evalAny_inStep (unseen : Unseen host related) (tests : List (Test H)) :
    InStep related (evalAny host subject tests) (evalAny host subject tests) := by
  induction tests with
  | nil => exact .pure false
  | cons test rest ih =>
      unfold evalAny
      exact .bind (test.eval_inStep unseen) fun found => .bind ih fun others => .pure _

/-- Tests under a combinator give the same from related states. -/
theorem combine_inStep (unseen : Unseen host related) (combinator : String)
    (tests : List (Test H)) :
    InStep related (combine host subject combinator tests)
      (combine host subject combinator tests) := by
  unfold combine
  split
  · exact evalAll_inStep unseen tests
  · split
    · exact evalAny_inStep unseen tests
    · exact .throw _

end Test

/-- Whoever does not look at the depth does not see through states that differ in it alone. -/
theorem unseen_alike (behaves : host.Respects State.Alike) : Unseen host State.Alike where
  read := by
    intro state state' same name
    unfold State.variableValue
    rw [same.vars]
  lookup := fun same name => by rw [same.functions]
  print := fun same line => congrArg (State.print · line) same
  showing := by
    intro state state' same line
    unfold State.showing
    rw [same.part State.quiet fun _ => rfl]
  warn := fun same message => congrArg (State.warn · message) same
  behaves := behaves

end

end FilterScript
