import FilterScript.Proofs.Raising
import FilterScript.Proofs.Refusal

/-! # Errors inside a statement

Operands and tests hand an error on as it was raised, except that the relation between two values
adds one entry. An error that the language raises has an empty trail; only the host may raise one
that has entries already. Conversely every error of an operand, of a test or of the tests of a
condition was raised at one of the places that the relations of raising describe.
-/

namespace FilterScript

variable {H : Extension} {host : Host H} {subject : Subject}

/-- The error with more entries at the outer end of its trail. -/
def ScriptError.extend (error : ScriptError) (entries : List String) : ScriptError :=
  { error with trail := error.trail ++ entries }

@[simp] theorem ScriptError.extend_nil (error : ScriptError) : error.extend [] = error := by
  simp only [ScriptError.extend, List.append_nil]

/-! ## Lists of operands and tests -/

/-- An evaluation that goes through all items of a list and joins what they give fails at the first
item that fails. -/
theorem Eval.through_eq_error_iff {ι α β : Type} {through : List ι → Eval H β} {step : ι → Eval H α}
    (join : α → β → β) (stop : β) (nil : through [] = pure stop)
    (cons : ∀ item rest, through (item :: rest) = do
      let value ← step item
      let result ← through rest
      return join value result)
    {items : List ι} {state last : State H} {failure : Failure} :
    through items state = .error failure last ↔
      ∃ before item after result between, items = before ++ item :: after ∧
        through before state = .ok result between ∧ step item between = .error failure last := by
  induction items generalizing state with
  | nil =>
      constructor
      · intro impossible
        rw [nil] at impossible
        cases impossible
      · rintro ⟨before, _, _, _, _, split, _⟩
        cases before <;> cases split
  | cons first rest ih =>
      constructor
      · intro fails
        rw [cons] at fails
        rcases Eval.bind_eq_error_iff.mp fails with fails | ⟨value, between, stepped, fails⟩
        · exact ⟨[], first, rest, stop, state, rfl, by rw [nil]; rfl, fails⟩
        · rcases Eval.bind_eq_error_iff.mp fails with fails | ⟨_, _, _, impossible⟩
          · obtain ⟨before, item, after, result, later, rfl, earlier, fails⟩ := ih.mp fails
            refine ⟨first :: before, item, after, join value result, later, rfl, ?_, fails⟩
            rw [cons, Eval.bind_of_ok stepped, Eval.bind_of_ok earlier]
            rfl
          · cases impossible
      · rintro ⟨before, item, after, result, between, split, earlier, fails⟩
        rw [cons]
        cases before with
        | nil =>
            rw [nil] at earlier
            cases earlier
            cases split
            exact Eval.bind_of_error fails
        | cons head before =>
            cases split
            rw [cons] at earlier
            obtain ⟨value, middle, stepped, earlier⟩ := Eval.bind_eq_ok_iff.mp earlier
            obtain ⟨result, later, earlier, same⟩ := Eval.bind_eq_ok_iff.mp earlier
            cases same
            rw [Eval.bind_of_ok stepped]
            exact Eval.bind_of_error
              (ih.mpr ⟨before, item, after, result, _, rfl, earlier, fails⟩)

/-- Operands fail at the first that fails. -/
theorem resolveAll_eq_error_iff {operands : List (Operand H)} {state last : State H}
    {failure : Failure} :
    resolveAll host subject operands state = .error failure last ↔
      ∃ before operand after values between, operands = before ++ operand :: after ∧
        resolveAll host subject before state = .ok values between ∧
          operand.resolve host subject between = .error failure last :=
  Eval.through_eq_error_iff List.cons [] (by rw [resolveAll]) fun _ _ => by rw [resolveAll]

namespace Test

/-- Tests that are all to be true fail at the first that fails, if all before it are true. -/
theorem evalAll_eq_error_iff {tests : List (Test H)} {state last : State H} {failure : Failure} :
    evalAll host subject tests state = .error failure last ↔
      ∃ before test after between, tests = before ++ test :: after ∧
        evalAll host subject before state = .ok true between ∧
          test.eval host subject between = .error failure last := by
  induction tests generalizing state with
  | nil =>
      constructor
      · intro impossible
        simp only [evalAll, Eval.pure_apply] at impossible
        cases impossible
      · rintro ⟨before, _, _, _, split, _⟩
        cases before <;> cases split
  | cons first rest ih =>
      constructor
      · intro fails
        simp only [evalAll] at fails
        rcases Eval.bind_eq_error_iff.mp fails with fails | ⟨found, between, evaluated, fails⟩
        · exact ⟨[], first, rest, state, rfl, rfl, fails⟩
        · cases found with
          | false => cases fails
          | true =>
              obtain ⟨before, test, after, later, rfl, earlier, fails⟩ := ih.mp fails
              refine ⟨first :: before, test, after, later, rfl, ?_, fails⟩
              simp only [evalAll]
              rw [Eval.bind_of_ok evaluated]
              exact earlier
      · rintro ⟨before, test, after, between, split, earlier, fails⟩
        simp only [evalAll]
        cases before with
        | nil =>
            cases earlier
            cases split
            exact Eval.bind_of_error fails
        | cons head before =>
            cases split
            simp only [evalAll] at earlier
            obtain ⟨found, middle, evaluated, earlier⟩ := Eval.bind_eq_ok_iff.mp earlier
            rw [Eval.bind_of_ok evaluated]
            cases found with
            | false => cases earlier
            | true => exact ih.mpr ⟨before, test, after, between, rfl, earlier, fails⟩

/-- Tests of which some is to be true fail at the first that fails. -/
theorem evalAny_eq_error_iff {tests : List (Test H)} {state last : State H} {failure : Failure} :
    evalAny host subject tests state = .error failure last ↔
      ∃ before test after found between, tests = before ++ test :: after ∧
        evalAny host subject before state = .ok found between ∧
          test.eval host subject between = .error failure last :=
  Eval.through_eq_error_iff or false rfl fun _ _ => rfl

end Test

/-! ## Errors of the language have no trail yet -/

/-- A script error that has no trail yet, or another failure. -/
def Failure.Untrailed : Failure → Prop
  | .script error => error.trail = []
  | _ => True

/-- What a built-in function fails with has no trail. -/
theorem Builtin.compute_untrailed {characterNamed? : String → Option Char} {function : Builtin}
    {arguments : List Value} {failure : Failure}
    (fails : function.compute characterNamed? arguments = .error failure) :
    failure.Untrailed := by
  rcases Builtin.compute_eq_error fails with ⟨cause, rfl⟩ | ⟨value, text, _, _, refused⟩
  · rfl
  · unfold Builtin.patternOf at refused
    split at refused <;> cases refused
    · rfl
    all_goals trivial

/-- A call of a built-in function fails without a trail. -/
theorem Builtin.call_untrailed {function : Builtin} {arguments : List Value}
    {state last : State H} {failure : Failure}
    (fails : function.call arguments state = .error failure last) : failure.Untrailed := by
  rcases Builtin.call_eq_error fails with ⟨_, refused⟩ | refused
  · obtain ⟨message, _, _, rfl⟩ := State.showing_eq_error refused
    trivial
  · exact Builtin.compute_untrailed refused

/-! ## Operands -/

namespace Operand

variable {operand : Operand H} {state last : State H} {origin : Origin H} {raised : ScriptError}

/-- An operand hands its errors on as they are raised. -/
theorem Raises.resolve_eq (raises : operand.Raises host subject state origin raised last) :
    operand.resolve host subject state = .error (.script raised) last := by
  induction raises with
  | literal refused | field refused =>
      simp only [resolve, refused]
      rfl
  | unknown absent =>
      simp only [resolve]
      rw [Eval.bind_of_ok (Eval.get_apply _), absent]
      rfl
  | argument present earlier _ ih =>
      simp only [resolve]
      rw [Eval.bind_of_ok (Eval.get_apply _), present]
      exact Eval.bind_of_error
        (resolveAll_eq_error_iff.mpr ⟨_, _, _, _, _, rfl, earlier, ih⟩)
  | function present resolved fails =>
      simp only [resolve]
      rw [Eval.bind_of_ok (Eval.get_apply _), present]
      exact (Eval.bind_of_ok resolved).trans fails
  | host fails =>
      simp only [resolve]
      exact fails

/-- An error that is raised in an operand adds nothing to the trail. -/
theorem Raises.entry_eq_nil (raises : operand.Raises host subject state origin raised last) :
    origin.entry = [] := by
  induction raises with
  | argument _ _ _ ih => exact ih
  | _ => rfl

/-- An error that the language raises in an operand has no trail. -/
theorem Raises.trail_eq_nil (raises : operand.Raises host subject state origin raised last)
    (language : ¬ origin.ByHost) : raised.trail = [] := by
  induction raises with
  | literal | field | unknown => rfl
  | argument _ _ _ ih => exact ih language
  | @function _ function _ _ _ _ _ _ _ _ fails =>
      cases function with
      | builtin function => exact Builtin.call_untrailed fails
      | host function => exact (language trivial).elim
  | host => exact (language trivial).elim

end Operand

/-- A host value that is not taken in is an error of the script for the same cause. -/
theorem Eval.ofExcept_native_eq_error {result : Except Cause Value} {state last : State H}
    {failure : Failure}
    (fails : (Eval.ofExcept (result.mapError Failure.ofCause) : Eval H Value) state =
      .error failure last) :
    ∃ cause, result = .error cause ∧ failure = .ofCause cause ∧ last = state := by
  cases result with
  | ok value => cases fails
  | error cause =>
      cases fails
      exact ⟨cause, rfl, rfl, rfl⟩

/-- Every error of an operand is raised somewhere in it. -/
theorem Operand.raises_of_resolve : (operand : Operand H) → {state last : State H} →
    {raised : ScriptError} → operand.resolve host subject state = .error (.script raised) last →
      ∃ origin, operand.Raises host subject state origin raised last
  | .literal value, state, last, raised, fails => by
      simp only [resolve] at fails
      obtain ⟨cause, refused, same, rfl⟩ := Eval.ofExcept_native_eq_error fails
      cases same
      exact ⟨_, .literal refused⟩
  | .field name, state, last, raised, fails => by
      simp only [resolve] at fails
      obtain ⟨cause, refused, same, rfl⟩ := Eval.ofExcept_native_eq_error fails
      cases same
      exact ⟨_, .field refused⟩
  | .var name, state, last, raised, fails => by
      simp only [resolve] at fails
      rw [Eval.bind_of_ok (Eval.get_apply state)] at fails
      cases fails
  | .call name arguments, state, last, raised, fails => by
      simp only [resolve] at fails
      rw [Eval.bind_of_ok (Eval.get_apply state)] at fails
      cases present : state.functions.get? name with
      | none =>
          rw [present] at fails
          cases fails
          exact ⟨_, .unknown present⟩
      | some function =>
          rw [present] at fails
          rcases Eval.bind_eq_error_iff.mp fails with fails | ⟨values, called, resolved, fails⟩
          · obtain ⟨before, argument, after, values, between, split, earlier, fails⟩ :=
              resolveAll_eq_error_iff.mp fails
            have member : argument ∈ arguments := by
              rw [split]
              exact List.mem_append_cons_self
            obtain ⟨origin, raises⟩ := raises_of_resolve argument fails
            subst split
            exact ⟨origin, .argument present earlier raises⟩
          · exact ⟨_, .function present resolved fails⟩
  | .bare line, state, last, raised, fails => by
      simp only [resolve] at fails
      cases fails
  | .host operand, state, last, raised, fails => by
      simp only [resolve] at fails
      exact ⟨_, .host fails⟩
-- The failing argument is found by `resolveAll_eq_error_iff`, so that it is smaller has to be said.
termination_by operand => sizeOf operand
decreasing_by
  have smaller := List.sizeOf_lt_of_mem member
  simp only [call.sizeOf_spec]
  omega

/-! ## Tests -/

namespace Test

variable {state last : State H} {origin : Origin H} {raised : ScriptError}

/-- To ask a value for its truth does not fail. -/
theorem truth_ne_error {value : Value} {failure : Failure} :
    (truth value : Eval H Bool) state ≠ .error failure last := by
  intro impossible
  unfold truth at impossible
  cases warned : value.truthWarning? with
  | none =>
      rw [warned] at impossible
      cases impossible
  | some warning =>
      rw [warned] at impossible
      cases impossible

/-- An error leaves a test with the entry of its origin. -/
theorem Raises.eval_eq {test : Test H}
    (raises : test.Raises host subject state origin raised last) :
    test.eval host subject state = .error (.script (raised.extend origin.entry)) last := by
  unfold eval
  cases raises with
  | missingRight relation absent =>
      simp only [relation, ↓reduceIte, absent, Origin.entry, ScriptError.extend_nil]
      rfl
  | left admitted raises =>
      rw [raises.entry_eq_nil, ScriptError.extend_nil]
      by_cases single : test.op = ""
      · simp only [single, ↓reduceIte]
        exact Eval.bind_of_error raises.resolve_eq
      · simp only [single, ↓reduceIte]
        cases present : test.right with
        | none => exact (admitted.elim single fun given => given present).elim
        | some right => exact Eval.bind_of_error raises.resolve_eq
  | right relation present resolved raises =>
      rw [raises.entry_eq_nil, ScriptError.extend_nil]
      simp only [relation, ↓reduceIte, present]
      rw [Eval.bind_of_ok resolved]
      exact Eval.bind_of_error raises.resolve_eq
  | comparison relation present resolved resolvedRight fails =>
      simp only [relation, ↓reduceIte, present]
      rw [Eval.bind_of_ok resolved, Eval.bind_of_ok resolvedRight, fails]
      rfl

/-- An error that the language raises in a test has no trail. -/
theorem Raises.trail_eq_nil {test : Test H}
    (raises : test.Raises host subject state origin raised last)
    (language : ¬ origin.ByHost) : raised.trail = [] := by
  cases raises with
  | missingRight | comparison => rfl
  | left _ raises => exact raises.trail_eq_nil language
  | right _ _ _ raises => exact raises.trail_eq_nil language

/-- Every error of a test is raised somewhere in it. -/
theorem raises_of_eval {test : Test H} {error : ScriptError}
    (fails : test.eval host subject state = .error (.script error) last) :
    ∃ origin raised, test.Raises host subject state origin raised last ∧
      error = raised.extend origin.entry := by
  unfold eval at fails
  by_cases single : test.op = ""
  · simp only [single, ↓reduceIte] at fails
    rcases Eval.bind_eq_error_iff.mp fails with fails | ⟨_, _, _, impossible⟩
    · obtain ⟨origin, raises⟩ := test.left.raises_of_resolve fails
      refine ⟨origin, error, .left (.inl single) raises, ?_⟩
      rw [raises.entry_eq_nil, ScriptError.extend_nil]
    · exact (truth_ne_error impossible).elim
  · simp only [single, ↓reduceIte] at fails
    cases present : test.right with
    | none =>
        rw [present] at fails
        cases fails
        exact ⟨_, _, .missingRight single present, rfl⟩
    | some right =>
        rw [present] at fails
        have given : test.right ≠ none := by
          rw [present]
          exact Option.some_ne_none right
        rcases Eval.bind_eq_error_iff.mp fails with fails | ⟨left, between, resolved, fails⟩
        · obtain ⟨origin, raises⟩ := test.left.raises_of_resolve fails
          refine ⟨origin, error, .left (.inr given) raises, ?_⟩
          rw [raises.entry_eq_nil, ScriptError.extend_nil]
        · rcases Eval.bind_eq_error_iff.mp fails with fails | ⟨value, later, resolvedRight, fails⟩
          · obtain ⟨origin, raises⟩ := right.raises_of_resolve fails
            refine ⟨origin, error, .right single present resolved raises, ?_⟩
            rw [raises.entry_eq_nil, ScriptError.extend_nil]
          · cases related : left.relate (some value) test.op with
            | ok truth =>
                rw [related] at fails
                cases fails
            | error failure =>
                rw [related] at fails
                rcases Value.relate_eq_error related with ⟨cause, rfl⟩ | ⟨rfl, _⟩
                · cases fails
                  exact ⟨_, _, .comparison single present resolved resolvedRight related, rfl⟩
                · cases fails

/-- An error leaves the tests of a condition as it leaves the test that raises it. -/
theorem CombinedRaise.combine_eq {combinator : String} {tests : List (Test H)}
    (raises : CombinedRaise host subject combinator tests state origin raised last) :
    combine host subject combinator tests state =
      .error (.script (raised.extend origin.entry)) last := by
  unfold combine
  cases raises with
  | unknown notAnd notOr =>
      simp only [notAnd, notOr, ↓reduceIte, Origin.entry, ScriptError.extend_nil]
      rfl
  | all earlier raises =>
      simp only [↓reduceIte]
      exact evalAll_eq_error_iff.mpr ⟨_, _, _, _, rfl, earlier, raises.eval_eq⟩
  | any earlier raises =>
      have other : ("or" : String) ≠ "and" := by decide
      simp only [other, ↓reduceIte]
      exact evalAny_eq_error_iff.mpr ⟨_, _, _, _, _, rfl, earlier, raises.eval_eq⟩

/-- An error that the language raises in combined tests has no trail. -/
theorem CombinedRaise.trail_eq_nil {combinator : String} {tests : List (Test H)}
    (raises : CombinedRaise host subject combinator tests state origin raised last)
    (language : ¬ origin.ByHost) : raised.trail = [] := by
  cases raises with
  | unknown => rfl
  | all _ raises => exact raises.trail_eq_nil language
  | any _ raises => exact raises.trail_eq_nil language

/-- Every error of the tests of a condition is raised by its combinator or by one of the tests. -/
theorem raises_of_combine {combinator : String} {tests : List (Test H)} {error : ScriptError}
    (fails : combine host subject combinator tests state = .error (.script error) last) :
    ∃ origin raised, CombinedRaise host subject combinator tests state origin raised last ∧
      error = raised.extend origin.entry := by
  unfold combine at fails
  by_cases isAnd : combinator = "and"
  · subst isAnd
    simp only [↓reduceIte] at fails
    obtain ⟨before, test, after, between, rfl, earlier, fails⟩ := evalAll_eq_error_iff.mp fails
    obtain ⟨origin, raised, raises, same⟩ := raises_of_eval fails
    exact ⟨origin, raised, .all earlier raises, same⟩
  · simp only [isAnd, ↓reduceIte] at fails
    by_cases isOr : combinator = "or"
    · subst isOr
      simp only [↓reduceIte] at fails
      obtain ⟨before, test, after, found, between, rfl, earlier, fails⟩ :=
        evalAny_eq_error_iff.mp fails
      obtain ⟨origin, raised, raises, same⟩ := raises_of_eval fails
      exact ⟨origin, raised, .any earlier raises, same⟩
    · simp only [isOr, ↓reduceIte] at fails
      cases fails
      exact ⟨_, _, .unknown isAnd isOr, rfl⟩

end Test

end FilterScript
