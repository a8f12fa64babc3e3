import FilterScript.Script.Builtin
import FilterScript.Value.Relation

/-! # What computations on values are refused for

Values fail to be related, and built-in functions fail, for causes of their own. Beside these, an
integer may be too large for a double, which no integer is that keeps to its kind, and a search may
fail because of its pattern. Not every refusal of a pattern is an error of the script.
-/

namespace FilterScript

/-! ## Results -/

section

variable {ε ε' α β : Type} {result : Except ε α}

/-- A sequence that is accepted has both its parts accepted. -/
theorem ok_of_bind {next : α → Except ε β} {value : β} (accepted : (result >>= next) = .ok value) :
    ∃ first, result = .ok first ∧ next first = .ok value := by
  cases result with
  | error failure => cases accepted
  | ok first => exact ⟨first, rfl, accepted⟩

/-- What is accepted under other errors is accepted with the same value. -/
theorem ok_of_mapError {change : ε → ε'} {value : α}
    (accepted : result.mapError change = .ok value) : result = .ok value := by
  cases result with
  | error failure => cases accepted
  | ok first => exact congrArg Except.ok (Except.ok.inj accepted)

/-- An error under other names has a cause that was renamed. -/
theorem error_of_mapError {change : ε → ε'} {failure : ε'}
    (refused : result.mapError change = .error failure) :
    ∃ cause, result = .error cause ∧ failure = change cause := by
  cases result with
  | error cause => exact ⟨cause, rfl, (Except.error.inj refused).symm⟩
  | ok first => cases refused

end

/-! ## Relations and built-in functions -/

namespace Value

/-- The value is no signed integer that is too large for a double. -/
def Convertible (value : Value) : Prop := value.number ≠ .error .integerTooLarge

/-- A number that has to be finite is refused for its size alone. -/
theorem requireFinite_eq_error {x : Double} {failure : Failure}
    (refused : requireFinite x = .error failure) : failure = .integerTooLarge := by
  cases x with
  | finite negative rank => cases refused
  | infinity negative | nan =>
      cases refused
      rfl

/-- A value has no number because of its kind, which is a cause, or because it is too large. -/
theorem number_eq_error {value : Value} {failure : Failure}
    (refused : value.number = .error failure) :
    (∃ cause, failure = .ofCause cause) ∨ failure = .integerTooLarge ∧ ¬ value.Convertible := by
  cases value with
  | integer kind n =>
      by_cases isSigned : kind.isSigned = true
      · have tooLarge := requireFinite_eq_error ((if_pos isSigned).symm.trans refused)
        subst tooLarge
        exact .inr ⟨rfl, not_not_intro refused⟩
      · have cause := (if_neg isSigned).symm.trans refused
        cases cause
        exact .inl ⟨_, rfl⟩
  | string text => cases refused
  | null | boolean | float32 | float64 | array | map | object =>
      cases refused
      exact .inl ⟨_, rfl⟩

/-- The relation of two values fails for a cause, if at all, unless one of them is too large for a
double. -/
theorem relate_eq_error {left right : Value} {op : String} {failure : Failure}
    (fails : left.relate (some right) op = .error failure) :
    (∃ cause, failure = .ofCause cause) ∨
      failure = .integerTooLarge ∧ (¬ left.Convertible ∨ ¬ right.Convertible) := by
  unfold relate at fails
  by_cases single : op = ""
  · simp only [single, ↓reduceIte] at fails
    cases fails
  · simp only [single, ↓reduceIte] at fails
    cases symbol : Operator.ofSymbol? op with
    | none =>
        rw [symbol] at fails
        cases fails
        exact .inl ⟨_, rfl⟩
    | some operator =>
        rw [symbol] at fails
        cases operator with
        | texts relation => cases fails
        | numbers relation =>
            cases first : left.number with
            | error other =>
                simp only [first] at fails
                cases fails
                exact (number_eq_error first).imp_right fun ⟨same, large⟩ => ⟨same, .inl large⟩
            | ok leftNumber =>
                simp only [first] at fails
                cases second : right.number with
                | error other =>
                    simp only [second] at fails
                    cases fails
                    exact (number_eq_error second).imp_right fun ⟨same, large⟩ =>
                      ⟨same, .inr large⟩
                | ok rightNumber =>
                    simp only [second] at fails
                    cases fails

end Value

namespace Builtin

variable {characterNamed? : String → Option Char}

/-- A text is refused as a pattern for a cause if it is malformed, and otherwise in a way that is no
error of a script. -/
theorem patternOf_eq_error {text : String} {failure : Failure}
    (refused : patternOf characterNamed? text = .error failure) :
    (∃ cause, failure = .ofCause cause) ∨ ∃ error,
      Pattern.ofText characterNamed? text.toList = .error error ∧
        ∀ fault position, error ≠ .malformed fault position := by
  unfold patternOf at refused
  split at refused
  · cases refused
  · cases refused
    exact .inl ⟨_, rfl⟩
  all_goals
    rename_i read
    exact .inr ⟨_, read, nofun⟩

/-- A built-in function fails for a cause, or because of a pattern. -/
theorem compute_eq_error {builtin : Builtin} {arguments : List Value} {failure : Failure}
    (refused : builtin.compute characterNamed? arguments = .error failure) :
    (∃ cause, failure = .ofCause cause) ∨
      ∃ value text, builtin = .search ∧ arguments = [value, text] ∧
        patternOf characterNamed? text.render = .error failure := by
  unfold compute at refused
  split at refused
  · obtain ⟨cause, _, rfl⟩ := error_of_mapError refused
    exact .inl ⟨cause, rfl⟩
  · obtain ⟨cause, _, rfl⟩ := error_of_mapError refused
    exact .inl ⟨cause, rfl⟩
  · cases refused
  · cases refused
  · cases refused
  · cases refused
  · rename_i value text
    cases read : patternOf characterNamed? text.render with
    | ok pattern =>
        rw [read] at refused
        cases refused
    | error other =>
        rw [read] at refused
        cases refused
        exact .inr ⟨value, text, rfl, rfl, read⟩
  · cases refused
    exact .inl ⟨_, rfl⟩
  · cases refused
    exact .inl ⟨_, rfl⟩

end Builtin

end FilterScript
