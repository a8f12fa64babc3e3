import FilterScript.Script.Interpreter

/-! # Evaluations on a state

What an evaluation does to a given state, said once for each way of putting evaluations together.
An evaluation leaves a state whether it succeeds or fails; a sequence of two fails where the first
or the second fails; a block is entered one level deeper and left again however it ends. Proofs
about scripts use these laws and do not open the definitions of the monad.
-/

namespace FilterScript

variable {H : Extension} {α β : Type}

namespace Eval

/-- The state that an evaluation leaves, whether it succeeds or fails. -/
def final (action : Eval H α) (state : State H) : State H :=
  match action state with
  | .ok _ final => final
  | .error _ final => final

theorem final_of_ok {action : Eval H α} {state next : State H} {value : α}
    (succeeds : action state = .ok value next) : action.final state = next := by
  simp only [final, succeeds]

theorem final_of_error {action : Eval H α} {state next : State H} {failure : Failure}
    (fails : action state = .error failure next) : action.final state = next := by
  simp only [final, fails]

@[simp] theorem pure_apply (value : α) (state : State H) :
    (pure value : Eval H α) state = .ok value state := rfl

@[simp] theorem throw_apply (failure : Failure) (state : State H) :
    (throw failure : Eval H α) state = .error failure state := rfl

@[simp] theorem fail_apply (cause : Cause) (state : State H) :
    (Eval.fail cause : Eval H α) state = .error (.ofCause cause) state := rfl

@[simp] theorem get_apply (state : State H) : (get : Eval H (State H)) state = .ok state state :=
  rfl

@[simp] theorem modify_apply (change : State H → State H) (state : State H) :
    (modify change : Eval H PUnit) state = .ok ⟨⟩ (change state) := rfl

@[simp] theorem ofExcept_ok (value : α) (state : State H) :
    (Eval.ofExcept (.ok value) : Eval H α) state = .ok value state := rfl

@[simp] theorem ofExcept_error (failure : Failure) (state : State H) :
    (Eval.ofExcept (.error failure) : Eval H α) state = .error failure state := rfl

@[simp] theorem final_pure (value : α) (state : State H) :
    (pure value : Eval H α).final state = state := rfl

@[simp] theorem final_throw (failure : Failure) (state : State H) :
    (throw failure : Eval H α).final state = state := rfl

@[simp] theorem final_fail (cause : Cause) (state : State H) :
    (Eval.fail cause : Eval H α).final state = state := rfl

@[simp] theorem final_ofExcept (result : Except Failure α) (state : State H) :
    (Eval.ofExcept result : Eval H α).final state = state := by
  cases result <;> rfl

/-- Printing leaves the printed line, and then succeeds or fails as the line can be shown. -/
@[simp] theorem print_apply (line : String) (state : State H) :
    (Eval.print line : Eval H Unit) state =
      (Eval.ofExcept (state.showing line) : Eval H Unit) (state.print line) := rfl

/-- A printed line is left whether it can be shown or not. -/
@[simp] theorem final_print (line : String) (state : State H) :
    (Eval.print line : Eval H Unit).final state = state.print line :=
  final_ofExcept (state.showing line) (state.print line)

/-- After a success the sequence goes on with the value, in the state that was left. -/
theorem bind_of_ok {action : Eval H α} {next : α → Eval H β} {state between : State H} {value : α}
    (succeeds : action state = .ok value between) :
    (action >>= next) state = next value between := by
  simp only [bind, EStateM.bind, succeeds]

/-- A failure ends the sequence. -/
theorem bind_of_error {action : Eval H α} {next : α → Eval H β} {state between : State H}
    {failure : Failure} (fails : action state = .error failure between) :
    (action >>= next) state = .error failure between := by
  simp only [bind, EStateM.bind, fails]

/-- Sequences whose parts do the same do the same. -/
theorem bind_congr {action action' : Eval H α} {next next' : α → Eval H β} {state : State H}
    (first : action state = action' state)
    (second : ∀ value between, action' state = .ok value between →
      next value between = next' value between) :
    (action >>= next) state = (action' >>= next') state := by
  cases result : action' state with
  | ok value between =>
      rw [result] at first
      rw [bind_of_ok first, bind_of_ok result]
      exact second value between result
  | error failure between =>
      rw [result] at first
      rw [bind_of_error first, bind_of_error result]

/-- A sequence leaves what its second part leaves after its first part has succeeded. -/
theorem final_bind_of_ok {action : Eval H α} {next : α → Eval H β} {state between : State H}
    {value : α} (succeeds : action state = .ok value between) :
    (action >>= next).final state = (next value).final between := by
  simp only [final, bind_of_ok succeeds]

/-- A sequence leaves what its first part leaves when that fails. -/
theorem final_bind_of_error {action : Eval H α} {next : α → Eval H β} {state between : State H}
    {failure : Failure} (fails : action state = .error failure between) :
    (action >>= next).final state = between :=
  final_of_error (bind_of_error fails)

/-- A second part that changes nothing leaves what the first part leaves. -/
theorem final_bind_of_still {action : Eval H α} {next : α → Eval H β}
    (still : ∀ value state, (next value).final state = state) (state : State H) :
    (action >>= next).final state = action.final state := by
  cases result : action state with
  | ok value between => rw [final_bind_of_ok result, still, final_of_ok result]
  | error failure between => rw [final_bind_of_error result, final_of_error result]

/-- A sequence succeeds where both of its parts do. -/
theorem bind_eq_ok_iff {action : Eval H α} {next : α → Eval H β} {state last : State H}
    {result : β} :
    (action >>= next) state = .ok result last ↔
      ∃ value between, action state = .ok value between ∧ next value between = .ok result last := by
  cases first : action state with
  | ok value between =>
      rw [bind_of_ok first]
      constructor
      · intro second
        exact ⟨value, between, rfl, second⟩
      · rintro ⟨_, _, same, second⟩
        cases same
        exact second
  | error failure between =>
      rw [bind_of_error first]
      constructor
      · intro impossible
        cases impossible
      · rintro ⟨_, _, same, _⟩
        cases same

/-- A sequence fails where its first part fails, or where its second part fails after the first
has succeeded. -/
theorem bind_eq_error_iff {action : Eval H α} {next : α → Eval H β} {state last : State H}
    {failure : Failure} :
    (action >>= next) state = .error failure last ↔
      action state = .error failure last ∨
        ∃ value between, action state = .ok value between ∧
          next value between = .error failure last := by
  cases first : action state with
  | ok value between =>
      rw [bind_of_ok first]
      constructor
      · intro second
        exact .inr ⟨value, between, rfl, second⟩
      · rintro (impossible | ⟨_, _, same, second⟩)
        · cases impossible
        · cases same
          exact second
  | error failure between =>
      rw [bind_of_error first]
      constructor
      · intro same
        cases same
        exact .inl rfl
      · rintro (same | ⟨_, _, impossible, _⟩)
        · cases same
          rfl
        · cases impossible

end Eval

/-! ## Printing and built-in functions -/

namespace State

/-- What printing a line adds to what is shown. -/
def addsToShown (state : State H) (line : String) : String :=
  if state.quiet || (H.unencodable? line).isSome then "" else line ++ "\n"

/-- Printing adds the line to the output, and nothing or the line to what is shown. -/
theorem print_eq (state : State H) (line : String) :
    state.print line =
      { state with
        output := state.output ++ [line], shown := state.shown ++ state.addsToShown line } := by
  unfold print addsToShown
  cases state.quiet || (H.unencodable? line).isSome with
  | true => simp only [↓reduceIte, String.append_empty]
  | false => simp only [Bool.false_eq_true, ↓reduceIte, String.append_assoc]

theorem print_shown (state : State H) (line : String) :
    (state.print line).shown = state.shown ++ state.addsToShown line := by
  rw [print_eq]

end State

/-- A line that cannot be shown is one that cannot be encoded, printed when the state is not quiet.
-/
theorem State.showing_eq_error {state : State H} {line : String} {failure : Failure}
    (refused : state.showing line = .error failure) :
    ∃ message, H.unencodable? line = some message ∧ state.quiet = false ∧
      failure = .unencodable message := by
  unfold State.showing at refused
  cases encoded : H.unencodable? line with
  | none =>
      rw [encoded] at refused
      cases refused
  | some message =>
      rw [encoded] at refused
      cases quiet : state.quiet with
      | true => simp only [quiet, ↓reduceIte, reduceCtorEq] at refused
      | false =>
          simp only [quiet, Bool.false_eq_true, ↓reduceIte, Except.error.injEq] at refused
          exact ⟨message, rfl, rfl, refused.symm⟩

/-- Printing a line that cannot be shown fails with the line left in the output. -/
theorem Builtin.print_call_of_unshown {arguments : List Value} {state : State H} {failure : Failure}
    (refused : state.showing (String.join (arguments.map Value.render)) = .error failure) :
    (Builtin.print.call arguments : Eval H Value) state =
      .error failure (state.print (String.join (arguments.map Value.render))) :=
  Eval.bind_of_error (by rw [Eval.print_apply, refused, Eval.ofExcept_error])

/-- A built-in function fails because it computes no value, or because it prints a line that cannot
be shown. -/
theorem Builtin.call_eq_error {function : Builtin} {arguments : List Value} {state last : State H}
    {failure : Failure} (fails : function.call arguments state = .error failure last) :
    (function = .print ∧ state.showing (String.join (arguments.map Value.render)) =
        .error failure) ∨
      function.compute H.characterNamed? arguments = .error failure := by
  have computes {state : State H}
      (fails : (Eval.ofExcept (function.compute H.characterNamed? arguments) : Eval H Value) state =
        .error failure last) : function.compute H.characterNamed? arguments = .error failure := by
    cases result : function.compute H.characterNamed? arguments with
    | ok value =>
        rw [result] at fails
        cases fails
    | error other =>
        rw [result] at fails
        cases fails
        rfl
  unfold Builtin.call at fails
  by_cases printing : function = .print
  · simp only [printing, ↓reduceIte] at fails
    cases shown : state.showing (String.join (arguments.map Value.render)) with
    | ok _ =>
        rw [Eval.bind_of_ok (by rw [Eval.print_apply, shown, Eval.ofExcept_ok])] at fails
        subst printing
        exact .inr (computes fails)
    | error other =>
        rw [Eval.bind_of_error (by rw [Eval.print_apply, shown, Eval.ofExcept_error])] at fails
        cases fails
        exact .inl ⟨printing, rfl⟩
  · simp only [printing, ↓reduceIte] at fails
    exact .inr (computes fails)

/-! ## Entering and leaving a block -/

namespace State

/-- The state one level deeper. -/
def enter (state : State H) : State H := { state with depth := state.depth + 1 }

/-- The state one level higher. -/
def leave (state : State H) : State H := { state with depth := state.depth - 1 }

@[simp] theorem leave_enter (state : State H) : state.enter.leave = state := by
  simp only [enter, leave, Int.add_sub_cancel]

@[simp] theorem enter_leave (state : State H) : state.leave.enter = state := by
  simp only [enter, leave, Int.sub_add_cancel]

/-- A block that is entered now would be nested too deep. -/
def AtLimit (state : State H) : Prop := state.maxDepth < state.depth + 1

instance (state : State H) : Decidable state.AtLimit :=
  inferInstanceAs (Decidable (_ < _))

end State

namespace Eval

variable {block : Eval H α} {state inner : State H}

/-- A block that would be nested too deep is not begun, and the state is as it was. -/
theorem nested_of_atLimit (limit : state.AtLimit) :
    block.nested state = .error (.ofCause (.tooDeep state.maxDepth)) state := by
  have tooDeep : state.maxDepth < state.depth + 1 := limit
  simp only [nested, tooDeep, ↓reduceIte, fail_apply, Int.add_sub_cancel]

/-- A block that is entered and succeeds has the value of its inside, and its level is given back.
-/
theorem nested_of_ok (room : ¬ state.AtLimit) {value : α}
    (succeeds : block state.enter = .ok value inner) :
    block.nested state = .ok value inner.leave := by
  have fits : ¬ state.maxDepth < state.depth + 1 := room
  have entered : block { state with depth := state.depth + 1 } = .ok value inner := succeeds
  simp only [nested, fits, ↓reduceIte, entered, State.leave]

/-- A block that is entered and fails fails as its inside does, and its level is given back. -/
theorem nested_of_error (room : ¬ state.AtLimit) {failure : Failure}
    (fails : block state.enter = .error failure inner) :
    block.nested state = .error failure inner.leave := by
  have fits : ¬ state.maxDepth < state.depth + 1 := room
  have entered : block { state with depth := state.depth + 1 } = .error failure inner := fails
  simp only [nested, fits, ↓reduceIte, entered, State.leave]

/-- Blocks that do the same inside do the same. -/
theorem nested_congr {block' : Eval H α} (same : block state.enter = block' state.enter) :
    block.nested state = block'.nested state := by
  have entered : block { state with depth := state.depth + 1 } =
      block' { state with depth := state.depth + 1 } := same
  simp only [nested, entered]

/-- Blocks that there is room for do the same from two states if they do the same inside. -/
theorem nested_eq_nested {block' : Eval H α} {state' : State H} (room : ¬ state.AtLimit)
    (room' : ¬ state'.AtLimit) (same : block state.enter = block' state'.enter) :
    block.nested state = block'.nested state' := by
  cases result : block' state'.enter with
  | ok value inner =>
      rw [nested_of_ok room' result, nested_of_ok room (same.trans result)]
  | error failure inner =>
      rw [nested_of_error room' result, nested_of_error room (same.trans result)]

/-- A block that succeeds was entered and has succeeded inside. -/
theorem nested_eq_ok {value : α} {last : State H} (succeeds : block.nested state = .ok value last) :
    ¬ state.AtLimit ∧ ∃ inner, block state.enter = .ok value inner ∧ last = inner.leave := by
  by_cases limit : state.AtLimit
  · rw [nested_of_atLimit limit] at succeeds
    cases succeeds
  · refine ⟨limit, ?_⟩
    cases result : block state.enter with
    | ok other inner =>
        rw [nested_of_ok limit result] at succeeds
        cases succeeds
        exact ⟨inner, rfl, rfl⟩
    | error failure inner =>
        rw [nested_of_error limit result] at succeeds
        cases succeeds

/-- A block fails by being entered or inside. -/
theorem nested_eq_error {failure : Failure} {last : State H}
    (fails : block.nested state = .error failure last) :
    state.AtLimit ∧ failure = .ofCause (.tooDeep state.maxDepth) ∧ last = state ∨
      ¬ state.AtLimit ∧ ∃ inner, block state.enter = .error failure inner ∧ last = inner.leave := by
  by_cases limit : state.AtLimit
  · rw [nested_of_atLimit limit] at fails
    cases fails
    exact .inl ⟨limit, rfl, rfl⟩
  · refine .inr ⟨limit, ?_⟩
    cases result : block state.enter with
    | ok value inner =>
        rw [nested_of_ok limit result] at fails
        cases fails
    | error other inner =>
        rw [nested_of_error limit result] at fails
        cases fails
        exact ⟨inner, rfl, rfl⟩

/-- A block that there is no room for leaves the state alone. -/
theorem final_nested_of_atLimit (limit : state.AtLimit) : block.nested.final state = state :=
  final_of_error (nested_of_atLimit limit)

/-- A block that is entered leaves what its inside leaves, and gives its level back. -/
theorem final_nested (room : ¬ state.AtLimit) :
    block.nested.final state = (block.final state.enter).leave := by
  cases result : block state.enter with
  | ok value inner => rw [final_of_ok (nested_of_ok room result), final_of_ok result]
  | error failure inner => rw [final_of_error (nested_of_error room result), final_of_error result]

end Eval

/-! ## Failures that come out of a statement -/

/-- The error after it has left a statement with the given description. A description that is
refused takes the place of the error. -/
def ScriptError.leave (error : ScriptError) : Except Cause String → ScriptError
  | .ok text => error.addContext text
  | .error cause => .ofCause cause

/-- What becomes of a failure that comes out of a statement with the given description, at the given
depth: an error leaves the statement, and a stack that ran out becomes a nesting that is too deep.
-/
def Failure.leaving (description : Except Cause String) (depth : Int) : Failure → Failure
  | .stackExhausted => .ofCause (.tooDeep depth)
  | .script error => .script (error.leave description)
  | failure => failure

namespace Eval

variable {description : Except Cause String} {statement : Eval H α} {state next : State H}

theorem describing_of_ok {value : α} (succeeds : statement state = .ok value next) :
    describing description statement state = .ok value next := by
  simp only [describing, succeeds]

/-- A failure that leaves a statement takes its description with it. -/
theorem describing_of_error {failure : Failure} (fails : statement state = .error failure next) :
    describing description statement state =
      .error (failure.leaving description next.depth) next := by
  simp only [describing, fails]
  cases failure with
  | script error => cases description <;> rfl
  | _ => rfl

theorem describing_congr {statement' : Eval H α} (same : statement state = statement' state) :
    describing description statement state = describing description statement' state := by
  simp only [describing, same]

/-- Only a statement that succeeds is left with a success. -/
theorem ok_of_describing {value : α}
    (succeeds : describing description statement state = .ok value next) :
    statement state = .ok value next := by
  cases result : statement state with
  | ok other last =>
      rw [describing_of_ok result] at succeeds
      exact succeeds
  | error failure last =>
      rw [describing_of_error result] at succeeds
      cases succeeds

/-- A description does not change the state that is left. -/
@[simp] theorem final_describing (description : Except Cause String) (statement : Eval H α)
    (state : State H) :
    (describing description statement).final state = statement.final state := by
  cases result : statement state with
  | ok value next => rw [final_of_ok (describing_of_ok result), final_of_ok result]
  | error failure next => rw [final_of_error (describing_of_error result), final_of_error result]

end Eval

/-- Nothing is done before a statement without a hook. -/
theorem Host.beforeStatement_of_unhooked {host : Host H} (unhooked : host.hook = none)
    (state : State H) : host.beforeStatement state = .ok () state := by
  simp only [Host.beforeStatement, unhooked, Eval.pure_apply]

end FilterScript
