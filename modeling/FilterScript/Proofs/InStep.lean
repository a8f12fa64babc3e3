import FilterScript.Proofs.Evaluation

/-! # Evaluations in step with each other

Two evaluations are in step if from related states they end in the same way in related states. What
the relation leaves open is then invisible to them. A sequence is in step if its parts are.
-/

namespace FilterScript

variable {H : Extension} {α β : Type}

/-- Two evaluations end with the same value or the same failure, in related states. -/
inductive Matched (related : State H → State H → Prop) :
    EStateM.Result Failure (State H) α → EStateM.Result Failure (State H) α → Prop
  | ok (value : α) {final final' : State H} (finals : related final final') :
      Matched related (.ok value final) (.ok value final')
  | error (failure : Failure) {final final' : State H} (finals : related final final') :
      Matched related (.error failure final) (.error failure final')

/-- Results that match under a relation match under every weaker one. -/
theorem Matched.mono {related related' : State H → State H → Prop}
    {result result' : EStateM.Result Failure (State H) α}
    (matched : Matched related result result')
    (weaker : ∀ {state state'}, related state state' → related' state state') :
    Matched related' result result' := by
  cases matched with
  | ok value finals => exact .ok value (weaker finals)
  | error failure finals => exact .error failure (weaker finals)

/-- Results that match under equality are the same. -/
theorem Matched.eq {result result' : EStateM.Result Failure (State H) α}
    (matched : Matched Eq result result') : result = result' := by
  cases matched with
  | ok value finals => rw [finals]
  | error failure finals => rw [finals]

/-- Evaluations that end in the same way leave related states. -/
theorem Matched.final {related : State H → State H → Prop} {action action' : Eval H α}
    {state state' : State H} (matched : Matched related (action state) (action' state')) :
    related (action.final state) (action'.final state') := by
  generalize ended : action state = result at matched
  generalize ended' : action' state' = result' at matched
  cases matched with
  | ok value finals =>
      rw [Eval.final_of_ok ended, Eval.final_of_ok ended']
      exact finals
  | error failure finals =>
      rw [Eval.final_of_error ended, Eval.final_of_error ended']
      exact finals

/-- From related states the two evaluations end in the same way. -/
def InStep (related : State H → State H → Prop) (action action' : Eval H α) : Prop :=
  ∀ state state', related state state' → Matched related (action state) (action' state')

/-- A sequence ends in the same way from two states if its first part does and its second part is in
step. -/
theorem Matched.bind {related : State H → State H → Prop} {action action' : Eval H α}
    {next next' : α → Eval H β} {state state' : State H}
    (first : Matched related (action state) (action' state'))
    (second : ∀ value, InStep related (next value) (next' value)) :
    Matched related ((action >>= next) state) ((action' >>= next') state') := by
  generalize ended : action state = result at first
  generalize ended' : action' state' = result' at first
  cases first with
  | ok value finals =>
      rw [Eval.bind_of_ok ended, Eval.bind_of_ok ended']
      exact second value _ _ finals
  | error failure finals =>
      rw [Eval.bind_of_error ended, Eval.bind_of_error ended']
      exact .error failure finals

namespace InStep

variable {related : State H → State H → Prop}

theorem pure (value : α) : InStep related (Pure.pure value : Eval H α) (Pure.pure value) := by
  intro state state' start
  exact .ok value start

theorem throw (failure : Failure) :
    InStep related (MonadExcept.throw failure : Eval H α) (MonadExcept.throw failure) := by
  intro state state' start
  exact .error failure start

/-- A result that is at hand is in step. -/
theorem ofExcept (result : Except Failure α) :
    InStep related (Eval.ofExcept result : Eval H α) (Eval.ofExcept result) := by
  cases result with
  | ok value => exact pure value
  | error failure => exact throw failure

/-- Changes that lead from related states to related states are in step. -/
theorem modify_of {change change' : State H → State H}
    (changes : ∀ state state', related state state' → related (change state) (change' state')) :
    InStep related (modify change : Eval H PUnit) (modify change') := by
  intro state state' start
  exact .ok PUnit.unit (changes state state' start)

/-- Sequences are in step if their parts are. -/
theorem bind {action action' : Eval H α} {next next' : α → Eval H β}
    (first : InStep related action action')
    (second : ∀ value, InStep related (next value) (next' value)) :
    InStep related (action >>= next) (action' >>= next') :=
  fun state state' start => (first state state' start).bind second

/-- Evaluations that begin by looking at the state are in step if what they go on with is. -/
theorem of_state {next next' : State H → Eval H α}
    (goOn : ∀ state state', related state state' →
      Matched related (next state state) (next' state' state')) :
    InStep related (get >>= next) (get >>= next') := by
  intro state state' start
  rw [Eval.bind_of_ok (Eval.get_apply state), Eval.bind_of_ok (Eval.get_apply state')]
  exact goOn state state' start

end InStep

section

variable {related : State H → State H → Prop}

/-- A built-in function does the same in two related states, if what it prints keeps them related
and can be shown in both or in neither. -/
theorem Builtin.call_matched (function : Builtin) (arguments : List Value) {state state' : State H}
    (start : related state state')
    (print : ∀ line, related (state.print line) (state'.print line))
    (showing : function = .print →
      state.showing (String.join (arguments.map Value.render)) =
        state'.showing (String.join (arguments.map Value.render))) :
    Matched related ((function.call arguments : Eval H Value) state)
      ((function.call arguments : Eval H Value) state') := by
  unfold Builtin.call
  by_cases printing : function = .print
  · simp only [printing, ↓reduceIte]
    refine Matched.bind ?_ fun _ => .ofExcept _
    rw [Eval.print_apply, Eval.print_apply, showing printing]
    exact InStep.ofExcept _ _ _ (print _)
  · simp only [printing, ↓reduceIte]
    exact InStep.ofExcept _ _ _ start

/-- A built-in function does the same in states that printing keeps related and in which the same
lines can be shown. -/
theorem Builtin.call_inStep (function : Builtin)
    (print : ∀ {state state'}, related state state' → ∀ line,
      related (state.print line) (state'.print line))
    (showing : ∀ {state state'}, related state state' → ∀ line,
      state.showing line = state'.showing line) (arguments : List Value) :
    InStep related (function.call arguments : Eval H Value) (function.call arguments) := by
  intro state state' start
  exact function.call_matched arguments start (print start) fun _ => showing start _

/-- A value has the same truth in states that warnings keep related. -/
theorem Test.truth_inStep
    (warn : ∀ {state state'}, related state state' → ∀ message,
      related (state.warn message) (state'.warn message)) (value : Value) :
    InStep related (Test.truth value : Eval H Bool) (Test.truth value) := by
  unfold Test.truth
  cases value.truthWarning? with
  | some warning =>
      refine .bind (.modify_of ?_) fun _ => .pure _
      intro state state' start
      exact warn start warning
  | none => exact .pure _

end

/-- What the host does for a script is in step with itself. -/
structure Host.Respects (host : Host H) (related : State H → State H → Prop) : Prop where
  call : ∀ function arguments,
    InStep related (host.call function arguments) (host.call function arguments)
  resolve : ∀ operand subject,
    InStep related (host.resolve operand subject) (host.resolve operand subject)
  execute : ∀ statement subject,
    InStep related (host.execute statement subject) (host.execute statement subject)

/-- The hook is in step if what the host calls there is. -/
theorem Host.beforeStatement_inStep {host : Host H} {related : State H → State H → Prop}
    (hooks : ∀ hook, host.hook = some hook → InStep related hook hook) :
    InStep related host.beforeStatement host.beforeStatement := by
  unfold Host.beforeStatement
  cases hooked : host.hook with
  | none => exact .pure ()
  | some hook => exact hooks hook hooked

end FilterScript
