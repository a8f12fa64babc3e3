import FilterScript.Proofs.Journal

/-! # Invariants at every moment of a run

A property of states that may depend on the number of open blocks holds at every moment of a run if
it holds at the start, survives the language and the host, and passes to the block that is entered
(`MomentInvariant.run`). Unlike a relation that a run keeps, it speaks about the states in
between, so it also covers what a run that fails has done before.
-/

namespace FilterScript

variable {H : Extension} {α β : Type}

/-- Whatever number of blocks is open, the property passes from one state to the other. -/
def Passes (holds : Nat → State H → Prop) (state other : State H) : Prop :=
  ∀ frames, holds frames state → holds frames other

/-- A property of states under a number of open blocks that neither the language nor the host ends,
and that holds in a block when it is entered. -/
structure MomentInvariant (host : Host H) (holds : Nat → State H → Prop) : Prop where
  steady : Steady (Passes holds)
  behaves : host.Keeps (Passes holds)
  enter : ∀ frames state, holds frames state → ¬ state.AtLimit → holds (frames + 1) state.enter

/-- The property holds at every moment of a journal. -/
def Always (holds : Nat → State H → Prop) (journal : List (Moment H)) : Prop :=
  ∀ moment ∈ journal, holds moment.frames moment.seen

namespace Always

variable {holds : Nat → State H → Prop} {journal rest : List (Moment H)}

theorem nil : Always holds [] := by
  intro moment member
  cases member

/-- An event in a valid state may stand in front of others. -/
theorem cons {event : Event H} {frames : Nat} {state : State H} (now : holds frames state)
    (later : Always holds rest) : Always holds (⟨event, frames, state⟩ :: rest) := by
  intro moment member
  rcases List.mem_cons.mp member with rfl | member
  · exact now
  · exact later moment member

/-- Two journals in which the invariant holds make one. -/
theorem append (front : Always holds journal) (back : Always holds rest) :
    Always holds (journal ++ rest) := by
  intro moment member
  rcases List.mem_append.mp member with member | member
  · exact front moment member
  · exact back moment member

/-- The part of a journal that follows on a success starts in a state with the property. -/
theorem onward {action : Eval H α} {next : α → State H → List (Moment H)} {frames : Nat}
    {state : State H} (keeps : action.Keeps (Passes holds)) (valid : holds frames state)
    (later : ∀ value between, holds frames between → Always holds (next value between)) :
    Always holds (action.onward next state) := by
  have passed := keeps state frames valid
  unfold Eval.onward
  cases result : action state with
  | ok value between =>
      rw [Eval.final_of_ok result] at passed
      exact later value between passed
  | error failure between => exact nil

/-- The invariant holds when a value is asked for its truth. -/
theorem truth (value : Value) {frames : Nat} {state : State H} (valid : holds frames state) :
    Always holds (Test.journalOfTruth frames value state) := by
  unfold Test.journalOfTruth
  cases value.truthWarning? with
  | some warning => exact .cons valid .nil
  | none => exact .nil

/-- The invariant holds when the hook is called. -/
theorem hook (host : Host H) {frames : Nat} {state : State H} (valid : holds frames state) :
    Always holds (host.journal frames state) := by
  unfold Host.journal
  cases host.hook with
  | none => exact .nil
  | some hook => exact .cons valid .nil

end Always

namespace MomentInvariant

variable {host : Host H} {subject : Subject} {holds : Nat → State H → Prop}
  (invariant : MomentInvariant host holds)
include invariant

mutual

/-- The invariant holds while an operand is resolved. -/
theorem operand : (operand : Operand H) → {frames : Nat} → {state : State H} →
    holds frames state → Always holds (operand.journal host subject frames state)
  | .literal _, _, _, _ | .field _, _, _, _ | .bare _, _, _, _ => by
      simp only [Operand.journal]
      exact .nil
  | .var _, _, _, valid | .host _, _, _, valid => by
      simp only [Operand.journal]
      exact .cons valid .nil
  | .call name arguments, frames, state, valid => by
      simp only [Operand.journal]
      refine .cons valid ?_
      cases state.functions.get? name with
      | none => exact .nil
      | some function =>
          refine .append (operands arguments valid) ?_
          exact .onward (resolveAll_keeps invariant.steady invariant.behaves arguments) valid
            fun values called ready => .cons ready .nil

/-- The invariant holds while operands are resolved. -/
theorem operands : (operands : List (Operand H)) → {frames : Nat} → {state : State H} →
    holds frames state → Always holds (journalOfOperands host subject frames operands state)
  | [], _, _, _ => by
      simp only [journalOfOperands]
      exact .nil
  | first :: rest, frames, state, valid => by
      simp only [journalOfOperands]
      refine .append (operand first valid) ?_
      exact .onward (first.resolve_keeps invariant.steady invariant.behaves) valid
        fun _ _ ready => operands rest ready

end

/-- The invariant holds while a test is evaluated. -/
theorem test (test : Test H) {frames : Nat} {state : State H} (valid : holds frames state) :
    Always holds (test.journal host subject frames state) := by
  have left : Always holds (test.left.journal host subject frames state) :=
    invariant.operand test.left valid
  have leftKeeps : (test.left.resolve host subject).Keeps (Passes holds) :=
    test.left.resolve_keeps invariant.steady invariant.behaves
  unfold Test.journal
  by_cases single : test.op = ""
  · simp only [single, ↓reduceIte]
    exact left.append (.onward leftKeeps valid fun value _ ready => .truth value ready)
  · simp only [single, ↓reduceIte]
    cases test.right with
    | none => exact .nil
    | some right =>
        exact left.append (.onward leftKeeps valid fun _ _ ready => invariant.operand right ready)

/-- The invariant holds while tests are evaluated that are all to be true. -/
theorem allTests (tests : List (Test H)) {frames : Nat} {state : State H}
    (valid : holds frames state) :
    Always holds (Test.journalOfAll host subject frames tests state) := by
  induction tests generalizing state with
  | nil => exact .nil
  | cons test rest ih =>
      unfold Test.journalOfAll
      refine .append (invariant.test test valid) ?_
      refine .onward (test.eval_keeps invariant.steady invariant.behaves) valid ?_
      intro found between ready
      cases found with
      | true => exact ih ready
      | false => exact .nil

/-- The invariant holds while tests are evaluated of which some is to be true. -/
theorem anyTests (tests : List (Test H)) {frames : Nat} {state : State H}
    (valid : holds frames state) :
    Always holds (Test.journalOfAny host subject frames tests state) := by
  induction tests generalizing state with
  | nil => exact .nil
  | cons test rest ih =>
      unfold Test.journalOfAny
      refine .append (invariant.test test valid) ?_
      exact .onward (test.eval_keeps invariant.steady invariant.behaves) valid
        fun _ _ ready => ih ready

/-- The invariant holds while tests are evaluated under any combinator. -/
theorem combined (combinator : String) (tests : List (Test H)) {frames : Nat} {state : State H}
    (valid : holds frames state) :
    Always holds (Test.journalOfCombined host subject frames combinator tests state) := by
  unfold Test.journalOfCombined
  split
  · exact invariant.allTests tests valid
  · split
    · exact invariant.anyTests tests valid
    · exact .nil

mutual

/-- The invariant holds while a statement is executed. -/
theorem statement : (statement : Statement H) → {frames : Nat} → {state : State H} →
    holds frames state → Always holds (statement.journal host subject frames state)
  | .cond tests combinator whenTrue whenFalse, frames, state, valid => by
      simp only [Statement.journal]
      refine .append (invariant.combined combinator tests valid) ?_
      refine .onward (Test.combine_keeps invariant.steady invariant.behaves combinator tests)
        valid ?_
      intro found between ready
      by_cases limit : between.AtLimit
      · simp only [limit, ↓reduceIte]
        exact .nil
      · simp only [limit, ↓reduceIte]
        have entered := invariant.enter frames between ready limit
        cases found with
        | true => exact block whenTrue entered
        | false => exact block whenFalse entered
  | .call name arguments, _, _, valid => by
      simp only [Statement.journal]
      exact invariant.operand (.call name arguments) valid
  | .verdict _, _, _, _ | .inert _, _, _, _ | .host _, _, _, _ => by
      simp only [Statement.journal]
      exact .nil

/-- The invariant holds while a block is executed. -/
theorem block : (block : List (Statement H)) → {frames : Nat} → {state : State H} →
    holds frames state → Always holds (journalOfBlock host subject frames block state)
  | [], _, _, _ => by
      simp only [journalOfBlock]
      exact .nil
  | first :: rest, frames, state, valid => by
      simp only [journalOfBlock]
      refine .append (.hook host valid) ?_
      refine .onward (host.beforeStatement_keeps invariant.steady invariant.behaves) valid ?_
      intro _ ready begun
      refine .append (.cons begun (statement first begun)) ?_
      refine .onward ((first.execute_keeps invariant.steady invariant.behaves).describing _)
        begun ?_
      intro outcome next done
      -- The rest of the block is only begun if the statement lets it.
      cases outcome with
      | proceed => exact block rest done
      | terminate verdict => exact .nil

end

/-- **Invariants hold at every moment of a run** when they hold as its block is entered. -/
theorem run (script : List (Statement H)) {state : State H}
    (valid : ¬ state.AtLimit → holds 1 state.enter) :
    Always holds (journalOfRun host subject script state) := by
  unfold journalOfRun
  by_cases limit : state.AtLimit
  · simp only [limit, ↓reduceIte]
    exact .nil
  · simp only [limit, ↓reduceIte]
    exact invariant.block script (valid limit)

end MomentInvariant

end FilterScript
