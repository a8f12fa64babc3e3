import FilterScript.Proofs.Occurrence
import FilterScript.Proofs.Uses
import FilterScript.Proofs.WellFormed

/-! # Evaluations that keep to well-formed values

What it is for the parts of a run to be well formed, and what a host is asked for: functions that
answer well-formed arguments with well-formed values, and nothing else that is written to a
variable. Under such a host every evaluation of a script is orderly. The induction follows the
evaluation once and keeps four facts together (`Eval.Orderly`): what is left, what is returned, what
has been done with values, and what the journal has seen. Where an evaluation fails it leaves
well-formed variables too, because what it leaves can be seen.
-/

namespace FilterScript

variable {H : Extension} {α β : Type}

/-! ## What is well formed in a run -/

/-- All variables are well formed. -/
def State.WellFormed (state : State H) : Prop := Value.EntriesWellFormed state.vars

/-- All values of scripts that the fields of a subject contain are well formed. -/
def Subject.WellFormed (subject : Subject) : Prop :=
  ∀ name native, subject.field? name = some native → native.WellFormed

/-- All values of scripts that a literal contains are well formed. -/
def Operand.WellFormed : Operand H → Prop
  | .literal native => native.WellFormed
  | .field _ | .var _ | .call _ _ | .bare _ | .host _ => True

/-- The values that are used are well formed. -/
def Use.WellFormed : Use H → Prop
  | .resolved _ value => value.WellFormed
  | .compared left _ right => left.WellFormed ∧ right.WellFormed

/-- The variables that a moment sees are well formed, and so are the arguments if it is a call. -/
structure Moment.WellFormed (moment : Moment H) : Prop where
  seen : moment.seen.WellFormed
  arguments : ∀ function arguments, moment.event = .call function arguments →
    Value.AllWellFormed arguments

/-- Starting with well-formed variables the evaluation leaves such variables, whether it succeeds or
fails, and what it returns is valid. -/
structure Eval.Preserves (action : Eval H α) (valid : α → Prop) : Prop where
  ok : ∀ {state value final}, state.WellFormed → action state = .ok value final →
    final.WellFormed ∧ valid value
  error : ∀ {state failure final}, state.WellFormed → action state = .error failure final →
    final.WellFormed

/-- A host that answers what is well formed with well-formed values and writes only such values to
variables. -/
structure Host.WellBehaved (host : Host H) : Prop where
  call : ∀ function arguments, Value.AllWellFormed arguments →
    (host.call function arguments).Preserves Value.WellFormed
  resolve : ∀ operand subject, subject.WellFormed →
    (host.resolve operand subject).Preserves Value.WellFormed
  execute : ∀ statement subject, subject.WellFormed →
    (host.execute statement subject).Preserves fun _ => True
  hook : ∀ hook, host.hook = some hook → hook.Preserves fun _ => True

namespace State.WellFormed

variable {state : State H}

/-- In a well-formed state every variable has a well-formed value, also one that is missing. -/
theorem variableValue (valid : state.WellFormed) (name : String) :
    (state.variableValue name).WellFormed := by
  unfold State.variableValue
  cases present : state.vars.get? name with
  | none =>
      simp only [Option.getD_none, Value.WellFormed]
  | some value => exact Value.wellFormed_of_get? valid present

theorem setVariable (valid : state.WellFormed) (name : String) {value : Value}
    (right : value.WellFormed) : (state.setVariable name value).WellFormed :=
  Value.entriesWellFormed_set valid right

end State.WellFormed

namespace Eval.Preserves

variable {valid : α → Prop} {valid' : β → Prop} {action : Eval H α}

/-- A valid value at once is preserving. -/
theorem pure {value : α} (right : valid value) : (Pure.pure value : Eval H α).Preserves valid where
  ok := by
    intro state other final start succeeds
    cases succeeds
    exact ⟨start, right⟩
  error _ := nofun

/-- What fails at once is preserving. -/
theorem throw (failure : Failure) : (MonadExcept.throw failure : Eval H α).Preserves valid where
  ok _ := nofun
  error := by
    intro state other final start fails
    cases fails
    exact start

/-- A result at hand is preserving if it is valid. -/
theorem ofExcept {result : Except Failure α} (right : ∀ value, result = .ok value → valid value) :
    (Eval.ofExcept result : Eval H α).Preserves valid := by
  cases result with
  | ok value => exact pure (right value rfl)
  | error failure => exact throw failure

/-- A change that leaves states well formed is preserving. -/
theorem modify {change : State H → State H}
    (changed : ∀ {state}, state.WellFormed → (change state).WellFormed) :
    (MonadState.modifyGet (fun state => (⟨⟩, change state)) : Eval H PUnit).Preserves
      fun _ => True where
  ok := by
    intro state value final start succeeds
    cases succeeds
    exact ⟨changed start, trivial⟩
  error _ := nofun

/-- A sequence is preserving if its parts are. -/
theorem bind {next : α → Eval H β} (front : action.Preserves valid)
    (back : ∀ value, valid value → (next value).Preserves valid') :
    (action >>= next).Preserves valid' where
  ok := by
    intro state result final start succeeds
    obtain ⟨value, between, first, second⟩ := Eval.bind_eq_ok_iff.mp succeeds
    obtain ⟨left, right⟩ := front.ok start first
    exact (back value right).ok left second
  error := by
    intro state failure final start fails
    rcases Eval.bind_eq_error_iff.mp fails with first | ⟨value, between, first, second⟩
    · exact front.error start first
    · obtain ⟨left, right⟩ := front.ok start first
      exact (back value right).error left second

/-- Printing writes no variable, whether the line can be shown or not. -/
theorem print (line : String) : (Eval.print line : Eval H Unit).Preserves fun _ => True where
  ok := by
    intro state value final start succeeds
    have left := Eval.final_of_ok succeeds
    rw [Eval.final_print] at left
    exact left ▸ ⟨start, trivial⟩
  error := by
    intro state failure final start fails
    have left := Eval.final_of_error fails
    rw [Eval.final_print] at left
    exact left ▸ start

end Eval.Preserves

/-! ## Orderly evaluations -/

/-- In the state the evaluation leaves well-formed variables and returns what is valid, and what is
recorded of it is well formed. -/
structure Eval.Orderly (action : Eval H α) (valid : α → Prop) (uses : List (Use H))
    (journal : List (Moment H)) (state : State H) : Prop where
  ok : ∀ value final, action state = .ok value final → final.WellFormed ∧ valid value
  error : ∀ failure final, action state = .error failure final → final.WellFormed
  uses : ∀ use ∈ uses, use.WellFormed
  moments : ∀ moment ∈ journal, moment.WellFormed

namespace Eval.Orderly

variable {valid : α → Prop} {valid' : β → Prop} {action : Eval H α} {state : State H}
  {uses uses' : List (Use H)} {journal journal' : List (Moment H)}

/-- What is preserving is orderly, though nothing be recorded of it. -/
theorem of_preserves (preserves : action.Preserves valid) (start : state.WellFormed) :
    action.Orderly valid [] [] state where
  ok _ _ succeeds := preserves.ok start succeeds
  error _ _ fails := preserves.error start fails
  uses := nofun
  moments := nofun

theorem pure {value : α} (start : state.WellFormed) (right : valid value) :
    (Pure.pure value : Eval H α).Orderly valid [] [] state :=
  of_preserves (.pure right) start

theorem throw (start : state.WellFormed) (failure : Failure) :
    (MonadExcept.throw failure : Eval H α).Orderly valid [] [] state :=
  of_preserves (.throw failure) start

/-- A sequence that begins by looking at the state is orderly if what it goes on with is. -/
theorem of_state {next : State H → Eval H α}
    (goOn : (next state).Orderly valid uses journal state) :
    (get >>= next).Orderly valid uses journal state := by
  constructor
  · rw [Eval.bind_of_ok (Eval.get_apply state)]
    exact goOn.ok
  · rw [Eval.bind_of_ok (Eval.get_apply state)]
    exact goOn.error
  · exact goOn.uses
  · exact goOn.moments

/-- What is orderly is so with fewer uses and moments. -/
theorem mono (orderly : action.Orderly valid uses journal state) (fewer : uses' ⊆ uses)
    (shorter : journal' ⊆ journal) : action.Orderly valid uses' journal' state where
  ok := orderly.ok
  error := orderly.error
  uses use member := orderly.uses use (fewer member)
  moments moment member := orderly.moments moment (shorter member)

/-- A moment that sees the state may be added to the journal. -/
theorem moment (orderly : action.Orderly valid uses journal state) {moment : Moment H}
    (sees : moment.WellFormed) : action.Orderly valid uses (moment :: journal) state where
  ok := orderly.ok
  error := orderly.error
  uses := orderly.uses
  moments := List.forall_mem_cons.mpr ⟨sees, orderly.moments⟩

/-- A use of what is returned may be added to the uses. -/
theorem recording (orderly : action.Orderly valid uses journal state)
    {more : α → State H → List (Use H)}
    (fits : ∀ value between, valid value → ∀ use ∈ more value between, use.WellFormed) :
    action.Orderly valid (uses ++ action.usesOnward more state) journal state where
  ok := orderly.ok
  error := orderly.error
  uses := by
    refine List.forall_mem_append.mpr ⟨orderly.uses, ?_⟩
    cases result : action state with
    | ok value between =>
        rw [Eval.usesOnward_of_ok result]
        exact fits value between (orderly.ok value between result).2
    | error failure between =>
        rw [Eval.usesOnward_of_error result]
        exact nofun
  moments := orderly.moments

/-- A sequence is orderly if its parts are, each with what is recorded of it. -/
theorem bind {next : α → Eval H β} {moreUses : α → State H → List (Use H)}
    {more : α → State H → List (Moment H)} (front : action.Orderly valid uses journal state)
    (back : ∀ value between, between.WellFormed → valid value →
      (next value).Orderly valid' (moreUses value between) (more value between) between) :
    (action >>= next).Orderly valid' (uses ++ action.usesOnward moreUses state)
      (journal ++ action.onward more state) state := by
  cases result : action state with
  | ok value between =>
      obtain ⟨left, right⟩ := front.ok value between result
      have later := back value between left right
      rw [Eval.usesOnward_of_ok result, Eval.onward_of_ok result]
      constructor
      · rw [Eval.bind_of_ok result]
        exact later.ok
      · rw [Eval.bind_of_ok result]
        exact later.error
      · exact List.forall_mem_append.mpr ⟨front.uses, later.uses⟩
      · exact List.forall_mem_append.mpr ⟨front.moments, later.moments⟩
  | error failure between =>
      rw [Eval.usesOnward_of_error result, Eval.onward_of_error result, List.append_nil,
        List.append_nil]
      constructor
      · rw [Eval.bind_of_error result]
        exact nofun
      · intro other final fails
        rw [Eval.bind_of_error result] at fails
        cases fails
        exact front.error failure between result
      · exact front.uses
      · exact front.moments

/-- A sequence whose second part records nothing. -/
theorem bind_quiet {next : α → Eval H β} (front : action.Orderly valid uses journal state)
    (back : ∀ value between, between.WellFormed → valid value →
      (next value).Orderly valid' [] [] between) :
    (action >>= next).Orderly valid' uses journal state := by
  have whole : (action >>= next).Orderly valid'
      (uses ++ action.usesOnward (fun _ _ => []) state)
      (journal ++ action.onward (fun _ _ => []) state) state := front.bind back
  exact whole.mono (List.subset_append_left _ _) (List.subset_append_left _ _)

/-- A description does not make a statement less orderly. -/
theorem describing (inside : action.Orderly valid uses journal state)
    (description : Except Cause String) :
    (Eval.describing description action).Orderly valid uses journal state where
  ok value final succeeds := inside.ok value final (Eval.ok_of_describing succeeds)
  error := by
    intro failure final fails
    cases result : action state with
    | ok value next =>
        rw [Eval.describing_of_ok result] at fails
        cases fails
    | error raised next =>
        rw [Eval.describing_of_error result] at fails
        cases fails
        exact inside.error raised _ result
  uses := inside.uses
  moments := inside.moments

/-- A block is orderly if its inside is when it is entered. -/
theorem nested {usesInside : State H → List (Use H)} {inside : State H → List (Moment H)}
    (start : state.WellFormed)
    (entered : action.Orderly valid (usesInside state.enter) (inside state.enter) state.enter) :
    action.nested.Orderly valid (if state.AtLimit then [] else usesInside state.enter)
      (if state.AtLimit then [] else inside state.enter) state := by
  constructor
  · intro value final succeeds
    obtain ⟨_, inner, result, rfl⟩ := Eval.nested_eq_ok succeeds
    exact entered.ok value inner result
  · intro failure final fails
    rcases Eval.nested_eq_error fails with ⟨_, _, rfl⟩ | ⟨_, inner, result, rfl⟩
    · exact start
    · exact entered.error failure inner result
  · split
    · exact nofun
    · exact entered.uses
  · split
    · exact nofun
    · exact entered.moments

end Eval.Orderly

/-! ## Scripts are orderly -/

section

variable {host : Host H} {subject : Subject}

/-- A moment without a call is well formed if its state is. -/
theorem Moment.WellFormed.of_seen {event : Event H} {frames : Nat} {state : State H}
    (seen : state.WellFormed) (uncalled : ∀ function arguments, event ≠ .call function arguments) :
    (⟨event, frames, state⟩ : Moment H).WellFormed where
  seen := seen
  arguments function arguments called := (uncalled function arguments called).elim

/-- A built-in function gives back a well-formed value and leaves the state well formed, whatever it
is given. -/
theorem Builtin.call_preserves (builtin : Builtin) (arguments : List Value) :
    (builtin.call arguments : Eval H Value).Preserves Value.WellFormed := by
  have computed : (Eval.ofExcept (builtin.compute H.characterNamed? arguments) :
      Eval H Value).Preserves Value.WellFormed := .ofExcept fun _ => compute_wellFormed
  unfold call
  by_cases printing : builtin = .print
  · simp only [printing, ↓reduceIte] at computed ⊢
    exact .bind (.print _) fun _ _ => computed
  · simp only [printing, ↓reduceIte]
    exact computed

/-- A call leaves well-formed variables and returns a well-formed value, whether the function is
built in or the host's. -/
theorem Callable.call_orderly (behaved : host.WellBehaved) (function : Callable H)
    {arguments : List Value} (right : Value.AllWellFormed arguments) {state : State H}
    (start : state.WellFormed) (frames : Nat) :
    (function.call host arguments).Orderly Value.WellFormed []
      [⟨.call function arguments, frames, state⟩] state := by
  have sees : (⟨.call function arguments, frames, state⟩ : Moment H).WellFormed :=
    ⟨start, fun _ _ called => by cases called; exact right⟩
  cases function with
  | builtin builtin =>
      exact .moment (.of_preserves (builtin.call_preserves arguments) start) sees
  | host function =>
      exact .moment (.of_preserves (behaved.call function arguments right) start) sees

/-- That an operand was resolved is one more use of a well-formed value. -/
theorem Operand.resolution_orderly (uses : List (Use H)) {operand : Operand H}
    {journal : List (Moment H)} {state : State H}
    (orderly : (operand.resolve host subject).Orderly Value.WellFormed uses journal state) :
    (operand.resolve host subject).Orderly Value.WellFormed
      (uses ++ operand.resolution host subject state) journal state := by
  refine orderly.recording ?_
  intro value _ right use member
  rw [List.mem_singleton.mp member]
  exact right

/-- A host value that is resolved becomes a well-formed value. -/
theorem Native.resolve_preserves {native : Native} (right : native.WellFormed) :
    (Eval.ofExcept ((Value.ofNative native).mapError Failure.ofCause) : Eval H Value).Preserves
      Value.WellFormed :=
  .ofExcept fun _ read => Value.ofNative_wellFormed native right (ok_of_mapError read)

mutual

/-- An operand is resolved in an orderly way. -/
theorem Operand.resolve_orderly (behaved : host.WellBehaved) (fields : subject.WellFormed)
    (frames : Nat) : (operand : Operand H) → (∀ part ∈ operand.parts, part.WellFormed) →
      {state : State H} → state.WellFormed →
        (operand.resolve host subject).Orderly Value.WellFormed
          (operand.uses host subject state) (operand.journal host subject frames state) state
  | .literal native, known, state, start => by
      have right : native.WellFormed := known _ (Operand.mem_parts (.literal native))
      simp only [Operand.uses, Operand.journal]
      refine Operand.resolution_orderly [] ?_
      simp only [Operand.resolve]
      exact .of_preserves (Native.resolve_preserves right) start
  | .field name, _, state, start => by
      have right : ((subject.field? name).getD .none).WellFormed := by
        cases present : subject.field? name with
        | none => simp only [Option.getD_none, Native.WellFormed]
        | some native => exact fields name native present
      simp only [Operand.uses, Operand.journal]
      refine Operand.resolution_orderly [] ?_
      simp only [Operand.resolve]
      exact .of_preserves (Native.resolve_preserves right) start
  | .var name, _, state, start => by
      have sees : (⟨.read name, frames, state⟩ : Moment H).WellFormed := .of_seen start nofun
      simp only [Operand.uses, Operand.journal]
      refine Operand.resolution_orderly [] ?_
      simp only [Operand.resolve]
      refine Eval.Orderly.moment (.of_state ?_) sees
      exact .pure start (start.variableValue name)
  | .call name arguments, known, state, start => by
      have inside : ∀ part ∈ partsOfOperands arguments, part.WellFormed := by
        intro part member
        refine known part ?_
        simp only [Operand.parts]
        exact List.mem_cons_of_mem _ member
      have sees : (⟨.lookup name, frames, state⟩ : Moment H).WellFormed := .of_seen start nofun
      simp only [Operand.uses, Operand.journal]
      refine Operand.resolution_orderly _ ?_
      simp only [Operand.resolve]
      refine .moment (.of_state ?_) sees
      cases state.functions.get? name with
      | none => exact .throw start _
      | some function =>
          have resolved := resolveAll_orderly behaved fields frames arguments inside start
          have called := resolved.bind fun values between same right =>
            function.call_orderly behaved right same frames
          exact called.mono (List.subset_append_left _ _) (List.Subset.refl _)
  | .bare line, _, state, start => by
      simp only [Operand.uses, Operand.journal]
      refine Operand.resolution_orderly [] ?_
      simp only [Operand.resolve]
      exact .throw start _
  | .host operand, _, state, start => by
      have sees : (⟨.operand operand, frames, state⟩ : Moment H).WellFormed := .of_seen start nofun
      simp only [Operand.uses, Operand.journal]
      refine Operand.resolution_orderly [] ?_
      simp only [Operand.resolve]
      exact .moment (.of_preserves (behaved.resolve operand subject fields) start) sees

/-- Operands are resolved in an orderly way. -/
theorem resolveAll_orderly (behaved : host.WellBehaved) (fields : subject.WellFormed)
    (frames : Nat) : (operands : List (Operand H)) →
      (∀ part ∈ partsOfOperands operands, part.WellFormed) →
        {state : State H} → state.WellFormed →
          (resolveAll host subject operands).Orderly Value.AllWellFormed
            (usesOfOperands host subject operands state)
            (journalOfOperands host subject frames operands state) state
  | [], _, state, start => by
      simp only [resolveAll, usesOfOperands, journalOfOperands]
      exact .pure start trivial
  | operand :: rest, known, state, start => by
      simp only [partsOfOperands, List.forall_mem_append] at known
      simp only [resolveAll, usesOfOperands, journalOfOperands]
      refine .bind (operand.resolve_orderly behaved fields frames known.1 start) ?_
      intro value between same right
      refine .bind_quiet (resolveAll_orderly behaved fields frames rest known.2 same) ?_
      intro values between' same' rights
      exact .pure same' ⟨right, rights⟩

end

namespace Test

/-- A value is asked for its truth in an orderly way. -/
theorem truth_orderly (frames : Nat) (value : Value) {state : State H} (start : state.WellFormed) :
    (truth value : Eval H Bool).Orderly (fun _ => True) [] (journalOfTruth frames value state)
      state := by
  unfold truth journalOfTruth
  cases value.truthWarning? with
  | some warning =>
      have sees : (⟨.warning warning, frames, state⟩ : Moment H).WellFormed :=
        .of_seen start nofun
      have warned : (MonadState.modifyGet (fun state => (⟨⟩, state.warn warning)) :
          Eval H PUnit).Preserves fun _ => True := .modify fun start => start
      refine .bind_quiet (.moment (.of_preserves warned start) sees) ?_
      exact fun _ between same _ => .pure same trivial
  | none => exact .pure start trivial

/-- A test is evaluated in an orderly way. -/
theorem eval_orderly (behaved : host.WellBehaved) (fields : subject.WellFormed) (frames : Nat)
    (test : Test H) (known : ∀ part ∈ test.operands, part.WellFormed) {state : State H}
    (start : state.WellFormed) :
    (test.eval host subject).Orderly (fun _ => True) (test.uses host subject state)
      (test.journal host subject frames state) state := by
  unfold operands at known
  rw [List.forall_mem_append] at known
  have left := test.left.resolve_orderly behaved fields frames known.1 start
  unfold eval uses journal
  by_cases single : test.op = ""
  · simp only [single, ↓reduceIte]
    have asked := left.bind fun value between same _ => truth_orderly frames value same
    exact asked.mono (List.subset_append_left _ _) (List.Subset.refl _)
  · simp only [single, ↓reduceIte]
    cases present : test.right with
    | none => exact .throw start _
    | some right =>
        rw [present] at known
        refine .bind left ?_
        intro leftValue between same leftRight
        have second := right.resolve_orderly behaved fields frames known.2 same
        refine .bind_quiet (second.recording ?_) ?_
        · intro rightValue _ rightRight use member
          rw [List.mem_singleton.mp member]
          exact ⟨leftRight, rightRight⟩
        · intro rightValue between' same' _
          exact .of_preserves (.ofExcept fun _ _ => trivial) same'

/-- Tests that are all to be true are evaluated in an orderly way. -/
theorem evalAll_orderly (behaved : host.WellBehaved) (fields : subject.WellFormed) (frames : Nat)
    (tests : List (Test H)) (known : ∀ part ∈ tests.flatMap operands, part.WellFormed)
    {state : State H} (start : state.WellFormed) :
    (evalAll host subject tests).Orderly (fun _ => True) (usesOfAll host subject tests state)
      (journalOfAll host subject frames tests state) state := by
  induction tests generalizing state with
  | nil => exact .pure start trivial
  | cons test rest ih =>
      rw [List.flatMap_cons, List.forall_mem_append] at known
      unfold evalAll usesOfAll journalOfAll
      refine .bind (test.eval_orderly behaved fields frames known.1 start) ?_
      intro found between same _
      cases found with
      | true => exact ih known.2 same
      | false => exact .pure same trivial

/-- Tests of which some is to be true are evaluated in an orderly way. -/
theorem evalAny_orderly (behaved : host.WellBehaved) (fields : subject.WellFormed) (frames : Nat)
    (tests : List (Test H)) (known : ∀ part ∈ tests.flatMap operands, part.WellFormed)
    {state : State H} (start : state.WellFormed) :
    (evalAny host subject tests).Orderly (fun _ => True) (usesOfAny host subject tests state)
      (journalOfAny host subject frames tests state) state := by
  induction tests generalizing state with
  | nil => exact .pure start trivial
  | cons test rest ih =>
      rw [List.flatMap_cons, List.forall_mem_append] at known
      unfold evalAny usesOfAny journalOfAny
      refine .bind (test.eval_orderly behaved fields frames known.1 start) ?_
      intro found between same _
      refine .bind_quiet (ih known.2 same) ?_
      exact fun others between' same' _ => .pure same' trivial

/-- Under every combinator tests are evaluated in an orderly way. -/
theorem combine_orderly (behaved : host.WellBehaved) (fields : subject.WellFormed) (frames : Nat)
    (combinator : String) (tests : List (Test H))
    (known : ∀ part ∈ tests.flatMap operands, part.WellFormed) {state : State H}
    (start : state.WellFormed) :
    (combine host subject combinator tests).Orderly (fun _ => True)
      (usesOfCombined host subject combinator tests state)
      (journalOfCombined host subject frames combinator tests state) state := by
  unfold combine usesOfCombined journalOfCombined
  split
  · exact evalAll_orderly behaved fields frames tests known start
  · split
    · exact evalAny_orderly behaved fields frames tests known start
    · exact .throw start _

end Test

/-- The hook is called in an orderly way. -/
theorem Host.beforeStatement_orderly (behaved : host.WellBehaved) (frames : Nat) {state : State H}
    (start : state.WellFormed) :
    host.beforeStatement.Orderly (fun _ => True) [] (host.journal frames state) state := by
  unfold Host.journal
  cases hooked : host.hook with
  | none =>
      simp only [Host.beforeStatement, hooked]
      exact .pure start trivial
  | some hook =>
      have sees : (⟨.hook, frames, state⟩ : Moment H).WellFormed := .of_seen start nofun
      simp only [Host.beforeStatement, hooked]
      exact .moment (.of_preserves (behaved.hook hook hooked) start) sees

mutual

/-- A statement is executed in an orderly way. -/
theorem Statement.execute_orderly (behaved : host.WellBehaved) (fields : subject.WellFormed)
    (frames : Nat) : (statement : Statement H) →
      (∀ part ∈ statement.operands, part.WellFormed) → {state : State H} → state.WellFormed →
        (statement.execute host subject).Orderly (fun _ => True)
          (statement.uses host subject state) (statement.journal host subject frames state) state
  | .cond tests combinator whenTrue whenFalse, known, state, start => by
      simp only [Statement.operands, List.forall_mem_append] at known
      simp only [Statement.execute, Statement.uses, Statement.journal]
      refine .bind
        (Test.combine_orderly behaved fields frames combinator tests known.1 start) ?_
      intro found between same _
      have entered : between.enter.WellFormed := same
      cases found with
      | true =>
          exact .nested same
            (executeAll_orderly behaved fields (frames + 1) whenTrue known.2.1 entered)
      | false =>
          exact .nested same
            (executeAll_orderly behaved fields (frames + 1) whenFalse known.2.2 entered)
  | .verdict _, _, state, start => by
      simp only [Statement.execute, Statement.uses, Statement.journal]
      exact .pure start trivial
  | .call name arguments, known, state, start => by
      simp only [Statement.operands] at known
      simp only [Statement.execute, Statement.uses, Statement.journal]
      refine .bind_quiet ((Operand.call name arguments).resolve_orderly behaved fields frames known
        start) ?_
      exact fun _ between same _ => .pure same trivial
  | .inert _, _, state, start => by
      simp only [Statement.execute, Statement.uses, Statement.journal]
      exact .throw start _
  | .host statement, _, state, start => by
      simp only [Statement.execute, Statement.uses, Statement.journal]
      exact .of_preserves (behaved.execute statement subject fields) start

/-- A block is executed in an orderly way. -/
theorem executeAll_orderly (behaved : host.WellBehaved) (fields : subject.WellFormed)
    (frames : Nat) : (block : List (Statement H)) →
      (∀ part ∈ operandsOfBlock block, part.WellFormed) → {state : State H} → state.WellFormed →
        (executeAll host subject block).Orderly (fun _ => True)
          (usesOfBlock host subject block state) (journalOfBlock host subject frames block state)
          state
  | [], _, state, start => by
      simp only [executeAll, usesOfBlock, journalOfBlock]
      exact .pure start trivial
  | statement :: rest, known, state, start => by
      simp only [operandsOfBlock, List.forall_mem_append] at known
      simp only [executeAll, usesOfBlock, journalOfBlock]
      refine .bind (host.beforeStatement_orderly behaved frames start) ?_
      intro _ ready same _
      have sees : (⟨.statement statement, frames, ready⟩ : Moment H).WellFormed :=
        .of_seen same nofun
      have executed := statement.execute_orderly behaved fields frames known.1 same
      refine .bind ((executed.moment sees).describing _) ?_
      intro outcome next left _
      -- The rest of the block is only begun if the statement lets it.
      cases outcome with
      | proceed => exact executeAll_orderly behaved fields frames rest known.2 left
      | terminate verdict =>
          simp only [Outcome.terminated, ↓reduceIte]
          exact .pure left trivial

end

end

end FilterScript
