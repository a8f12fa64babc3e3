import FilterScript.Proofs.Journal
import FilterScript.Proofs.Occurrence
import FilterScript.Proofs.WellFormed

/-! # What a script of the language can run into

A script that is written in the language alone and calls built-in functions alone fails with errors
of scripts, whatever it is given, with three exceptions (`run_sound`). Two of them are shown by the
journal: a call of `match` whose pattern is refused in another way than for being malformed, and a
call of `print` with a text that cannot be shown. The third one is a whole number that is too large
for a double. On the way all values that the script computes are of a sort that is not left, if
literals, fields, variables and built-in functions are of that sort.
-/

namespace FilterScript

variable {H : Extension} {α β : Type}

/-- A script finds built-in functions alone in the state, and variables of the given sort. -/
structure Supplies (values : Value → Prop) (state : State H) : Prop where
  functions : ∀ name function, state.functions.get? name = some function →
    ∃ builtin, function = .builtin builtin
  vars : ∀ name, values (state.variableValue name)

/-- The operand has a meaning in the language, and what it takes from the script or the subject is
of the given sort. -/
def Operand.Supplied (values : Value → Prop) (subject : Subject) : Operand H → Prop
  | .literal native => ∀ value, Value.ofNative native = .ok value → values value
  | .field name =>
    ∀ value, Value.ofNative ((subject.field? name).getD .none) = .ok value → values value
  | .var _ | .call _ _ => True
  | .bare _ | .host _ => False

/-- Built-in functions return values of the given sort. -/
def Builtin.Returns (characterNamed? : String → Option Char) (values : Value → Prop) : Prop :=
  ∀ (builtin : Builtin) arguments value, builtin.compute characterNamed? arguments = .ok value →
    values value

/-! ## Failures -/

/-- The failure is an error of the script, or that of a call in the journal whose pattern is refused
or whose text cannot be shown, or it is about a value of the given sort that is too large for a
double. -/
inductive Failure.AccountedFor (values : Value → Prop) (journal : List (Moment H)) : Failure → Prop
  | script (error : ScriptError) : AccountedFor values journal (.script error)
  | pattern {failure : Failure} {moment : Moment H} {value text : Value}
      (happens : moment ∈ journal) (called : moment.event = .call (.builtin .search) [value, text])
      (refused : Builtin.patternOf H.characterNamed? text.render = .error failure) :
      AccountedFor values journal failure
  | shown {failure : Failure} {moment : Moment H} {arguments : List Value}
      (happens : moment ∈ journal) (called : moment.event = .call (.builtin .print) arguments)
      (refused : moment.seen.showing (String.join (arguments.map Value.render)) =
        .error failure) :
      AccountedFor values journal failure
  | number {value : Value} (given : values value) (large : ¬ value.Convertible) :
      AccountedFor values journal .integerTooLarge

namespace Failure.AccountedFor

variable {values : Value → Prop} {failure : Failure} {journal journal' : List (Moment H)}

/-- What a journal accounts for, a longer one does. -/
theorem mono (accounted : failure.AccountedFor values journal) (more : journal ⊆ journal') :
    failure.AccountedFor values journal' := by
  cases accounted with
  | script error => exact .script error
  | pattern happens called refused => exact .pattern (more happens) called refused
  | shown happens called refused => exact .shown (more happens) called refused
  | number given large => exact .number given large

/-- A description does not change what accounts for a failure. -/
theorem addContext (accounted : failure.AccountedFor values journal) (description : String) :
    (failure.addContext description).AccountedFor values journal := by
  cases failure with
  | script error => exact script _
  | _ => exact accounted

/-- Leaving a level does not change what accounts for a failure. -/
theorem leaving (accounted : failure.AccountedFor values journal)
    (description : Except Cause String) (depth : Int) :
    (failure.leaving description depth).AccountedFor values journal := by
  cases failure with
  | script error | stackExhausted => exact script _
  | _ => exact accounted

end Failure.AccountedFor

/-! ## Sound evaluations -/

/-- Where the evaluation succeeds in the state, it leaves a state that supplies values of the given
sort and returns what is valid; where it fails, the failure is accounted for by the journal. -/
structure Eval.SoundIn (action : Eval H α) (values : Value → Prop) (valid : α → Prop)
    (state : State H) (journal : List (Moment H)) : Prop where
  ok : ∀ value final, action state = .ok value final → Supplies values final ∧ valid value
  error : ∀ failure final, action state = .error failure final →
    failure.AccountedFor values journal

namespace Eval.SoundIn

variable {values : Value → Prop} {valid : α → Prop} {valid' : β → Prop} {action : Eval H α}
  {state : State H} {journal journal' : List (Moment H)}

/-- A value of the right sort is a sound result. -/
theorem pure {value : α} (supplies : Supplies values state) (right : valid value) :
    (Pure.pure value : Eval H α).SoundIn values valid state journal where
  ok := by
    intro other final succeeds
    cases succeeds
    exact ⟨supplies, right⟩
  error := nofun

/-- A change of the state is sound if the new state still supplies the values. -/
theorem modify {change : State H → State H} (supplies : Supplies values (change state)) :
    (MonadState.modifyGet (fun state => (⟨⟩, change state)) : Eval H PUnit).SoundIn values
      (fun _ => True) state journal where
  ok := by
    intro value final succeeds
    cases succeeds
    exact ⟨supplies, trivial⟩
  error := nofun

/-- A sequence that begins by looking at the state is sound if what it goes on with is. -/
theorem of_state {next : State H → Eval H α}
    (goOn : (next state).SoundIn values valid state journal) :
    (get >>= next).SoundIn values valid state journal := by
  constructor
  · rw [Eval.bind_of_ok (Eval.get_apply state)]
    exact goOn.ok
  · rw [Eval.bind_of_ok (Eval.get_apply state)]
    exact goOn.error

/-- An error of the script is accounted for by itself. -/
theorem fail (cause : Cause) : (Eval.fail cause : Eval H α).SoundIn values valid state journal where
  ok := nofun
  error := by
    intro failure final fails
    cases fails
    exact .script _

/-- A result that is computed is sound if its value is right and its failure is accounted for. -/
theorem ofExcept {result : Except Failure α} (supplies : Supplies values state)
    (right : ∀ value, result = .ok value → valid value)
    (accounted : ∀ failure, result = .error failure → failure.AccountedFor values journal) :
    (Eval.ofExcept result).SoundIn values valid state journal := by
  cases result with
  | ok value => exact pure supplies (right value rfl)
  | error failure =>
      constructor
      · exact nofun
      · intro other final fails
        cases fails
        exact accounted failure rfl

/-- An evaluation that does what a sound one does from another state is sound. -/
theorem of_eq {action' : Eval H α} {state' : State H} (same : action state = action' state')
    (sound : action'.SoundIn values valid state' journal) :
    action.SoundIn values valid state journal where
  ok := fun value final succeeds => sound.ok value final (same.symm.trans succeeds)
  error := fun failure final fails => sound.error failure final (same.symm.trans fails)

theorem mono (sound : action.SoundIn values valid state journal) (more : journal ⊆ journal') :
    action.SoundIn values valid state journal' where
  ok := sound.ok
  error := fun failure final fails => (sound.error failure final fails).mono more

/-- A sequence is sound if its parts are, each with its share of the journal. -/
theorem bind {next : α → Eval H β} {more : α → State H → List (Moment H)}
    (front : action.SoundIn values valid state journal)
    (back : ∀ value between, Supplies values between → valid value →
      (next value).SoundIn values valid' between (more value between)) :
    (action >>= next).SoundIn values valid' state (journal ++ action.onward more state) := by
  cases result : action state with
  | ok value between =>
      obtain ⟨supplies, right⟩ := front.ok value between result
      have later := back value between supplies right
      rw [Eval.onward_of_ok result]
      constructor
      · rw [Eval.bind_of_ok result]
        exact later.ok
      · rw [Eval.bind_of_ok result]
        exact fun failure final fails =>
          (later.error failure final fails).mono (List.subset_append_right _ _)
  | error failure between =>
      rw [Eval.onward_of_error result, List.append_nil]
      constructor
      · rw [Eval.bind_of_error result]
        exact nofun
      · intro other final fails
        rw [Eval.bind_of_error result] at fails
        cases fails
        exact front.error failure between result

/-- A sequence whose second part needs nothing of the journal beyond that of the first. -/
theorem bind_still {next : α → Eval H β} (front : action.SoundIn values valid state journal)
    (back : ∀ value between, Supplies values between → valid value →
      (next value).SoundIn values valid' between journal) :
    (action >>= next).SoundIn values valid' state journal := by
  have whole : (action >>= next).SoundIn values valid' state
      (journal ++ action.onward (fun _ _ => journal) state) := front.bind back
  refine whole.mono (List.append_subset.mpr ⟨List.Subset.refl _, ?_⟩)
  unfold Eval.onward
  cases action state with
  | ok value between => exact List.Subset.refl _
  | error failure between => exact List.nil_subset _

/-- Describing a failure keeps an evaluation sound. -/
theorem describing (inside : action.SoundIn values valid state journal)
    (description : Except Cause String) :
    (Eval.describing description action).SoundIn values valid state journal where
  ok := fun value final succeeds => inside.ok value final (Eval.ok_of_describing succeeds)
  error := by
    intro failure final fails
    cases result : action state with
    | ok value next =>
        rw [Eval.describing_of_ok result] at fails
        cases fails
    | error raised next =>
        rw [Eval.describing_of_error result] at fails
        cases fails
        exact (inside.error raised _ result).leaving description _

/-- A level further in stays sound, whether it is entered or refused. -/
theorem nested {inside : State H → List (Moment H)}
    (entered : action.SoundIn values valid state.enter (inside state.enter)) :
    action.nested.SoundIn values valid state
      (if state.AtLimit then [] else inside state.enter) := by
  constructor
  · intro value final succeeds
    obtain ⟨_, inner, result, rfl⟩ := Eval.nested_eq_ok succeeds
    obtain ⟨supplies, right⟩ := entered.ok value inner result
    exact ⟨⟨supplies.functions, supplies.vars⟩, right⟩
  · intro failure final fails
    rcases Eval.nested_eq_error fails with ⟨limit, rfl, rfl⟩ | ⟨room, inner, result, rfl⟩
    · exact .script _
    · simp only [room, ↓reduceIte]
      exact entered.error failure inner result

end Eval.SoundIn

/-! ## Scripts are sound -/

section

variable {values : Value → Prop} {host : Host H} {subject : Subject}

/-- A built-in call is sound: its failures are those of its own moment in the journal. -/
theorem Builtin.call_sound (returns : Builtin.Returns H.characterNamed? values) (builtin : Builtin)
    (arguments : List Value) {state : State H} (supplies : Supplies values state) (frames : Nat) :
    (builtin.call arguments : Eval H Value).SoundIn values values state
      [⟨.call (.builtin builtin) arguments, frames, state⟩] := by
  have computed (between : State H) (same : Supplies values between) :
      (Eval.ofExcept (builtin.compute H.characterNamed? arguments) : Eval H Value).SoundIn values
        values between [⟨.call (.builtin builtin) arguments, frames, state⟩] := by
    refine .ofExcept same (returns builtin arguments) ?_
    intro failure refused
    rcases compute_eq_error refused with ⟨cause, rfl⟩ | ⟨value, text, rfl, rfl, read⟩
    · exact .script _
    · exact .pattern List.mem_cons_self rfl read
  unfold call
  by_cases printing : builtin = .print
  · subst printing
    have printed : Supplies values (state.print (String.join (arguments.map Value.render))) :=
      ⟨supplies.functions, supplies.vars⟩
    have shown : (Eval.print (String.join (arguments.map Value.render)) : Eval H Unit).SoundIn
        values (fun _ => True) state [⟨.call (.builtin .print) arguments, frames, state⟩] := by
      refine .of_eq (Eval.print_apply _ state) (.ofExcept printed (fun _ _ => trivial) ?_)
      exact fun failure refused => .shown List.mem_cons_self rfl refused
    exact .bind_still shown fun _ between same _ => computed between same
  · simp only [printing, ↓reduceIte]
    exact computed state supplies

mutual

/-- Resolving an operand of the language is sound. -/
theorem Operand.resolve_sound (returns : Builtin.Returns H.characterNamed? values) (frames : Nat) :
    (operand : Operand H) → (∀ part ∈ operand.parts, part.Supplied values subject) →
      {state : State H} → Supplies values state →
        (operand.resolve host subject).SoundIn values values state
          (operand.journal host subject frames state)
  | .literal native, known, state, supplies => by
      have supplied : (Operand.literal native : Operand H).Supplied values subject :=
        known _ (Operand.mem_parts _)
      simp only [Operand.resolve]
      refine .ofExcept supplies (fun value read => supplied value (ok_of_mapError read)) ?_
      intro failure refused
      obtain ⟨cause, _, rfl⟩ := error_of_mapError refused
      exact .script _
  | .field name, known, state, supplies => by
      have supplied : (Operand.field name : Operand H).Supplied values subject :=
        known _ (Operand.mem_parts _)
      simp only [Operand.resolve]
      refine .ofExcept supplies (fun value read => supplied value (ok_of_mapError read)) ?_
      intro failure refused
      obtain ⟨cause, _, rfl⟩ := error_of_mapError refused
      exact .script _
  | .var name, _, state, supplies => by
      simp only [Operand.resolve]
      exact .of_state (.pure supplies (supplies.vars name))
  | .call name arguments, known, state, supplies => by
      simp only [Operand.resolve, Operand.journal]
      refine .of_state (.mono ?_ (List.subset_cons_self _ _))
      cases present : state.functions.get? name with
      | none => exact .fail _
      | some function =>
          obtain ⟨builtin, rfl⟩ := supplies.functions name function present
          have inside : ∀ part ∈ partsOfOperands arguments, part.Supplied values subject := by
            intro part member
            refine known part ?_
            simp only [Operand.parts]
            exact List.mem_cons_of_mem _ member
          refine .bind (resolveAll_sound returns frames arguments inside supplies) ?_
          intro values' called ready _
          exact builtin.call_sound returns values' ready frames
  | .bare line, known, _, _ => (known _ (Operand.mem_parts _)).elim
  | .host operand, known, _, _ => (known _ (Operand.mem_parts _)).elim

/-- Resolving operands in turn is sound. -/
theorem resolveAll_sound (returns : Builtin.Returns H.characterNamed? values) (frames : Nat) :
    (operands : List (Operand H)) →
      (∀ part ∈ partsOfOperands operands, part.Supplied values subject) →
        {state : State H} → Supplies values state →
          (resolveAll host subject operands).SoundIn values (fun _ => True) state
            (journalOfOperands host subject frames operands state)
  | [], _, state, supplies => by
      simp only [resolveAll]
      exact .pure supplies trivial
  | operand :: rest, known, state, supplies => by
      simp only [partsOfOperands, List.forall_mem_append] at known
      simp only [resolveAll, journalOfOperands]
      refine .bind (operand.resolve_sound returns frames known.1 supplies) ?_
      intro value between ready _
      refine .bind_still (resolveAll_sound returns frames rest known.2 ready) ?_
      intro values' between' ready' _
      exact .pure ready' trivial

end

namespace Test

/-- Taking a value for a truth is sound. -/
theorem truth_sound (value : Value) {state : State H} (supplies : Supplies values state)
    {journal : List (Moment H)} :
    (truth value : Eval H Bool).SoundIn values (fun _ => True) state journal := by
  unfold truth
  cases value.truthWarning? with
  | some warning =>
      have warned : Supplies values (state.warn warning) :=
        ⟨supplies.functions, supplies.vars⟩
      exact .bind_still (.modify warned) fun _ between same _ => .pure same trivial
  | none => exact .pure supplies trivial

/-- Evaluating a test is sound. -/
theorem eval_sound (returns : Builtin.Returns H.characterNamed? values) (frames : Nat)
    (test : Test H) (known : ∀ part ∈ test.operands, part.Supplied values subject) {state : State H}
    (supplies : Supplies values state) :
    (test.eval host subject).SoundIn values (fun _ => True) state
      (test.journal host subject frames state) := by
  unfold operands at known
  rw [List.forall_mem_append] at known
  have left : (test.left.resolve host subject).SoundIn values values state
      (test.left.journal host subject frames state) :=
    test.left.resolve_sound returns frames known.1 supplies
  unfold eval journal
  by_cases single : test.op = ""
  · simp only [single, ↓reduceIte]
    exact .bind left fun value between ready _ => truth_sound value ready
  · simp only [single, ↓reduceIte]
    cases present : test.right with
    | none => exact .fail _
    | some right =>
        rw [present] at known
        refine .bind left ?_
        intro leftValue between ready leftGiven
        refine .bind_still (right.resolve_sound returns frames known.2 ready) ?_
        intro rightValue between' ready' rightGiven
        refine .ofExcept ready' (fun _ _ => trivial) ?_
        intro failure refused
        obtain ⟨_, fails, rfl⟩ := error_of_mapError refused
        refine .addContext ?_ _
        rcases Value.relate_eq_error fails with ⟨cause, rfl⟩ | ⟨rfl, large | large⟩
        · exact .script _
        · exact .number leftGiven large
        · exact .number rightGiven large

/-- Tests that all have to hold are evaluated soundly. -/
theorem evalAll_sound (returns : Builtin.Returns H.characterNamed? values) (frames : Nat)
    (tests : List (Test H)) (known : ∀ part ∈ tests.flatMap operands, part.Supplied values subject)
    {state : State H} (supplies : Supplies values state) :
    (evalAll host subject tests).SoundIn values (fun _ => True) state
      (journalOfAll host subject frames tests state) := by
  induction tests generalizing state with
  | nil => exact .pure supplies trivial
  | cons test rest ih =>
      rw [List.flatMap_cons, List.forall_mem_append] at known
      unfold evalAll journalOfAll
      refine .bind (test.eval_sound returns frames known.1 supplies) ?_
      intro found between ready _
      cases found with
      | true => exact ih known.2 ready
      | false => exact .pure ready trivial

/-- Tests of which one has to hold are evaluated soundly. -/
theorem evalAny_sound (returns : Builtin.Returns H.characterNamed? values) (frames : Nat)
    (tests : List (Test H)) (known : ∀ part ∈ tests.flatMap operands, part.Supplied values subject)
    {state : State H} (supplies : Supplies values state) :
    (evalAny host subject tests).SoundIn values (fun _ => True) state
      (journalOfAny host subject frames tests state) := by
  induction tests generalizing state with
  | nil => exact .pure supplies trivial
  | cons test rest ih =>
      rw [List.flatMap_cons, List.forall_mem_append] at known
      unfold evalAny journalOfAny
      refine .bind (test.eval_sound returns frames known.1 supplies) ?_
      intro found between ready _
      refine .bind_still (ih known.2 ready) ?_
      intro others between' ready' _
      exact .pure ready' trivial

/-- Tests under any combinator are evaluated soundly. -/
theorem combine_sound (returns : Builtin.Returns H.characterNamed? values) (frames : Nat)
    (combinator : String) (tests : List (Test H))
    (known : ∀ part ∈ tests.flatMap operands, part.Supplied values subject)
    {state : State H} (supplies : Supplies values state) :
    (combine host subject combinator tests).SoundIn values (fun _ => True) state
      (journalOfCombined host subject frames combinator tests state) := by
  unfold combine journalOfCombined
  split
  · exact evalAll_sound returns frames tests known supplies
  · split
    · exact evalAny_sound returns frames tests known supplies
    · exact .fail _

end Test

mutual

/-- Executing a statement of the language without a hook is sound. -/
theorem Statement.execute_sound (unhooked : host.hook = none)
    (returns : Builtin.Returns H.characterNamed? values) (frames : Nat) :
    (statement : Statement H) →
      (∀ part ∈ statement.operands, part.Supplied values subject) →
        (∀ part ∈ statement.parts, part.isLanguage = true) →
          {state : State H} → Supplies values state →
            (statement.execute host subject).SoundIn values (fun _ => True) state
              (statement.journal host subject frames state)
  | .cond tests combinator whenTrue whenFalse, known, language, state, supplies => by
      simp only [Statement.operands, List.forall_mem_append] at known
      simp only [Statement.parts, List.forall_mem_cons, List.forall_mem_append] at language
      simp only [Statement.execute, Statement.journal]
      refine .bind (Test.combine_sound returns frames combinator tests known.1 supplies) ?_
      intro found between ready _
      have entered : Supplies values between.enter := ⟨ready.functions, ready.vars⟩
      cases found with
      | true =>
          exact .nested (executeAll_sound unhooked returns (frames + 1) whenTrue known.2.1
            language.2.1 entered)
      | false =>
          exact .nested (executeAll_sound unhooked returns (frames + 1) whenFalse known.2.2
            language.2.2 entered)
  | .verdict _, _, _, state, supplies => by
      simp only [Statement.execute, Statement.journal]
      exact .pure supplies trivial
  | .call name arguments, known, _, state, supplies => by
      simp only [Statement.operands] at known
      simp only [Statement.execute, Statement.journal]
      refine .bind_still ((Operand.call name arguments).resolve_sound returns frames known
        supplies) ?_
      intro _ between ready _
      exact .pure ready trivial
  | .inert className, _, language, _, _ => nomatch language _ (Statement.mem_parts _)
  | .host statement, _, language, _, _ => nomatch language _ (Statement.mem_parts _)

/-- Executing a block of the language without a hook is sound. -/
theorem executeAll_sound (unhooked : host.hook = none)
    (returns : Builtin.Returns H.characterNamed? values) (frames : Nat) :
    (block : List (Statement H)) →
      (∀ part ∈ operandsOfBlock block, part.Supplied values subject) →
        (∀ part ∈ partsOfBlock block, part.isLanguage = true) →
          {state : State H} → Supplies values state →
            (executeAll host subject block).SoundIn values (fun _ => True) state
              (journalOfBlock host subject frames block state)
  | [], _, _, state, supplies => by
      simp only [executeAll, journalOfBlock]
      exact .pure supplies trivial
  | statement :: rest, known, language, state, supplies => by
      simp only [operandsOfBlock, List.forall_mem_append] at known
      simp only [partsOfBlock, List.forall_mem_append] at language
      simp only [executeAll, journalOfBlock]
      have begun : host.beforeStatement.SoundIn values (fun _ => True) state
          (host.journal frames state) := by
        simp only [Host.beforeStatement, unhooked]
        exact .pure supplies trivial
      refine .bind begun ?_
      intro _ between ready _
      have executed := statement.execute_sound unhooked returns frames known.1 language.1 ready
      refine .bind ((executed.mono (List.subset_cons_self _ _)).describing _) ?_
      intro outcome between' ready' _
      cases outcome with
      | proceed => exact executeAll_sound unhooked returns frames rest known.2 language.2 ready'
      | terminate verdict =>
          simp only [Outcome.terminated, ↓reduceIte]
          exact .pure ready' trivial

end

/-- **Scripts of the language are sound.** From a state with built-in functions alone a script of
the language ends with an outcome, with an error of the script, or because of a pattern that is
refused in another way, a text that cannot be shown, or a number that is too large for a double. -/
theorem run_sound (unhooked : host.hook = none) (returns : Builtin.Returns H.characterNamed? values)
    (script : List (Statement H))
    (known : ∀ part ∈ operandsOfBlock script, part.Supplied values subject)
    (language : ∀ part ∈ partsOfBlock script, part.isLanguage = true) {state : State H}
    (supplies : Supplies values state) :
    (run host script subject).SoundIn values (fun _ => True) state
      (journalOfRun host subject script state) := by
  have entered : Supplies values state.enter := ⟨supplies.functions, supplies.vars⟩
  exact .nested (executeAll_sound unhooked returns 1 script known language entered)

end

end FilterScript
