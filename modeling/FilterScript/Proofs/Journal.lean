import FilterScript.Proofs.Frame

/-! # The journal of a run

A journal lists what happens while a script runs: calls of the hook, statements that are begun,
variables that are read, functions that are looked up and called, operands of the host that are
resolved, and warnings. Every entry records the state that it finds and the number of blocks that
are open, which is the number of runs nested in each other at that moment.

The journal is read off the evaluation: where it depends on a result, it asks the evaluation for
that result. That nothing is missing from it is the main statement (`run_connects`): the first
moment finds the state that the run starts in, every moment finds the state that the one before it
has left, and the run ends in the state that the last one has left. Only the depth is not accounted
for, because entering and leaving a block is no moment of the journal.
-/

namespace FilterScript

variable {H : Extension} {α β : Type}

/-- What can happen while a script runs. -/
inductive Event (H : Extension) where
  /-- The hook is called. -/
  | hook
  /-- A statement is begun. -/
  | statement (statement : Statement H)
  /-- A variable is read. -/
  | read (name : String)
  /-- A function is looked up. -/
  | lookup (name : String)
  /-- A function is called. -/
  | call (function : Callable H) (arguments : List Value)
  /-- An operand of the host is resolved. -/
  | operand (operand : H.Operand)
  /-- A warning is given. -/
  | warning (message : String)

/-- An event with the state that it finds and the number of open blocks. -/
structure Moment (H : Extension) where
  event : Event H
  frames : Nat
  seen : State H

/-- The part of a journal that follows on the success of an evaluation. -/
def Eval.onward (action : Eval H α) (next : α → State H → List (Moment H)) (state : State H) :
    List (Moment H) :=
  match action state with
  | .ok value between => next value between
  | .error _ _ => []

theorem Eval.onward_of_ok {action : Eval H α} {next : α → State H → List (Moment H)}
    {state between : State H} {value : α} (succeeds : action state = .ok value between) :
    action.onward next state = next value between := by
  simp only [onward, succeeds]

theorem Eval.onward_of_error {action : Eval H α} {next : α → State H → List (Moment H)}
    {state between : State H} {failure : Failure} (fails : action state = .error failure between) :
    action.onward next state = [] := by
  simp only [onward, fails]

mutual

/-- What happens while an operand is resolved. -/
def Operand.journal (host : Host H) (subject : Subject) (frames : Nat) :
    Operand H → State H → List (Moment H)
  | .var name, state => [⟨.read name, frames, state⟩]
  | .call name arguments, state =>
    ⟨.lookup name, frames, state⟩ ::
      match state.functions.get? name with
      | none => []
      | some function =>
        journalOfOperands host subject frames arguments state ++
          (resolveAll host subject arguments).onward
            (fun values called => [⟨.call function values, frames, called⟩]) state
  | .host operand, state => [⟨.operand operand, frames, state⟩]
  | .literal _, _ | .field _, _ | .bare _, _ => []

/-- What happens while operands are resolved from left to right. -/
def journalOfOperands (host : Host H) (subject : Subject) (frames : Nat) :
    List (Operand H) → State H → List (Moment H)
  | [], _ => []
  | operand :: rest, state =>
    operand.journal host subject frames state ++
      (operand.resolve host subject).onward
        (fun _ => journalOfOperands host subject frames rest) state

end

namespace Test

/-- What happens when a value is asked for its truth. -/
def journalOfTruth (frames : Nat) (value : Value) (state : State H) : List (Moment H) :=
  value.truthWarning?.toList.map fun message => ⟨.warning message, frames, state⟩

/-- What happens while a test is evaluated. -/
def journal (host : Host H) (subject : Subject) (frames : Nat) (test : Test H) (state : State H) :
    List (Moment H) :=
  if test.op = "" then
    test.left.journal host subject frames state ++
      (test.left.resolve host subject).onward (journalOfTruth frames) state
  else
    match test.right with
    | none => []
    | some right =>
      test.left.journal host subject frames state ++
        (test.left.resolve host subject).onward
          (fun _ => right.journal host subject frames) state

/-- What happens while tests are evaluated up to the first that is not true. -/
def journalOfAll (host : Host H) (subject : Subject) (frames : Nat) :
    List (Test H) → State H → List (Moment H)
  | [], _ => []
  | test :: rest, state =>
    test.journal host subject frames state ++
      (test.eval host subject).onward
        (fun found next => if found then journalOfAll host subject frames rest next else []) state

/-- What happens while all of some tests are evaluated. -/
def journalOfAny (host : Host H) (subject : Subject) (frames : Nat) :
    List (Test H) → State H → List (Moment H)
  | [], _ => []
  | test :: rest, state =>
    test.journal host subject frames state ++
      (test.eval host subject).onward
        (fun _ => journalOfAny host subject frames rest) state

/-- What happens while tests are evaluated under a combinator. -/
def journalOfCombined (host : Host H) (subject : Subject) (frames : Nat) (combinator : String)
    (tests : List (Test H)) (state : State H) : List (Moment H) :=
  if combinator = "and" then journalOfAll host subject frames tests state
  else if combinator = "or" then journalOfAny host subject frames tests state
  else []

end Test

/-- What happens before a statement. -/
def Host.journal (host : Host H) (frames : Nat) (state : State H) : List (Moment H) :=
  host.hook.toList.map fun _ => ⟨.hook, frames, state⟩

mutual

/-- What happens after a statement is begun. The branch that is chosen opens a block. -/
def Statement.journal (host : Host H) (subject : Subject) (frames : Nat) :
    Statement H → State H → List (Moment H)
  | .cond tests combinator whenTrue whenFalse, state =>
    Test.journalOfCombined host subject frames combinator tests state ++
      (Test.combine host subject combinator tests).onward
        (fun found next =>
          if next.AtLimit then []
          else if found then journalOfBlock host subject (frames + 1) whenTrue next.enter
          else journalOfBlock host subject (frames + 1) whenFalse next.enter) state
  | .call name arguments, state => (Operand.call name arguments).journal host subject frames state
  | .verdict _, _ | .inert _, _ | .host _, _ => []

/-- What happens while statements are executed in an open block. -/
def journalOfBlock (host : Host H) (subject : Subject) (frames : Nat) :
    List (Statement H) → State H → List (Moment H)
  | [], _ => []
  | statement :: rest, state =>
    host.journal frames state ++
      host.beforeStatement.onward
        (fun _ ready =>
          ⟨.statement statement, frames, ready⟩ :: statement.journal host subject frames ready ++
            (Eval.describing (statement.describe host.descriptions)
              (statement.execute host subject)).onward
              (fun outcome next =>
                if outcome.terminated then []
                else journalOfBlock host subject frames rest next) ready) state

end

/-- What happens while a script runs. -/
def journalOfRun (host : Host H) (subject : Subject) (script : List (Statement H))
    (state : State H) : List (Moment H) :=
  if state.AtLimit then [] else journalOfBlock host subject 1 script state.enter

/-! ## Nothing is missing -/

/-- The states agree in everything but the depth. -/
def State.Alike (state other : State H) : Prop :=
  { state with depth := 0 } = { other with depth := 0 }

namespace State.Alike

theorem refl (state : State H) : state.Alike state := rfl

theorem symm {state other : State H} (alike : state.Alike other) : other.Alike state :=
  Eq.symm alike

theorem trans {first second third : State H} (one : first.Alike second)
    (two : second.Alike third) : first.Alike third := Eq.trans one two

/-- Parts of a state that do not depend on the depth are the same in states that are alike. -/
theorem part {state other : State H} {γ : Type} (alike : state.Alike other) (part : State H → γ)
    (blind : ∀ state : State H, part { state with depth := 0 } = part state) :
    part state = part other := by
  rw [← blind state, ← blind other]
  exact congrArg part alike

theorem vars {state other : State H} (alike : state.Alike other) : state.vars = other.vars :=
  alike.part State.vars fun _ => rfl

theorem functions {state other : State H} (alike : state.Alike other) :
    state.functions = other.functions :=
  alike.part State.functions fun _ => rfl

theorem output {state other : State H} (alike : state.Alike other) :
    state.output = other.output :=
  alike.part State.output fun _ => rfl

theorem enter (state : State H) : state.Alike state.enter := rfl

theorem leave (state : State H) : state.Alike state.leave := rfl

end State.Alike

/-- The state that an event leaves in the state that it finds. -/
def Moment.left (host : Host H) (subject : Subject) (moment : Moment H) : State H :=
  match moment.event with
  | .hook => host.beforeStatement.final moment.seen
  | .statement (.host statement) => (host.execute statement subject).final moment.seen
  | .call function arguments => (function.call host arguments).final moment.seen
  | .operand operand => (host.resolve operand subject).final moment.seen
  | .warning message => moment.seen.warn message
  | .statement _ | .read _ | .lookup _ => moment.seen

/-- The moments lead from the first state to the last: each finds what the one before it has left,
up to the depth. -/
def Connects (host : Host H) (subject : Subject) : State H → List (Moment H) → State H → Prop
  | first, [], last => first.Alike last
  | first, moment :: rest, last =>
    first.Alike moment.seen ∧ Connects host subject (moment.left host subject) rest last

namespace Connects

variable {host : Host H} {subject : Subject} {first between last : State H}
  {journal rest : List (Moment H)}

/-- What leads from a state leads from every state that is alike. -/
theorem of_alike (alike : first.Alike between)
    (connects : Connects host subject between journal last) :
    Connects host subject first journal last := by
  cases journal with
  | nil => exact alike.trans connects
  | cons moment rest => exact ⟨alike.trans connects.1, connects.2⟩

/-- What leads to a state and what leads on from there make one journal. -/
theorem append (front : Connects host subject first journal between)
    (back : Connects host subject between rest last) :
    Connects host subject first (journal ++ rest) last := by
  induction journal generalizing first with
  | nil => exact back.of_alike front
  | cons moment later ih => exact ⟨front.1, ih front.2⟩

/-- What leads up to a moment connects the first state with what the moment finds, and what follows
connects what it leaves with the last state. -/
theorem split {front : List (Moment H)} {moment : Moment H}
    (connects : Connects host subject first (front ++ moment :: rest) last) :
    Connects host subject first front moment.seen ∧
      Connects host subject (moment.left host subject) rest last := by
  induction front generalizing first with
  | nil => exact connects
  | cons earlier front ih =>
      obtain ⟨before, after⟩ := ih connects.2
      exact ⟨⟨connects.1, before⟩, after⟩

theorem single (moment : Moment H) :
    Connects host subject moment.seen [moment] (moment.left host subject) :=
  ⟨.refl _, .refl _⟩

/-- The journal of a sequence is made of those of its parts. -/
theorem bind {action : Eval H α} {next : α → Eval H β} {more : α → State H → List (Moment H)}
    (front : Connects host subject first journal (action.final first))
    (back : ∀ value between, action first = .ok value between →
      Connects host subject between (more value between) ((next value).final between)) :
    Connects host subject first (journal ++ action.onward more first)
      ((action >>= next).final first) := by
  cases result : action first with
  | ok value between =>
      rw [Eval.final_of_ok result] at front
      rw [Eval.final_bind_of_ok result, Eval.onward_of_ok result]
      exact front.append (back value between result)
  | error failure between =>
      rw [Eval.final_of_error result] at front
      rw [Eval.final_bind_of_error result, Eval.onward_of_error result, List.append_nil]
      exact front

end Connects

section

variable {host : Host H} {subject : Subject}

mutual

/-- The journal of an operand leads to the state that its resolution leaves. -/
theorem Operand.journal_connects (frames : Nat) :
    (operand : Operand H) → (state : State H) →
      Connects host subject state (operand.journal host subject frames state)
        ((operand.resolve host subject).final state)
  | .literal _, state | .field _, state => by
      simp only [Operand.journal, Operand.resolve, Eval.final_ofExcept]
      exact .refl state
  | .var name, state => by
      simp only [Operand.journal, Operand.resolve]
      exact .single ⟨.read name, frames, state⟩
  | .call name arguments, state => by
      simp only [Operand.journal, Operand.resolve]
      rw [Eval.final_bind_of_ok (Eval.get_apply state)]
      refine ⟨.refl state, ?_⟩
      cases state.functions.get? name with
      | none => exact .refl state
      | some function =>
          exact .bind (journalOfOperands_connects frames arguments state)
            fun values called _ => .single ⟨.call function values, frames, called⟩
  | .bare _, state => by
      simp only [Operand.journal, Operand.resolve, Eval.final_throw]
      exact .refl state
  | .host operand, state => by
      simp only [Operand.journal, Operand.resolve]
      exact .single ⟨.operand operand, frames, state⟩

/-- The journal of operands leads to the state that their resolution leaves. -/
theorem journalOfOperands_connects (frames : Nat) :
    (operands : List (Operand H)) → (state : State H) →
      Connects host subject state (journalOfOperands host subject frames operands state)
        ((resolveAll host subject operands).final state)
  | [], state => by
      simp only [journalOfOperands, resolveAll, Eval.final_pure]
      exact .refl state
  | operand :: rest, state => by
      simp only [journalOfOperands, resolveAll]
      refine .bind (operand.journal_connects frames state) fun value between _ => ?_
      rw [Eval.final_bind_of_still fun _ _ => rfl]
      exact journalOfOperands_connects frames rest between

end

namespace Test

/-- The journal of a question for truth leads to the state that it leaves. -/
theorem journalOfTruth_connects (frames : Nat) (value : Value) (state : State H) :
    Connects host subject state (journalOfTruth frames value state)
      ((truth value : Eval H Bool).final state) := by
  unfold journalOfTruth truth
  cases value.truthWarning? with
  | some warning => exact .single ⟨.warning warning, frames, state⟩
  | none => exact .refl state

/-- The journal of a test leads to the state that it leaves. -/
theorem journal_connects (frames : Nat) (test : Test H) (state : State H) :
    Connects host subject state (test.journal host subject frames state)
      ((test.eval host subject).final state) := by
  unfold journal eval
  by_cases single : test.op = ""
  · simp only [single, ↓reduceIte]
    exact .bind (test.left.journal_connects frames state) fun value between _ =>
      journalOfTruth_connects frames value between
  · simp only [single, ↓reduceIte]
    cases test.right with
    | none => exact .refl state
    | some right =>
        refine .bind (test.left.journal_connects frames state) fun left between _ => ?_
        rw [Eval.final_bind_of_still fun _ _ => Eval.final_ofExcept _ _]
        exact right.journal_connects frames between

/-- The journal of tests that are all to be true leads to the state that they leave. -/
theorem journalOfAll_connects (frames : Nat) (tests : List (Test H)) (state : State H) :
    Connects host subject state (journalOfAll host subject frames tests state)
      ((evalAll host subject tests).final state) := by
  induction tests generalizing state with
  | nil => exact .refl state
  | cons test rest ih =>
      unfold journalOfAll evalAll
      refine .bind (test.journal_connects frames state) fun found between _ => ?_
      cases found with
      | true => exact ih between
      | false => exact .refl between

/-- The journal of tests of which some is to be true leads to the state that they leave. -/
theorem journalOfAny_connects (frames : Nat) (tests : List (Test H)) (state : State H) :
    Connects host subject state (journalOfAny host subject frames tests state)
      ((evalAny host subject tests).final state) := by
  induction tests generalizing state with
  | nil => exact .refl state
  | cons test rest ih =>
      unfold journalOfAny evalAny
      refine .bind (test.journal_connects frames state) fun found between _ => ?_
      rw [Eval.final_bind_of_still fun _ _ => rfl]
      exact ih between

/-- Under every combinator the journal of tests leads to the state that they leave. -/
theorem journalOfCombined_connects (frames : Nat) (combinator : String) (tests : List (Test H))
    (state : State H) :
    Connects host subject state (journalOfCombined host subject frames combinator tests state)
      ((combine host subject combinator tests).final state) := by
  unfold journalOfCombined combine
  split
  · exact journalOfAll_connects frames tests state
  · split
    · exact journalOfAny_connects frames tests state
    · exact .refl state

end Test

/-- The journal of the hook leads to the state that it leaves. -/
theorem Host.journal_connects (frames : Nat) (state : State H) :
    Connects host subject state (host.journal frames state)
      (host.beforeStatement.final state) := by
  unfold Host.journal
  cases hooked : host.hook with
  | none =>
      have still : host.beforeStatement.final state = state := by
        simp only [Host.beforeStatement, hooked, Eval.final_pure]
      rw [still]
      exact .refl state
  | some hook => exact .single ⟨.hook, frames, state⟩

/-- A branch that is entered connects the state before with the state after, because a depth is not
accounted for. -/
theorem Connects.nested {block : Eval H α} {journal : State H → List (Moment H)} {state : State H}
    (inside : ¬ state.AtLimit →
      Connects host subject state.enter (journal state.enter) (block.final state.enter)) :
    Connects host subject state (if state.AtLimit then [] else journal state.enter)
      (block.nested.final state) := by
  by_cases limit : state.AtLimit
  · simp only [limit, ↓reduceIte]
    rw [Eval.final_nested_of_atLimit limit]
    exact .refl state
  · simp only [limit, ↓reduceIte]
    rw [Eval.final_nested limit]
    -- Entering and leaving change the depth alone, which `Alike` does not see.
    have entered := (inside limit).of_alike (.enter state)
    rw [← List.append_nil (journal state.enter)]
    exact entered.append (.leave _)

mutual

/-- The journal of a statement leads to the state that it leaves. -/
theorem Statement.journal_connects (frames : Nat) :
    (statement : Statement H) → (state : State H) →
      Connects host subject state
        (⟨.statement statement, frames, state⟩ :: statement.journal host subject frames state)
        ((statement.execute host subject).final state)
  | .cond tests combinator whenTrue whenFalse, state => by
      refine ⟨.refl state, ?_⟩
      simp only [Statement.journal, Statement.execute]
      refine .bind (Test.journalOfCombined_connects frames combinator tests state) ?_
      intro found between _
      cases found with
      | true => exact .nested fun _ => journalOfBlock_connects (frames + 1) whenTrue between.enter
      | false => exact .nested fun _ => journalOfBlock_connects (frames + 1) whenFalse between.enter
  | .verdict _, state => by
      refine ⟨.refl state, ?_⟩
      simp only [Statement.journal, Statement.execute]
      exact .refl state
  | .call name arguments, state => by
      refine ⟨.refl state, ?_⟩
      simp only [Statement.journal, Statement.execute]
      rw [Eval.final_bind_of_still fun _ _ => rfl]
      exact (Operand.call name arguments).journal_connects frames state
  | .inert _, state => by
      refine ⟨.refl state, ?_⟩
      simp only [Statement.journal, Statement.execute]
      exact .refl state
  | .host statement, state => by
      simp only [Statement.journal, Statement.execute]
      exact .single ⟨.statement (.host statement), frames, state⟩

/-- The journal of a block leads to the state that it leaves. -/
theorem journalOfBlock_connects (frames : Nat) :
    (block : List (Statement H)) → (state : State H) →
      Connects host subject state (journalOfBlock host subject frames block state)
        ((executeAll host subject block).final state)
  | [], state => by
      simp only [journalOfBlock, executeAll]
      exact .refl state
  | statement :: rest, state => by
      simp only [journalOfBlock, executeAll]
      refine .bind (host.journal_connects frames state) fun _ ready _ => ?_
      refine .bind ?_ fun outcome next _ => ?_
      · rw [Eval.final_describing]
        exact statement.journal_connects frames ready
      · cases outcome with
        | proceed => exact journalOfBlock_connects frames rest next
        | terminate verdict => exact .refl next

end

/-- **Nothing is missing from the journal of a run.** Its moments lead from the state before the run
to the state after it, and each finds what the one before it has left. -/
theorem run_connects (script : List (Statement H)) (state : State H) :
    Connects host subject state (journalOfRun host subject script state)
      ((run host script subject).final state) :=
  .nested fun _ => journalOfBlock_connects 1 script state.enter

/-- A moment keeps what the language and the host keep. -/
theorem Moment.left_keeps {kept : State H → State H → Prop} (steady : Steady kept)
    (behaves : host.Keeps kept) (moment : Moment H) :
    kept moment.seen (moment.left host subject) := by
  obtain ⟨event, frames, seen⟩ := moment
  cases event with
  | hook => exact host.beforeStatement_keeps steady behaves seen
  | statement statement =>
      cases statement with
      | host statement => exact behaves.execute statement subject seen
      | _ => exact steady.refl seen
  | read name | lookup name => exact steady.refl seen
  | call function arguments => exact function.call_keeps steady behaves arguments seen
  | operand operand => exact behaves.resolve operand subject seen
  | warning message => exact steady.warn seen message

/-- What every moment keeps is kept from the first state to the last, if the depth does not matter
to it. -/
theorem Connects.kept {kept : State H → State H → Prop} (steady : Steady kept)
    (behaves : host.Keeps kept) (alike : ∀ {state other}, state.Alike other → kept state other)
    {first last : State H} {journal : List (Moment H)}
    (connects : Connects host subject first journal last) : kept first last := by
  induction journal generalizing first with
  | nil => exact alike connects
  | cons moment rest ih =>
      have left : kept first (moment.left host subject) :=
        steady.trans (alike connects.1) (moment.left_keeps steady behaves)
      exact steady.trans left (ih connects.2)

/-- It is then kept from any moment on. -/
theorem Connects.kept_from {kept : State H → State H → Prop} (steady : Steady kept)
    (behaves : host.Keeps kept) (alike : ∀ {state other}, state.Alike other → kept state other)
    {first last : State H} {front rest : List (Moment H)} {moment : Moment H}
    (connects : Connects host subject first (front ++ moment :: rest) last) :
    kept moment.seen last := by
  have onward : kept (moment.left host subject) last :=
    connects.split.2.kept steady behaves alike
  exact steady.trans (moment.left_keeps steady behaves) onward

end

/-! ## Evaluations in a row -/

section

variable {ι : Type} {eval : ι → Eval H α} {journal : ι → State H → List (Moment H)}

/-- Items are evaluated one after the other, each in the state that the one before it has left, to
the given values. What happens during one of them follows what happens during those before. -/
inductive Row (eval : ι → Eval H α) (journal : ι → State H → List (Moment H)) :
    State H → List (ι × α) → List (Moment H) → State H → Prop
  | nil (state : State H) : Row eval journal state [] [] state
  | cons {item value rows state between last later}
      (first : eval item state = .ok value between)
      (rest : Row eval journal between rows later last) :
      Row eval journal state ((item, value) :: rows) (journal item state ++ later) last

/-- After a row one more item is evaluated, which ends in the given way. -/
def RowThen (eval : ι → Eval H α) (journal : ι → State H → List (Moment H)) (state : State H)
    (rows : List (ι × α)) (item : ι) (happened : List (Moment H))
    (result : EStateM.Result Failure (State H) α) : Prop :=
  ∃ front between, Row eval journal state rows front between ∧ eval item between = result ∧
    happened = front ++ journal item between

/-- Some items are evaluated as long as their values let the evaluation go on; what is left is
nothing, or begins with an item that does not let it. -/
theorem exists_row (eval : ι → Eval H α) (journal : ι → State H → List (Moment H))
    (goesOn : α → Bool) (items : List ι) (state : State H) :
    ∃ rows rest happened between, items = rows.map Prod.fst ++ rest ∧
      Row eval journal state rows happened between ∧ (∀ row ∈ rows, goesOn row.2 = true) ∧
        ∀ item ∈ rest.head?, ∀ value last, eval item between = .ok value last →
          goesOn value = false := by
  induction items generalizing state with
  | nil => exact ⟨[], [], [], state, rfl, .nil state, List.forall_mem_nil _, nofun⟩
  | cons item items ih =>
      cases result : eval item state with
      | error failure next =>
          refine ⟨[], item :: items, [], state, rfl, .nil state, List.forall_mem_nil _, ?_⟩
          rintro _ ⟨rfl⟩ value last succeeds
          rw [result] at succeeds
          cases succeeds
      | ok value next =>
          cases onward : goesOn value with
          | true =>
              obtain ⟨rows, rest, happened, between, rfl, row, goOn, stops⟩ := ih next
              exact ⟨(item, value) :: rows, rest, _, between, rfl, .cons result row,
                List.forall_mem_cons.mpr ⟨onward, goOn⟩, stops⟩
          | false =>
              refine ⟨[], item :: items, [], state, rfl, .nil state, List.forall_mem_nil _, ?_⟩
              rintro _ ⟨rfl⟩ _ last succeeds
              rw [result] at succeeds
              cases succeeds
              exact onward

/-- Items all have values, or one of them is the first that fails. -/
theorem row_or_first_failure (eval : ι → Eval H α) (journal : ι → State H → List (Moment H))
    (items : List ι) (state : State H) :
    (∃ rows happened last, items = rows.map Prod.fst ∧
      Row eval journal state rows happened last) ∨
      ∃ rows item rest happened failure last, items = rows.map Prod.fst ++ item :: rest ∧
        RowThen eval journal state rows item happened (.error failure last) := by
  obtain ⟨rows, rest, happened, between, rfl, row, _, stops⟩ :=
    exists_row eval journal (fun _ => true) items state
  cases rest with
  | nil => exact .inl ⟨rows, happened, between, List.append_nil _, row⟩
  | cons item rest =>
      cases result : eval item between with
      | ok value last => cases stops item rfl value last result
      | error failure last =>
          exact .inr ⟨rows, item, rest, _, failure, last, rfl, happened, between, row, result, rfl⟩

end

end FilterScript
