import FilterScript.Proofs.Journal

/-! # Calls of the hook

A host that has a hook is asked before every statement, right before it is begun and in the block in
which it stands, and at no other time (`run_announced`). A hook that fails ends the run, so at most
one call is not followed by its statement, and that is the last thing that happens.
-/

namespace FilterScript

variable {H : Extension} {α β : Type}

/-- The event is a call of the hook. -/
def Event.callsHook : Event H → Bool
  | .hook => true
  | _ => false

/-- The event begins a statement. -/
def Event.beginsStatement : Event H → Bool
  | .statement _ => true
  | _ => false

/-- How often the hook is called. -/
def hookCalls (journal : List (Moment H)) : Nat :=
  journal.countP fun moment => moment.event.callsHook

/-- How many statements are begun. -/
def statementsBegun (journal : List (Moment H)) : Nat :=
  journal.countP fun moment => moment.event.beginsStatement

/-- The first moment of a journal counts as a call of the hook if it is one. -/
theorem hookCalls_cons (moment : Moment H) (journal : List (Moment H)) :
    hookCalls (moment :: journal) = hookCalls journal + moment.event.callsHook.toNat := by
  simp only [hookCalls, List.countP_cons]
  cases moment.event.callsHook <;> rfl

/-- The first moment of a journal counts as a statement that is begun if it is one. -/
theorem statementsBegun_cons (moment : Moment H) (journal : List (Moment H)) :
    statementsBegun (moment :: journal) =
      statementsBegun journal + moment.event.beginsStatement.toNat := by
  simp only [statementsBegun, List.countP_cons]
  cases moment.event.beginsStatement <;> rfl

theorem hookCalls_append (journal rest : List (Moment H)) :
    hookCalls (journal ++ rest) = hookCalls journal + hookCalls rest :=
  List.countP_append

theorem statementsBegun_append (journal rest : List (Moment H)) :
    statementsBegun (journal ++ rest) = statementsBegun journal + statementsBegun rest :=
  List.countP_append

/-- Neither is the hook called nor a statement begun. -/
def Inner (journal : List (Moment H)) : Prop :=
  ∀ moment ∈ journal, moment.event.callsHook = false ∧ moment.event.beginsStatement = false

namespace Inner

variable {journal rest : List (Moment H)}

theorem nil : Inner ([] : List (Moment H)) := by
  intro moment member
  cases member

/-- A moment that is neither a call of the hook nor the beginning of a statement may stand in front.
-/
theorem cons {moment : Moment H} (noHook : moment.event.callsHook = false)
    (noStatement : moment.event.beginsStatement = false) (later : Inner journal) :
    Inner (moment :: journal) :=
  List.forall_mem_cons.mpr ⟨⟨noHook, noStatement⟩, later⟩

theorem append (front : Inner journal) (back : Inner rest) : Inner (journal ++ rest) :=
  List.forall_mem_append.mpr ⟨front, back⟩

/-- What follows on a success has neither hook nor statements if that holds for every success. -/
theorem onward {action : Eval H α} {next : α → State H → List (Moment H)} {state : State H}
    (later : ∀ value between, Inner (next value between)) : Inner (action.onward next state) := by
  unfold Eval.onward
  cases action state with
  | ok value between => exact later value between
  | error failure between => exact nil

end Inner

section

variable {host : Host H} {subject : Subject}

mutual

/-- No operand calls the hook or begins a statement while it is resolved. -/
theorem Operand.journal_inner (frames : Nat) : (operand : Operand H) → (state : State H) →
    Inner (operand.journal host subject frames state)
  | .literal _, _ | .field _, _ | .bare _, _ => by
      simp only [Operand.journal]
      exact .nil
  | .var _, _ | .host _, _ => by
      simp only [Operand.journal]
      exact .cons rfl rfl .nil
  | .call name arguments, state => by
      simp only [Operand.journal]
      refine .cons rfl rfl ?_
      cases state.functions.get? name with
      | none => exact .nil
      | some function =>
          refine .append (journalOfOperands_inner frames arguments state) ?_
          exact .onward fun _ _ => .cons rfl rfl .nil

theorem journalOfOperands_inner (frames : Nat) : (operands : List (Operand H)) →
    (state : State H) → Inner (journalOfOperands host subject frames operands state)
  | [], _ => by
      simp only [journalOfOperands]
      exact .nil
  | operand :: rest, state => by
      simp only [journalOfOperands]
      refine .append (operand.journal_inner frames state) ?_
      exact .onward fun _ between => journalOfOperands_inner frames rest between

end

namespace Test

/-- No test calls the hook or begins a statement. -/
theorem journal_inner (frames : Nat) (test : Test H) (state : State H) :
    Inner (test.journal host subject frames state) := by
  have left : Inner (test.left.journal host subject frames state) :=
    test.left.journal_inner frames state
  unfold journal
  by_cases single : test.op = ""
  · simp only [single, ↓reduceIte]
    refine .append left (.onward fun value between => ?_)
    unfold journalOfTruth
    cases value.truthWarning? with
    | some warning => exact .cons rfl rfl .nil
    | none => exact .nil
  · simp only [single, ↓reduceIte]
    cases test.right with
    | none => exact .nil
    | some right =>
        exact .append left (.onward fun _ between => right.journal_inner frames between)

theorem journalOfAll_inner (frames : Nat) (tests : List (Test H)) (state : State H) :
    Inner (journalOfAll host subject frames tests state) := by
  induction tests generalizing state with
  | nil => exact .nil
  | cons test rest ih =>
      refine .append (test.journal_inner frames state) (.onward fun found between => ?_)
      cases found with
      | true => exact ih between
      | false => exact .nil

theorem journalOfAny_inner (frames : Nat) (tests : List (Test H)) (state : State H) :
    Inner (journalOfAny host subject frames tests state) := by
  induction tests generalizing state with
  | nil => exact .nil
  | cons test rest ih =>
      exact .append (test.journal_inner frames state) (.onward fun _ between => ih between)

/-- Under no combinator do tests call the hook or begin a statement. -/
theorem journalOfCombined_inner (frames : Nat) (combinator : String) (tests : List (Test H))
    (state : State H) : Inner (journalOfCombined host subject frames combinator tests state) := by
  unfold journalOfCombined
  split
  · exact journalOfAll_inner frames tests state
  · split
    · exact journalOfAny_inner frames tests state
    · exact .nil

end Test

end

/-- Every statement that is begun comes right after a call of the hook in the same block that has
succeeded and left the state that the statement finds, and there are no other calls, except for a
last one that fails if the run is refused. -/
inductive Announced (host : Host H) : Bool → List (Moment H) → Prop
  | nil : Announced host false []
  | inner {refused : Bool} {moment : Moment H} {rest : List (Moment H)}
      (noHook : moment.event.callsHook = false)
      (noStatement : moment.event.beginsStatement = false) (later : Announced host refused rest) :
      Announced host refused (moment :: rest)
  | begun {refused : Bool} {statement : Statement H} {frames : Nat} {seen ready : State H}
      {rest : List (Moment H)} (lets : host.beforeStatement seen = .ok () ready)
      (later : Announced host refused rest) :
      Announced host refused
        (⟨.hook, frames, seen⟩ :: ⟨.statement statement, frames, ready⟩ :: rest)
  | refused {frames : Nat} {seen last : State H} {failure : Failure}
      (refuses : host.beforeStatement seen = .error failure last) :
      Announced host true [⟨.hook, frames, seen⟩]

namespace Announced

variable {host : Host H} {refused : Bool} {journal rest : List (Moment H)}

/-- Where neither the hook is called nor a statement begun, every statement is announced. -/
theorem of_inner (inside : Inner journal) : Announced host false journal := by
  induction journal with
  | nil => exact .nil
  | cons moment rest ih =>
      obtain ⟨⟨noHook, noStatement⟩, later⟩ := List.forall_mem_cons.mp inside
      exact .inner noHook noStatement (ih later)

/-- Two journals that announce their statements make one that does. Only the second may end with a
call of the hook that is refused. -/
theorem append (front : Announced host false journal) (back : Announced host refused rest) :
    Announced host refused (journal ++ rest) := by
  generalize complete : false = whether at front
  induction front with
  | nil => exact back
  | inner noHook noStatement _ ih => exact .inner noHook noStatement (ih complete)
  | begun lets _ ih => exact .begun lets (ih complete)
  | refused refuses => cases complete

/-- The hook is called once for every statement, and once more if it refuses the last. -/
theorem hookCalls_eq (announced : Announced host refused journal) :
    hookCalls journal = statementsBegun journal + refused.toNat := by
  induction announced with
  | nil => rfl
  | inner noHook noStatement _ ih =>
      rw [hookCalls_cons, statementsBegun_cons, noHook, noStatement]
      exact ih
  | begun _ _ ih =>
      rw [hookCalls_cons, hookCalls_cons, statementsBegun_cons, statementsBegun_cons, ih]
      simp only [Event.callsHook, Event.beginsStatement, Bool.toNat_true, Bool.toNat_false]
      omega
  | refused => rfl

/-- A run that is refused ends with a call of the hook that fails. -/
theorem exists_refusal (announced : Announced host refused journal) (stopped : refused = true) :
    ∃ front frames seen failure last, journal = front ++ [⟨.hook, frames, seen⟩] ∧
      host.beforeStatement seen = .error failure last := by
  induction announced with
  | nil => cases stopped
  | @inner _ moment _ _ _ _ ih =>
      obtain ⟨front, frames, seen, failure, last, rfl, refuses⟩ := ih stopped
      exact ⟨moment :: front, frames, seen, failure, last, rfl, refuses⟩
  | @begun _ statement around before ready _ _ _ ih =>
      obtain ⟨front, frames, seen, failure, last, rfl, refuses⟩ := ih stopped
      exact ⟨⟨.hook, around, before⟩ :: ⟨.statement statement, around, ready⟩ :: front, frames,
        seen, failure, last, rfl, refuses⟩
  | @refused frames seen last failure refuses =>
      exact ⟨[], frames, seen, failure, last, rfl, refuses⟩

/-- Only a run that is refused ends with a call of the hook. -/
theorem refused_of_last (announced : Announced host refused journal) {front : List (Moment H)}
    {frames : Nat} {seen : State H} (last : journal = front ++ [⟨.hook, frames, seen⟩]) :
    refused = true := by
  induction announced generalizing front with
  | nil => cases front <;> cases last
  | inner noHook _ _ ih =>
      cases front with
      | nil =>
          cases last
          cases noHook
      | cons first front =>
          obtain ⟨_, last⟩ := List.cons.inj last
          exact ih last
  | begun _ _ ih =>
      match front with
      | [] => cases last
      | [_] => cases last
      | _ :: _ :: front =>
          obtain ⟨_, last⟩ := List.cons.inj last
          obtain ⟨_, last⟩ := List.cons.inj last
          exact ih last
  | refused => rfl

end Announced

/-- The journal of an evaluation is announced, and the evaluation fails if it is refused. -/
def Eval.AnnouncedIn (action : Eval H α) (host : Host H) (state : State H)
    (journal : List (Moment H)) : Prop :=
  ∃ refused, Announced host refused journal ∧
    (refused = true → ∃ failure last, action state = .error failure last)

namespace Eval.AnnouncedIn

variable {host : Host H} {action : Eval H α} {state : State H} {journal : List (Moment H)}

theorem of_inner (inside : Inner journal) : action.AnnouncedIn host state journal :=
  ⟨false, .of_inner inside, nofun⟩

/-- The first part of a sequence announces its statements, and so does the second part after every
success of the first. -/
theorem bind {next : α → Eval H β} {more : α → State H → List (Moment H)}
    (front : action.AnnouncedIn host state journal)
    (back : ∀ value between, (next value).AnnouncedIn host between (more value between)) :
    (action >>= next).AnnouncedIn host state (journal ++ action.onward more state) := by
  obtain ⟨refused, announced, stops⟩ := front
  cases result : action state with
  | ok value between =>
      obtain ⟨refused', later, stops'⟩ := back value between
      have complete : refused = false := by
        cases refused with
        | false => rfl
        | true =>
            obtain ⟨failure, last, fails⟩ := stops rfl
            rw [result] at fails
            cases fails
      subst complete
      refine ⟨refused', ?_, ?_⟩
      · rw [Eval.onward_of_ok result]
        exact announced.append later
      · rw [Eval.bind_of_ok result]
        exact stops'
  | error failure between =>
      refine ⟨refused, ?_, fun _ => ⟨failure, between, Eval.bind_of_error result⟩⟩
      rw [Eval.onward_of_error result, List.append_nil]
      exact announced

/-- A description in the place of one that fails does not change what is announced. -/
theorem describing (inside : action.AnnouncedIn host state journal)
    (description : Except Cause String) :
    (Eval.describing description action).AnnouncedIn host state journal := by
  obtain ⟨refused, announced, stops⟩ := inside
  refine ⟨refused, announced, fun stopped => ?_⟩
  obtain ⟨failure, last, fails⟩ := stops stopped
  exact ⟨_, last, Eval.describing_of_error fails⟩

/-- In a block that is entered the statements are announced, and if there is no room for it there
are none. -/
theorem nested {inside : State H → List (Moment H)}
    (entered : action.AnnouncedIn host state.enter (inside state.enter)) :
    action.nested.AnnouncedIn host state
      (if state.AtLimit then [] else inside state.enter) := by
  by_cases limit : state.AtLimit
  · simp only [limit, ↓reduceIte]
    exact of_inner .nil
  · simp only [limit, ↓reduceIte]
    obtain ⟨refused, announced, stops⟩ := entered
    refine ⟨refused, announced, fun stopped => ?_⟩
    obtain ⟨failure, last, fails⟩ := stops stopped
    exact ⟨failure, last.leave, Eval.nested_of_error limit fails⟩

/-- A statement that the hook lets is announced by it; a statement that it does not let is not
begun. -/
theorem hook {hook : Eval H Unit} (hooked : host.hook = some hook) {statement : Statement H}
    {frames : Nat} {next : Unit → Eval H β} {more : State H → List (Moment H)}
    (back : ∀ ready, (next ()).AnnouncedIn host ready (more ready)) :
    (host.beforeStatement >>= next).AnnouncedIn host state
      (host.journal frames state ++
        host.beforeStatement.onward
          (fun _ ready => ⟨.statement statement, frames, ready⟩ :: more ready) state) := by
  have called : host.journal frames state = [⟨.hook, frames, state⟩] := by
    simp only [Host.journal, hooked, Option.toList_some, List.map_cons, List.map_nil]
  rw [called]
  cases result : host.beforeStatement state with
  | ok value ready =>
      obtain ⟨refused, later, stops⟩ := back ready
      refine ⟨refused, ?_, ?_⟩
      · rw [Eval.onward_of_ok result]
        exact .begun result later
      · rw [Eval.bind_of_ok result]
        exact stops
  | error failure last =>
      refine ⟨true, ?_, fun _ => ⟨failure, last, Eval.bind_of_error result⟩⟩
      rw [Eval.onward_of_error result, List.append_nil]
      exact .refused result

end Eval.AnnouncedIn

section

variable {host : Host H} {subject : Subject} {hook : Eval H Unit}

mutual

/-- After a statement is begun, the statements inside it are announced by the hook. -/
theorem Statement.journal_announced (hooked : host.hook = some hook) (frames : Nat) :
    (statement : Statement H) → (state : State H) →
      (statement.execute host subject).AnnouncedIn host state
        (statement.journal host subject frames state)
  | .cond tests combinator whenTrue whenFalse, state => by
      simp only [Statement.execute, Statement.journal]
      refine .bind (.of_inner (Test.journalOfCombined_inner frames combinator tests state)) ?_
      intro found between
      cases found with
      | true =>
          exact .nested (journalOfBlock_announced hooked (frames + 1) whenTrue between.enter)
      | false =>
          exact .nested (journalOfBlock_announced hooked (frames + 1) whenFalse between.enter)
  | .call name arguments, state => by
      simp only [Statement.journal]
      exact .of_inner ((Operand.call name arguments).journal_inner frames state)
  | .verdict _, _ | .inert _, _ | .host _, _ => by
      simp only [Statement.journal]
      exact .of_inner .nil

/-- Every statement of a block is announced by the hook. -/
theorem journalOfBlock_announced (hooked : host.hook = some hook) (frames : Nat) :
    (block : List (Statement H)) → (state : State H) →
      (executeAll host subject block).AnnouncedIn host state
        (journalOfBlock host subject frames block state)
  | [], state => by
      simp only [journalOfBlock]
      exact .of_inner .nil
  | statement :: rest, state => by
      simp only [executeAll, journalOfBlock, List.cons_append]
      refine .hook hooked fun ready => ?_
      refine .bind ((statement.journal_announced hooked frames ready).describing _) ?_
      intro outcome next
      cases outcome with
      | proceed => exact journalOfBlock_announced hooked frames rest next
      | terminate verdict =>
          simp only [Outcome.terminated, ↓reduceIte]
          exact .of_inner .nil

end

/-- **The hook announces every statement.** In a run of a host with a hook every statement that is
begun comes right after a call of the hook in the same block, and the hook is called at no other
time, except for a last call that refuses a statement. -/
theorem run_announced (hooked : host.hook = some hook) (script : List (Statement H))
    (state : State H) :
    ∃ refused, Announced host refused (journalOfRun host subject script state) := by
  obtain ⟨refused, announced, _⟩ :
      (run host script subject).AnnouncedIn host state (journalOfRun host subject script state) :=
    .nested (journalOfBlock_announced hooked 1 script state.enter)
  exact ⟨refused, announced⟩

end

end FilterScript
