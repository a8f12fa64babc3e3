import FilterScript.Proofs.Depth
import FilterScript.Proofs.Trail

/-! # A stack that runs out

A host function that runs out of stack does not end the run by that. The innermost statement that
is being executed ends instead, with the error that the nesting is too deep at the depth where it
stands, and what leaves the run is an error (`run_exhausted`). The error arises as the statement is
left and not inside it, so the trail begins with the statement around it: the description of the
statement that has failed is missing from it (`not_run_exhausted_described`).
-/

namespace FilterScript

variable {H : Extension} {α β : Type}

/-- The stack runs out at the moment: in the function that is called, in the operand of the host
that is resolved, or in the statement that is begun. -/
def Moment.Exhausts (host : Host H) (subject : Subject) (moment : Moment H) : Prop :=
  ∃ last, match moment.event with
    | .call function arguments =>
      function.call host arguments moment.seen = .error .stackExhausted last
    | .operand operand => host.resolve operand subject moment.seen = .error .stackExhausted last
    | .statement statement =>
      statement.execute host subject moment.seen = .error .stackExhausted last
    | _ => False

/-! ## The innermost statement fails -/

/-- The evaluation runs out of stack if something does that happens in it, and opens no block in
which this happens. -/
def Exposes (host : Host H) (subject : Subject) (frames : Nat) (action : Eval H α) (state : State H)
    (journal : List (Moment H)) : Prop :=
  ∀ moment ∈ journal, moment.Exhausts host subject →
    moment.frames = frames ∧ ∃ last, action state = .error .stackExhausted last

section

variable {host : Host H} {subject : Subject} {frames : Nat}

namespace Exposes

variable {action : Eval H α} {next : α → Eval H β} {state : State H}
  {journal : List (Moment H)}

theorem nil : Exposes host subject frames action state [] := nofun

/-- A sequence exposes what its first part and what follows on it expose. -/
theorem bind {more : α → State H → List (Moment H)}
    (first : Exposes host subject frames action state journal)
    (second : ∀ value between, action state = .ok value between →
      Exposes host subject frames (next value) between (more value between)) :
    Exposes host subject frames (action >>= next) state
      (journal ++ action.onward more state) := by
  intro moment member exhausts
  rcases List.mem_append.mp member with front | back
  · obtain ⟨level, last, fails⟩ := first moment front exhausts
    exact ⟨level, last, Eval.bind_of_error fails⟩
  · cases result : action state with
    | error failure between =>
        rw [Eval.onward_of_error result] at back
        cases back
    | ok value between =>
        rw [Eval.onward_of_ok result] at back
        obtain ⟨level, last, fails⟩ := second value between result moment back exhausts
        exact ⟨level, last, (Eval.bind_of_ok result).trans fails⟩

/-- A part that happens unseen does not hide what the first part exposes. -/
theorem bind_quiet (first : Exposes host subject frames action state journal) :
    Exposes host subject frames (action >>= next) state journal := by
  intro moment member exhausts
  obtain ⟨level, last, fails⟩ := first moment member exhausts
  exact ⟨level, last, Eval.bind_of_error fails⟩

end Exposes

mutual

/-- An operand fails with what runs out of stack in it. -/
theorem Operand.journal_exposes : (operand : Operand H) → (state : State H) →
    Exposes host subject frames (operand.resolve host subject) state
      (operand.journal host subject frames state)
  | .literal _, _ | .field _, _ | .bare _, _ => by
      simp only [Operand.journal]
      exact .nil
  | .var name, state => by
      simp only [Operand.journal]
      rintro moment member ⟨_, impossible⟩
      cases List.mem_singleton.mp member
      exact impossible.elim
  | .host operand, state => by
      simp only [Operand.journal, Operand.resolve]
      rintro moment member ⟨last, fails⟩
      cases List.mem_singleton.mp member
      exact ⟨rfl, last, fails⟩
  | .call name arguments, state => by
      rintro moment member exhausts
      simp only [Operand.journal] at member
      rcases List.mem_cons.mp member with rfl | member
      · obtain ⟨_, impossible⟩ := exhausts
        exact impossible.elim
      · simp only [Operand.resolve]
        rw [Eval.bind_of_ok (Eval.get_apply state)]
        cases present : state.functions.get? name with
        | none =>
            rw [present] at member
            cases member
        | some function =>
            rw [present] at member
            refine Exposes.bind (journalOfOperands_exposes arguments state) ?_ moment member
              exhausts
            rintro values called - inner member ⟨last, fails⟩
            cases List.mem_singleton.mp member
            exact ⟨rfl, last, fails⟩

/-- Arguments fail with what runs out of stack in one of them. -/
theorem journalOfOperands_exposes : (operands : List (Operand H)) → (state : State H) →
    Exposes host subject frames (resolveAll host subject operands) state
      (journalOfOperands host subject frames operands state)
  | [], _ => by
      simp only [journalOfOperands]
      exact .nil
  | operand :: rest, state => by
      simp only [journalOfOperands, resolveAll]
      exact .bind (operand.journal_exposes state) fun _ between _ =>
        .bind_quiet (journalOfOperands_exposes rest between)

end

namespace Test

/-- A test fails with what runs out of stack in one of its operands. -/
theorem journal_exposes (test : Test H) (state : State H) :
    Exposes host subject frames (test.eval host subject) state
      (test.journal host subject frames state) := by
  unfold journal eval
  by_cases single : test.op = ""
  · simp only [single, ↓reduceIte]
    refine .bind (test.left.journal_exposes state) ?_
    rintro value between - moment member ⟨_, impossible⟩
    obtain ⟨_, _, rfl⟩ := List.mem_map.mp member
    exact impossible.elim
  · simp only [single, ↓reduceIte]
    cases test.right with
    | none => exact .nil
    | some right =>
        exact .bind (test.left.journal_exposes state) fun _ between _ =>
          .bind_quiet (right.journal_exposes between)

/-- Tests that all have to hold fail with what runs out of stack in one of them. -/
theorem journalOfAll_exposes (tests : List (Test H)) (state : State H) :
    Exposes host subject frames (evalAll host subject tests) state
      (journalOfAll host subject frames tests state) := by
  induction tests generalizing state with
  | nil => exact .nil
  | cons test rest ih =>
      unfold journalOfAll evalAll
      refine .bind (test.journal_exposes state) fun found between _ => ?_
      cases found with
      | true => exact ih between
      | false => exact .nil

/-- Tests of which one has to hold fail with what runs out of stack in one of them. -/
theorem journalOfAny_exposes (tests : List (Test H)) (state : State H) :
    Exposes host subject frames (evalAny host subject tests) state
      (journalOfAny host subject frames tests state) := by
  induction tests generalizing state with
  | nil => exact .nil
  | cons test rest ih =>
      unfold journalOfAny evalAny
      exact .bind (test.journal_exposes state) fun _ between _ => .bind_quiet (ih between)

/-- Tests under any combinator fail with what runs out of stack in one of them. -/
theorem journalOfCombined_exposes (combinator : String) (tests : List (Test H)) (state : State H) :
    Exposes host subject frames (combine host subject combinator tests) state
      (journalOfCombined host subject frames combinator tests state) := by
  unfold journalOfCombined combine
  split
  · exact journalOfAll_exposes tests state
  · split
    · exact journalOfAny_exposes tests state
    · exact .nil

end Test

end

/-! ## The error that it turns into -/

section

variable {host : Host H} {subject : Subject} {moment : Moment H}

mutual

/-- What runs out of stack in a statement makes it fail itself, or is raised in one of its branches.
-/
theorem Statement.exhausts_of_mem (exhausts : moment.Exhausts host subject) :
    (statement : Statement H) → {frames : Nat} → {state : State H} →
      moment ∈ statement.journal host subject frames state →
        (moment.frames = frames ∧
          ∃ last, statement.execute host subject state = .error .stackExhausted last) ∨
        ∃ path raised last, statement.Raises host subject state path .stack raised last ∧
          moment.frames = frames + path.length + 1
  | .cond tests combinator whenTrue whenFalse, frames, state, member => by
      simp only [Statement.journal] at member
      rcases List.mem_append.mp member with front | back
      · obtain ⟨level, last, fails⟩ :=
          Test.journalOfCombined_exposes combinator tests state moment front exhausts
        refine .inl ⟨level, last, ?_⟩
        simp only [Statement.execute]
        exact Eval.bind_of_error fails
      · right
        cases chosen : Test.combine host subject combinator tests state with
        | error failure between =>
            rw [Eval.onward_of_error chosen] at back
            cases back
        | ok found between =>
            rw [Eval.onward_of_ok chosen] at back
            by_cases limit : between.AtLimit
            · simp only [limit, ↓reduceIte] at back
              cases back
            · simp only [limit, ↓reduceIte] at back
              have inside : ∃ path raised last, BlockRaises host subject
                  (if found then whenTrue else whenFalse) between.enter path .stack raised last ∧
                    moment.frames = frames + 1 + path.length := by
                cases found with
                | true => exact exhausts_of_mem_block exhausts whenTrue back
                | false => exact exhausts_of_mem_block exhausts whenFalse back
              obtain ⟨path, raised, last, raises, level⟩ := inside
              exact ⟨path, raised, _, .branch chosen (.block limit raises), by omega⟩
  | .call name arguments, frames, state, member => by
      simp only [Statement.journal] at member
      obtain ⟨level, last, fails⟩ :=
        (Operand.call name arguments).journal_exposes state moment member exhausts
      refine .inl ⟨level, last, ?_⟩
      simp only [Statement.execute]
      exact Eval.bind_of_error fails
  | .verdict _, _, _, member | .inert _, _, _, member | .host _, _, _, member => by
      simp only [Statement.journal] at member
      cases member

/-- What runs out of stack in a block is raised in it, as many levels further in as it happens. -/
theorem exhausts_of_mem_block (exhausts : moment.Exhausts host subject) :
    (block : List (Statement H)) → {frames : Nat} → {state : State H} →
      moment ∈ journalOfBlock host subject frames block state →
        ∃ path raised last, BlockRaises host subject block state path .stack raised last ∧
          moment.frames = frames + path.length
  | [], _, _, member => by
      simp only [journalOfBlock] at member
      cases member
  | statement :: rest, frames, state, member => by
      simp only [journalOfBlock] at member
      rcases List.mem_append.mp member with before | member
      · obtain ⟨_, _, rfl⟩ := List.mem_map.mp before
        obtain ⟨_, impossible⟩ := exhausts
        exact impossible.elim
      · cases begun : host.beforeStatement state with
        | error failure ready =>
            rw [Eval.onward_of_error begun] at member
            cases member
        | ok _ ready =>
            rw [Eval.onward_of_ok begun] at member
            rcases List.mem_append.mp member with during | after
            · have here : (moment.frames = frames ∧
                  ∃ last, statement.execute host subject ready = .error .stackExhausted last) ∨
                ∃ path raised last, statement.Raises host subject ready path .stack raised last ∧
                  moment.frames = frames + path.length + 1 := by
                rcases List.mem_cons.mp during with rfl | during
                · exact .inl ⟨rfl, exhausts⟩
                · exact statement.exhausts_of_mem exhausts during
              rcases here with ⟨level, last, fails⟩ | ⟨path, raised, last, raises, level⟩
              · exact ⟨[], _, last, .stack begun fails, level⟩
              · exact ⟨statement :: path, raised, last, .statement begun raises, level⟩
            · cases left : Eval.describing (statement.describe host.descriptions)
                  (statement.execute host subject) ready with
              | error failure next =>
                  rw [Eval.onward_of_error left] at after
                  cases after
              | ok outcome next =>
                  rw [Eval.onward_of_ok left] at after
                  cases outcome with
                  | terminate verdict => cases after
                  | proceed =>
                      obtain ⟨path, raised, last, raises, level⟩ :=
                        exhausts_of_mem_block exhausts rest after
                      exact ⟨path, raised, last,
                        .later begun (Eval.ok_of_describing left) raises, level⟩

end

/-- Where the stack runs out in a run, an error is raised around the innermost statement. -/
theorem raises_of_exhausts {script : List (Statement H)} {state : State H}
    (member : moment ∈ journalOfRun host subject script state)
    (exhausts : moment.Exhausts host subject) :
    ∃ path raised last, RunRaises host subject script state path .stack raised last ∧
      moment.frames = path.length + 1 := by
  unfold journalOfRun at member
  by_cases limit : state.AtLimit
  · simp only [limit, ↓reduceIte] at member
    cases member
  · simp only [limit, ↓reduceIte] at member
    obtain ⟨path, raised, last, raises, level⟩ := exhausts_of_mem_block exhausts script member
    exact ⟨path, raised, _, .block limit raises, by omega⟩

/-- The statement is begun at a moment with the given number of open blocks and runs out of stack,
and the error says how deep it has left the run. -/
def RunsOut (host : Host H) (subject : Subject) (journal : List (Moment H)) (frames : Nat)
    (failing : Statement H) (raised : ScriptError) : Prop :=
  ∃ seen last, ⟨.statement failing, frames, seen⟩ ∈ journal ∧
    failing.execute host subject seen = .error .stackExhausted last ∧
      raised = .ofCause (.tooDeep last.depth)

/-- What runs out in a journal does so in a longer one. -/
theorem RunsOut.mono {journal journal' : List (Moment H)} {frames : Nat} {failing : Statement H}
    {raised : ScriptError} (runsOut : RunsOut host subject journal frames failing raised)
    (subset : ∀ moment ∈ journal, moment ∈ journal') :
    RunsOut host subject journal' frames failing raised := by
  obtain ⟨seen, last, member, fails, same⟩ := runsOut
  exact ⟨seen, last, subset _ member, fails, same⟩

mutual

/-- A statement that raises a stack that ran out has such a statement among its branches. -/
theorem Statement.Raises.exists_runsOut {statement : Statement H} {state last : State H}
    {path : List (Statement H)} {origin : Origin H} {raised : ScriptError}
    (stack : origin = .stack) (frames : Nat) :
    statement.Raises host subject state path origin raised last →
      ∃ failing, NestedIn statement.branches (path ++ [failing]) ∧
        RunsOut host subject (statement.journal host subject frames state)
          (frames + path.length + 1) failing raised
  | .test raises => (stack ▸ raises.inTest : Origin.InTest .stack).elim
  | .call raises => (stack ▸ raises.inTest : Origin.InTest .stack).elim
  | .host _ => nomatch stack
  | .branch _ (.limit _) => nomatch stack
  | @Statement.Raises.branch _ _ _ _ _ _ _ _ found between _ _ _ _ chosen (.block room raises) => by
      obtain ⟨failing, nested, runsOut⟩ := raises.exists_runsOut stack (frames + 1)
      refine ⟨failing, nested.mono ?_, ?_⟩
      · intro inner member
        split at member
        · exact List.mem_append_left _ member
        · exact List.mem_append_right _ member
      · rw [Nat.add_right_comm] at runsOut
        refine runsOut.mono fun moment member => ?_
        simp only [Statement.journal]
        refine List.mem_append_right _ ?_
        rw [Eval.onward_of_ok chosen]
        simp only [room, ↓reduceIte]
        cases found with
        | true => exact member
        | false => exact member

/-- A block that raises a stack that ran out has such a statement at the end of the path. -/
theorem BlockRaises.exists_runsOut {block : List (Statement H)} {state last : State H}
    {path : List (Statement H)} {origin : Origin H} {raised : ScriptError}
    (stack : origin = .stack) (frames : Nat) :
    BlockRaises host subject block state path origin raised last →
      ∃ failing, NestedIn block (path ++ [failing]) ∧
        RunsOut host subject (journalOfBlock host subject frames block state)
          (frames + path.length) failing raised
  | .hook _ => nomatch stack
  | @BlockRaises.stack _ _ _ statement _ _ ready last begun exhausts => by
      refine ⟨statement, ⟨List.mem_cons_self, trivial⟩, ready, last, ?_, exhausts, rfl⟩
      simp only [journalOfBlock]
      refine List.mem_append_right _ ?_
      rw [Eval.onward_of_ok begun]
      exact List.mem_append_left _ List.mem_cons_self
  | .statement begun raises => by
      obtain ⟨failing, nested, runsOut⟩ := raises.exists_runsOut stack frames
      refine ⟨failing, ⟨List.mem_cons_self, nested⟩, runsOut.mono fun moment member => ?_⟩
      simp only [journalOfBlock]
      refine List.mem_append_right _ ?_
      rw [Eval.onward_of_ok begun]
      exact List.mem_append_left _ (List.mem_cons_of_mem _ member)
  | .later begun done raises => by
      obtain ⟨failing, nested, runsOut⟩ := raises.exists_runsOut stack frames
      refine ⟨failing, nested.mono fun _ => List.mem_cons_of_mem _,
        runsOut.mono fun moment member => ?_⟩
      simp only [journalOfBlock]
      refine List.mem_append_right _ ?_
      rw [Eval.onward_of_ok begun]
      refine List.mem_append_right _ ?_
      rw [Eval.onward_of_ok (Eval.describing_of_ok done)]
      exact member

/-- The error of a stack that ran out is raised around a statement that has run out of it, which is
begun one level deeper than the statements around it are many. -/
theorem RunRaises.exists_runsOut {script : List (Statement H)} {state last : State H}
    {path : List (Statement H)} {raised : ScriptError} :
    RunRaises host subject script state path .stack raised last →
      ∃ failing, NestedIn script (path ++ [failing]) ∧
        RunsOut host subject (journalOfRun host subject script state) (path.length + 1) failing
          raised
  | .block room raises => by
      obtain ⟨failing, nested, runsOut⟩ := raises.exists_runsOut rfl 1
      rw [Nat.add_comm] at runsOut
      refine ⟨failing, nested, runsOut.mono fun moment member => ?_⟩
      unfold journalOfRun
      simp only [room, ↓reduceIte]
      exact member

end

/-- The depth that a statement leaves when it runs out of stack is the depth at which it is begun.
-/
theorem RunsOut.raised_eq {script : List (Statement H)} {state : State H} {frames : Nat}
    {failing : Statement H} {raised : ScriptError} (behaves : host.Keeps SameDepth)
    (runsOut : RunsOut host subject (journalOfRun host subject script state) frames failing
      raised) :
    raised = .ofCause (.tooDeep (state.depth + frames)) := by
  obtain ⟨seen, last, member, fails, rfl⟩ := runsOut
  have level : seen.depth = state.depth + frames :=
    (atLevel_of_mem_journalOfRun behaves member).depth
  have kept : SameDepth seen ((failing.execute host subject).final seen) :=
    failing.execute_keeps steady_sameDepth behaves seen
  rw [Eval.final_of_error fails] at kept
  rw [kept.1, level]

end

/-! ## What is left of it -/

/-- A stack that ran out does not come out of a statement. -/
theorem Failure.leaving_ne_stackExhausted (description : Except Cause String) (depth : Int)
    (failure : Failure) : failure.leaving description depth ≠ .stackExhausted := by
  cases failure <;> exact nofun

section

variable {host : Host H} {subject : Subject}

/-- A hook that fails is there, so its moment is in the journal. -/
theorem Host.mem_journal_of_error {frames : Nat} {state last : State H} {failure : Failure}
    (fails : host.beforeStatement state = .error failure last) :
    ⟨.hook, frames, state⟩ ∈ host.journal frames state := by
  unfold Host.journal
  cases hooked : host.hook with
  | none =>
      rw [Host.beforeStatement_of_unhooked hooked] at fails
      cases fails
  | some hook => exact List.mem_singleton_self _

/-- Only the hook lets a stack that ran out leave a block. -/
theorem hook_of_stackExhausted (frames : Nat) (block : List (Statement H)) {state last : State H}
    (fails : executeAll host subject block state = .error .stackExhausted last) :
    ∃ seen, ⟨.hook, frames, seen⟩ ∈ journalOfBlock host subject frames block state ∧
      host.beforeStatement seen = .error .stackExhausted last := by
  induction block generalizing state with
  | nil =>
      simp only [executeAll] at fails
      cases fails
  | cons statement rest ih =>
      simp only [executeAll] at fails
      simp only [journalOfBlock]
      rcases Eval.bind_eq_error_iff.mp fails with fails | ⟨_, ready, begun, fails⟩
      · exact ⟨state, List.mem_append_left _ (Host.mem_journal_of_error fails), fails⟩
      · rw [Eval.onward_of_ok begun]
        rcases Eval.bind_eq_error_iff.mp fails with fails | ⟨outcome, next, done, fails⟩
        · cases executed : statement.execute host subject ready with
          | ok outcome next =>
              rw [Eval.describing_of_ok executed] at fails
              cases fails
          | error failure next =>
              rw [Eval.describing_of_error executed, EStateM.Result.error.injEq] at fails
              exact (failure.leaving_ne_stackExhausted _ _ fails.1).elim
        · cases outcome with
          | terminate verdict => cases fails
          | proceed =>
              obtain ⟨seen, member, exhausts⟩ := ih fails
              refine ⟨seen, List.mem_append_right _ (List.mem_append_right _ ?_), exhausts⟩
              rw [Eval.onward_of_ok done]
              exact member

end

/-- **A stack that runs out.** Let the host leave the depth and its limit alone. Where the stack
runs out during a run, in a function, an operand or a statement, the innermost statement that is
being executed runs out of it. What leaves the run is an error. If the descriptions of the
statements around this one are given, it is the error that the nesting is too deep, at the depth of
the start plus the number of open blocks, and its trail are these descriptions, from the inside out.
Only a hook that runs out of stack before a statement of the script itself lets the run end by
that. -/
theorem run_exhausted (host : Host H) (behaves : host.Keeps SameDepth) (subject : Subject)
    (script : List (Statement H)) (state : State H) :
    let journal := journalOfRun host subject script state
    (∀ moment ∈ journal, moment.Exhausts host subject →
      ∃ around failing last, NestedIn script (around ++ [failing]) ∧
        around.length + 1 = moment.frames ∧
        (∃ seen, ⟨.statement failing, moment.frames, seen⟩ ∈ journal ∧
          Moment.Exhausts host subject ⟨.statement failing, moment.frames, seen⟩) ∧
        (∃ error, run host script subject state = .error (.script error) last) ∧
        ∀ texts : List String, around.map (·.describe host.descriptions) = texts.map .ok →
          run host script subject state = .error
            (.script ⟨.tooDeep (state.depth + moment.frames), texts.reverse⟩) last) ∧
    ∀ last, run host script subject state = .error .stackExhausted last →
      ∃ seen left, ⟨.hook, 1, seen⟩ ∈ journal ∧
        host.beforeStatement seen = .error .stackExhausted left := by
  intro journal
  constructor
  · intro moment member exhausts
    obtain ⟨around, raised, last, raises, level⟩ := raises_of_exhausts member exhausts
    obtain ⟨failing, nested, runsOut⟩ := raises.exists_runsOut
    rw [← level] at runsOut
    have depth := runsOut.raised_eq behaves
    subst depth
    obtain ⟨seen, left, begun, fails, _⟩ := runsOut
    exact ⟨around, failing, last, nested, level.symm, ⟨seen, begun, left, fails⟩,
      ⟨_, raises.run_eq⟩, fun texts described => raises.run_eq_of_described described⟩
  · intro last fails
    rcases Eval.nested_eq_error fails with ⟨_, impossible, _⟩ | ⟨room, inner, entered, _⟩
    · cases impossible
    · obtain ⟨seen, member, exhausts⟩ := hook_of_stackExhausted 1 script entered
      refine ⟨seen, inner, ?_, exhausts⟩
      simp only [journal, journalOfRun, room, ↓reduceIte]
      exact member

/-- A host whose functions all run out of stack. -/
def exhaustingHost : Host sampleExtension :=
  { sampleHost none with call := fun _ _ => throw .stackExhausted }

/-- A call in the branch of a condition. -/
def deepCall : List (Statement sampleExtension) := [.cond [] "and" [.call "deep" []] []]

/-- The trail of the error is that of the condition alone. -/
theorem run_exhausted_deepCall :
    exhaustingHost.Keeps SameDepth ∧
      ∃ last, run exhaustingHost deepCall .absent (sampleState [("deep", .assign)] 0 5) =
        .error (.script ⟨.tooDeep 2, ["if ()"]⟩) last := by
  have behaves : exhaustingHost.Keeps SameDepth :=
    { call := fun _ _ state => steady_sameDepth.refl state
      resolve := fun operand => operand.elim
      execute := fun statement => statement.elim
      hook := nofun }
  have law := run_exhausted exhaustingHost behaves .absent deepCall
    (sampleState [("deep", .assign)] 0 5)
  have journal : journalOfRun exhaustingHost .absent deepCall
      (sampleState [("deep", .assign)] 0 5) =
      [⟨.statement (.cond [] "and" [.call "deep" []] []), 1, sampleState [("deep", .assign)] 1 5⟩,
        ⟨.statement (.call "deep" []), 2, sampleState [("deep", .assign)] 2 5⟩,
        ⟨.lookup "deep", 2, sampleState [("deep", .assign)] 2 5⟩,
        ⟨.call (.host .assign) [], 2, sampleState [("deep", .assign)] 2 5⟩] := rfl
  obtain ⟨around, failing, last, nested, level, _, _, leaves⟩ :=
    law.1 ⟨.call (.host .assign) [], 2, sampleState [("deep", .assign)] 2 5⟩
      (by rw [journal]; simp only [List.mem_cons, or_true, true_or]) ⟨_, rfl⟩
  refine ⟨behaves, last, leaves ["if ()"] ?_⟩
  match around with
  | [statement] =>
      cases List.mem_singleton.mp nested.1
      rfl

/-- **The failing statement is missing from the trail.** The trail does not consist of the
descriptions of the statement that runs out of stack and of those around it. -/
theorem not_run_exhausted_described :
    ¬ ∀ (script : List (Statement sampleExtension)) (state last : State sampleExtension) around
      failing raised (texts : List String),
      RunRaises exhaustingHost .absent script state around .stack raised last →
      RunsOut exhaustingHost .absent (journalOfRun exhaustingHost .absent script state)
        (around.length + 1) failing raised →
      NestedIn script (around ++ [failing]) →
      (around ++ [failing]).map (·.describe exhaustingHost.descriptions) = texts.map .ok →
        run exhaustingHost script .absent state = .error
          (.script ⟨.tooDeep (state.depth + (around.length + 1)), texts.reverse⟩) last := by
  intro described
  let state := sampleState [("deep", .assign)] 0 5
  have chosen : Test.combine exhaustingHost .absent "and" [] state.enter = .ok true state.enter :=
    rfl
  have inside : BlockRaises exhaustingHost .absent [.call "deep" []] state.enter.enter [] .stack
      (.ofCause (.tooDeep state.enter.enter.depth)) state.enter.enter := .stack rfl rfl
  have raises : RunRaises exhaustingHost .absent deepCall state
      [.cond [] "and" [.call "deep" []] []] .stack (.ofCause (.tooDeep 2)) state :=
    .block (by decide) (.statement rfl (.branch chosen (.block (by decide) inside)))
  have runsOut : RunsOut exhaustingHost .absent (journalOfRun exhaustingHost .absent deepCall state)
      2 (.call "deep" []) (.ofCause (.tooDeep 2)) := by
    refine ⟨state.enter.enter, state.enter.enter, ?_, rfl, rfl⟩
    exact List.mem_cons_of_mem _ List.mem_cons_self
  have nested : NestedIn deepCall [.cond [] "and" [.call "deep" []] [], .call "deep" []] :=
    ⟨List.mem_cons_self, List.mem_cons_self, trivial⟩
  have leaves := described deepCall state _ _ _ _ ["if ()", "deep()"] raises runsOut nested rfl
  have ends : run exhaustingHost deepCall .absent state =
      .error (.script ⟨.tooDeep 2, ["if ()"]⟩) state := rfl
  rw [ends, EStateM.Result.error.injEq, Failure.script.injEq, ScriptError.mk.injEq] at leaves
  exact absurd leaves.1.2 (by decide)

end FilterScript
