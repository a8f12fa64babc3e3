import FilterScript.Proofs.Blindness
import FilterScript.Proofs.Trail

/-! # Conditions in line

A condition amounts to its tests followed by the statements of the branch that they choose, as if
these stood in its place. A script may therefore be run by a machine that has no blocks and no
descriptions, but one list of the statements that remain: a condition is replaced by its branch in
front of the rest, and the first verdict ends the run. The machine ends as a run of the script does,
up to the trail of an error and the depth (`run_inlined`), provided that nobody looks at the depth
and that a run does not end for being too deep.
-/

namespace FilterScript

variable {H : Extension} {host : Host H} {subject : Subject}

/-! ## The flat machine -/

mutual

/-- The number of statements in a statement, with itself. -/
def Statement.size : Statement H → Nat
  | .cond _ _ whenTrue whenFalse => blockSize whenTrue + blockSize whenFalse + 1
  | .verdict _ | .call _ _ | .inert _ | .host _ => 1

/-- The number of statements in a block and in the branches of its conditions. -/
def blockSize : List (Statement H) → Nat
  | [] => 0
  | statement :: rest => statement.size + blockSize rest

end

/-- The statements of two blocks are as many as those of both together. -/
theorem blockSize_append (block rest : List (Statement H)) :
    blockSize (block ++ rest) = blockSize block + blockSize rest := by
  induction block with
  | nil => simp only [List.nil_append, blockSize, Nat.zero_add]
  | cons statement others ih => simp only [List.cons_append, blockSize, ih, Nat.add_assoc]

/-- Runs the statements that remain, from a list that holds all of them. The branch of a condition
is put in front of the rest. -/
def runFlat (host : Host H) (subject : Subject) : List (Statement H) → Eval H Outcome
  | [] => return .proceed
  | .cond tests combinator whenTrue whenFalse :: rest => do
    if ← Test.combine host subject combinator tests then runFlat host subject (whenTrue ++ rest)
    else runFlat host subject (whenFalse ++ rest)
  | .verdict value :: _ => return .terminate value
  | .call name arguments :: rest => do
    let _ ← (Operand.call name arguments).resolve host subject
    runFlat host subject rest
  | .inert className :: _ => throw (.abstractStatement className)
  | .host statement :: rest => do
    let outcome ← host.execute statement subject
    if outcome.terminated then return outcome
    runFlat host subject rest
termination_by remaining => blockSize remaining
decreasing_by
  all_goals
    simp only [blockSize_append, blockSize, Statement.size]
    omega

/-! ## Ends that differ in the trail and the depth -/

/-- The failure without its trail, that is, its kind and its message. -/
def Failure.bare : Failure → Failure
  | .script error => .ofCause error.cause
  | failure => failure

/-- Two evaluations end with the same value, or with failures that differ in their trails alone, and
leave states that differ in the depth alone. -/
inductive EndsAlike {α : Type} :
    EStateM.Result Failure (State H) α → EStateM.Result Failure (State H) α → Prop
  | ok (value : α) {final final' : State H} (alike : final.Alike final') :
      EndsAlike (.ok value final) (.ok value final')
  | error {failure failure' : Failure} (same : failure.bare = failure'.bare)
      {final final' : State H} (alike : final.Alike final') :
      EndsAlike (.error failure final) (.error failure' final')

namespace EndsAlike

variable {α : Type} {one two three : EStateM.Result Failure (State H) α}

theorem symm (alike : EndsAlike one two) : EndsAlike two one := by
  cases alike with
  | ok value finals => exact .ok value finals.symm
  | error same finals => exact .error same.symm finals.symm

/-- What ends like what ends like a third ends like the third. -/
theorem trans (front : EndsAlike one two) (back : EndsAlike two three) : EndsAlike one three := by
  cases front with
  | ok value finals =>
      cases back with
      | ok _ others => exact .ok value (finals.trans others)
  | error same finals =>
      cases back with
      | error same' others => exact .error (same.trans same') (finals.trans others)

end EndsAlike

/-- The second evaluation does what the first does and, if that proceeds, goes on. -/
inductive Continues (next : Eval H Outcome) :
    EStateM.Result Failure (State H) Outcome → EStateM.Result Failure (State H) Outcome → Prop
  | proceed {final final' : State H} (alike : final.Alike final') :
      Continues next (.ok .proceed final) (next final')
  | terminate (verdict : Bool) {final final' : State H} (alike : final.Alike final') :
      Continues next (.ok (.terminate verdict) final) (.ok (.terminate verdict) final')
  | error {failure failure' : Failure} (same : failure.bare = failure'.bare)
      {final final' : State H} (alike : final.Alike final') :
      Continues next (.error failure final) (.error failure' final')

/-- After the same beginning it is enough that what follows continues. -/
theorem Continues.bind {α : Type} {next : Eval H Outcome} {action : Eval H α}
    {onward flat : α → Eval H Outcome} {state state' : State H}
    (matched : Matched State.Alike (action state) (action state'))
    (goOn : ∀ value between between', action state = .ok value between →
      between.Alike between' → Continues next (onward value between) (flat value between')) :
    Continues next ((action >>= onward) state) ((action >>= flat) state') := by
  generalize ended : action state = result at matched
  generalize ended' : action state' = result' at matched
  cases matched with
  | ok value finals =>
      rw [Eval.bind_of_ok ended, Eval.bind_of_ok ended']
      exact goOn value _ _ ended finals
  | error failure finals =>
      rw [Eval.bind_of_error ended, Eval.bind_of_error ended']
      exact .error rfl finals

/-- If there is nothing to go on with, the evaluations end alike. -/
theorem Continues.endsAlike {one two : EStateM.Result Failure (State H) Outcome}
    (continues : Continues (runFlat host subject []) one two) : EndsAlike one two := by
  rw [runFlat] at continues
  cases continues with
  | proceed alike => exact .ok _ alike
  | terminate verdict alike => exact .ok _ alike
  | error same alike => exact .error same alike

/-! ## Runs that nothing hinders -/

/-- An error that the script itself is to blame for: it is raised neither for the depth of a block
nor for the stack, and the statements that it leaves have descriptions. -/
structure Ordinary (descriptions : Descriptions H) (path : List (Statement H))
    (origin : Origin H) : Prop where
  depth : origin ≠ .depth
  stack : origin ≠ .stack
  described : ∀ statement ∈ path, ∃ text, statement.describe descriptions = .ok text

/-- No limit of depth is hit in the run, and no description is refused. -/
def Unhindered (host : Host H) (subject : Subject) (script : List (Statement H))
    (state : State H) : Prop :=
  ∀ {path origin raised last}, RunRaises host subject script state path origin raised last →
    Ordinary host.descriptions path origin

/-- No limit of depth is hit while the statement is executed, and no description is refused. -/
def Statement.Unhindered (host : Host H) (subject : Subject) (statement : Statement H)
    (state : State H) : Prop :=
  ∀ {path origin raised last}, statement.Raises host subject state path origin raised last →
    Ordinary host.descriptions path origin

/-- A run that ends with an outcome is not hindered. -/
theorem Unhindered.of_ok {script : List (Statement H)} {state last : State H} {outcome : Outcome}
    (ends : run host script subject state = .ok outcome last) :
    Unhindered host subject script state := by
  intro path origin raised inner raises
  rw [raises.run_eq] at ends
  cases ends

/-- A condition whose tests fail is not hindered. -/
theorem Statement.Unhindered.of_tests_fail {tests : List (Test H)} {combinator : String}
    {whenTrue whenFalse : List (Statement H)} {state between : State H} {failure : Failure}
    (fails : Test.combine host subject combinator tests state = .error failure between) :
    (Statement.cond tests combinator whenTrue whenFalse).Unhindered host subject state := by
  intro path origin raised last raises
  cases raises with
  | test raises =>
      have inTest := raises.inTest
      refine ⟨?_, ?_, List.forall_mem_nil _⟩
      · rintro rfl
        exact inTest
      · rintro rfl
        exact inTest
  | branch chosen raises =>
      rw [fails] at chosen
      cases chosen

/-- A condition is not hindered if the branch that is chosen is not. -/
theorem Statement.Unhindered.of_chosen {tests : List (Test H)} {combinator : String}
    {whenTrue whenFalse : List (Statement H)} {state between : State H} {found : Bool}
    (chosen : Test.combine host subject combinator tests state = .ok found between)
    (unhindered : FilterScript.Unhindered host subject (if found then whenTrue else whenFalse)
      between) :
    (Statement.cond tests combinator whenTrue whenFalse).Unhindered host subject state := by
  intro path origin raised last raises
  cases raises with
  | test raises =>
      rw [raises.combine_eq] at chosen
      cases chosen
  | branch chosen' raises =>
      rw [chosen] at chosen'
      cases chosen'
      exact unhindered raises

/-- A block of one statement is not hindered if the statement is not. -/
theorem Unhindered.single (unhooked : host.hook = none) {statement : Statement H} {state : State H}
    (room : ¬ state.AtLimit) (unhindered : statement.Unhindered host subject state.enter)
    (stack : ∀ last, statement.execute host subject state.enter ≠ .error .stackExhausted last)
    (described : ∃ text, statement.describe host.descriptions = .ok text) :
    Unhindered host subject [statement] state := by
  have begun := Host.beforeStatement_of_unhooked unhooked state.enter
  intro path origin raised last raises
  cases raises with
  | limit limit => exact (room limit).elim
  | block _ raises =>
      cases raises with
      | hook fails =>
          rw [begun] at fails
          cases fails
      | stack begun' exhausts =>
          rw [begun] at begun'
          cases begun'
          exact (stack _ exhausts).elim
      | later _ _ raises => cases raises
      | statement begun' raises =>
          rw [begun] at begun'
          cases begun'
          have ordinary := unhindered raises
          exact ⟨ordinary.depth, ordinary.stack,
            List.forall_mem_cons.mpr ⟨described, ordinary.described⟩⟩

/-- A failure that is described, and is no exhausted stack, takes the description with it. -/
theorem Failure.leaving_of_described {failure : Failure} (stack : failure ≠ .stackExhausted)
    (text : String) (depth : Int) :
    failure.leaving (.ok text) depth = failure.addContext text := by
  cases failure with
  | stackExhausted => exact (stack rfl).elim
  | _ => rfl

/-- Without its trail, a failure leaves a statement as it was raised. -/
theorem Failure.bare_leaving {failure : Failure} {description : Except Cause String}
    (stack : failure ≠ .stackExhausted)
    (described : ∀ error, failure = .script error → ∃ text, description = .ok text) (depth : Int) :
    (failure.leaving description depth).bare = failure.bare := by
  cases failure with
  | script error =>
      obtain ⟨text, rfl⟩ := described error rfl
      rfl
  | stackExhausted => exact (stack rfl).elim
  | _ => rfl

/-- A branch is entered and left again, which the flat machine does not do. -/
theorem Continues.nested {block : List (Statement H)} {next : Eval H Outcome} {state : State H}
    {whole : EStateM.Result Failure (State H) Outcome}
    (unhindered : Unhindered host subject block state)
    (inside : (∀ {path origin raised last},
        BlockRaises host subject block state.enter path origin raised last →
          Ordinary host.descriptions path origin) →
      Continues next (executeAll host subject block state.enter) whole) :
    Continues next ((executeAll host subject block).nested state) whole := by
  have room : ¬ state.AtLimit := fun limit => (unhindered (.limit limit)).depth rfl
  have continues := inside fun raises => unhindered (.block room raises)
  generalize entered : executeAll host subject block state.enter = result at continues
  cases continues with
  | proceed alike =>
      rw [Eval.nested_of_ok room entered]
      exact .proceed ((State.Alike.leave _).symm.trans alike)
  | terminate verdict alike =>
      rw [Eval.nested_of_ok room entered]
      exact .terminate verdict ((State.Alike.leave _).symm.trans alike)
  | error same alike =>
      rw [Eval.nested_of_error room entered]
      exact .error same ((State.Alike.leave _).symm.trans alike)

mutual

/-- A statement before others does what it does alone, and then the others follow. -/
theorem Statement.continues (unhooked : host.hook = none) (blind : host.Respects State.Alike) :
    (statement : Statement H) → {state state' : State H} →
    state.Alike state' →
      (∀ {path origin raised last},
        statement.Raises host subject state path origin raised last →
          Ordinary host.descriptions path origin) →
        ∀ rest, Continues (runFlat host subject rest) (statement.execute host subject state)
          (runFlat host subject (statement :: rest) state')
  | .cond tests combinator whenTrue whenFalse, state, state', alike, ordinary, rest => by
      rw [runFlat]
      simp only [Statement.execute]
      refine .bind (Test.combine_inStep (unseen_alike blind) combinator tests state state' alike) ?_
      intro found between between' chosen finals
      have entered : between.enter.Alike between' := (State.Alike.enter _).symm.trans finals
      cases found with
      | true =>
          refine .nested (fun raises => ordinary (.branch chosen raises)) fun inside => ?_
          exact executeAll_continues unhooked blind whenTrue entered inside rest
      | false =>
          refine .nested (fun raises => ordinary (.branch chosen raises)) fun inside => ?_
          exact executeAll_continues unhooked blind whenFalse entered inside rest
  | .verdict value, state, state', alike, _, rest => by
      rw [runFlat]
      simp only [Statement.execute]
      exact .terminate value alike
  | .call name arguments, state, state', alike, _, rest => by
      rw [runFlat]
      simp only [Statement.execute]
      refine .bind (Operand.resolve_inStep (unseen_alike blind) _ state state' alike) ?_
      exact fun _ _ _ _ finals => .proceed finals
  | .inert className, state, state', alike, _, rest => by
      rw [runFlat]
      simp only [Statement.execute]
      exact .error rfl alike
  | .host statement, state, state', alike, _, rest => by
      rw [runFlat]
      simp only [Statement.execute]
      have continues : Continues (runFlat host subject rest)
          ((host.execute statement subject >>= pure) state)
          ((host.execute statement subject >>= fun outcome =>
            if outcome.terminated then pure outcome else runFlat host subject rest) state') := by
        refine .bind (blind.execute statement subject state state' alike) ?_
        intro outcome between between' _ finals
        cases outcome with
        | proceed => exact .proceed finals
        | terminate verdict => exact .terminate verdict finals
      rwa [bind_pure] at continues

/-- A block before others does what it does alone, and then the others follow. -/
theorem executeAll_continues (unhooked : host.hook = none) (blind : host.Respects State.Alike) :
    (block : List (Statement H)) → {state state' : State H} →
    state.Alike state' →
      (∀ {path origin raised last},
        BlockRaises host subject block state path origin raised last →
          Ordinary host.descriptions path origin) →
        ∀ rest, Continues (runFlat host subject rest) (executeAll host subject block state)
          (runFlat host subject (block ++ rest) state')
  | [], state, state', alike, _, rest => by
      simp only [executeAll, List.nil_append]
      exact .proceed alike
  | statement :: others, state, state', alike, ordinary, rest => by
      have begun := Host.beforeStatement_of_unhooked unhooked state
      have first := statement.continues unhooked blind alike
        (fun raises => ⟨(ordinary (.statement begun raises)).depth,
          (ordinary (.statement begun raises)).stack, fun inner member =>
            (ordinary (.statement begun raises)).described inner (List.mem_cons_of_mem _ member)⟩)
        (others ++ rest)
      simp only [executeAll, List.cons_append]
      rw [Eval.bind_of_ok begun]
      generalize executed : statement.execute host subject state = result at first
      generalize runFlat host subject (statement :: (others ++ rest)) state' = whole at first ⊢
      cases first with
      | proceed finals =>
          rw [Eval.bind_of_ok (Eval.describing_of_ok executed)]
          exact executeAll_continues unhooked blind others finals
            (fun raises => ordinary (.later begun executed raises)) rest
      | terminate verdict finals =>
          rw [Eval.bind_of_ok (Eval.describing_of_ok executed)]
          exact .terminate verdict finals
      | error same finals =>
          rw [Eval.bind_of_error (Eval.describing_of_error executed)]
          refine .error ((Failure.bare_leaving ?_ ?_ _).trans same) finals
          · rintro rfl
            exact (ordinary (.stack begun executed)).stack rfl
          · rintro error rfl
            obtain ⟨path, origin, raised, raises, _⟩ := statement.raises_of_execute executed
            exact (ordinary (.statement begun raises)).described statement List.mem_cons_self

end

/-- The flat machine ends as a run does that nothing hinders. -/
theorem run_endsAlike_flat (unhooked : host.hook = none) (blind : host.Respects State.Alike)
    {script : List (Statement H)} {state : State H}
    (unhindered : Unhindered host subject script state) :
    EndsAlike (run host script subject state) (runFlat host subject script state) := by
  have continues : Continues (runFlat host subject []) (run host script subject state)
      (runFlat host subject (script ++ []) state) :=
    .nested unhindered fun inside =>
      executeAll_continues unhooked blind script (State.Alike.enter state).symm inside []
  rw [List.append_nil] at continues
  exact continues.endsAlike

/-! ## Scripts that begin with a condition -/

section

variable {tests : List (Test H)} {combinator : String} {whenTrue whenFalse : List (Statement H)}
  {rest : List (Statement H)} {state between : State H}

/-- Tests give the same one level deeper. -/
theorem combine_enter (blind : host.Respects State.Alike) :
    Matched State.Alike (Test.combine host subject combinator tests state)
      (Test.combine host subject combinator tests state.enter) :=
  Test.combine_inStep (unseen_alike blind) combinator tests _ _ (.enter state)

/-- A condition whose tests fail makes the script fail, with its description. -/
theorem run_cond_of_error (unhooked : host.hook = none) (blind : host.Respects State.Alike)
    (unhindered : Unhindered host subject (.cond tests combinator whenTrue whenFalse :: rest) state)
    {failure : Failure}
    (fails : Test.combine host subject combinator tests state = .error failure between)
    {text : String}
    (described : (Statement.cond tests combinator whenTrue whenFalse).describe host.descriptions =
      .ok text) :
    ∃ last, run host (.cond tests combinator whenTrue whenFalse :: rest) subject state =
      .error (failure.addContext text) last ∧ between.Alike last := by
  have room : ¬ state.AtLimit := fun limit => (unhindered (.limit limit)).depth rfl
  have begun := Host.beforeStatement_of_unhooked unhooked state.enter
  have matched : Matched State.Alike (Test.combine host subject combinator tests state) _ :=
    combine_enter blind
  rw [fails] at matched
  generalize failed : Test.combine host subject combinator tests state.enter = result at matched
  cases matched with
  | @error _ _ inner finals =>
      have executed : (Statement.cond tests combinator whenTrue whenFalse).execute host subject
          state.enter = .error failure inner := by
        simp only [Statement.execute]
        exact Eval.bind_of_error failed
      have stack : failure ≠ .stackExhausted := by
        rintro rfl
        exact (unhindered (.block room (.stack begun executed))).stack rfl
      have whole : executeAll host subject (.cond tests combinator whenTrue whenFalse :: rest)
          state.enter = .error (failure.addContext text) inner := by
        simp only [executeAll]
        rw [Eval.bind_of_ok begun, described,
          Eval.bind_of_error (Eval.describing_of_error executed),
          Failure.leaving_of_described stack]
      exact ⟨inner.leave, Eval.nested_of_error room whole, finals.trans (.leave inner)⟩

/-- The branch that is not chosen does not matter. -/
theorem run_cond_congr (unhooked : host.hook = none) (blind : host.Respects State.Alike)
    {found : Bool} (chosen : Test.combine host subject combinator tests state = .ok found between)
    {whenTrue' whenFalse' : List (Statement H)}
    (same : (if found then whenTrue' else whenFalse') = if found then whenTrue else whenFalse) :
    run host (.cond tests combinator whenTrue' whenFalse' :: rest) subject state =
      run host (.cond tests combinator whenTrue whenFalse :: rest) subject state := by
  have begun := Host.beforeStatement_of_unhooked unhooked state.enter
  have matched : Matched State.Alike (Test.combine host subject combinator tests state) _ :=
    combine_enter blind
  rw [chosen] at matched
  generalize ended : Test.combine host subject combinator tests state.enter = result at matched
  cases matched with
  | @ok _ _ inner finals =>
      have executed : (Statement.cond tests combinator whenTrue' whenFalse').execute host subject
          state.enter =
            (Statement.cond tests combinator whenTrue whenFalse).execute host subject
              state.enter := by
        rw [Statement.execute_of_chosen ended, Statement.execute_of_chosen ended, same]
      refine Eval.nested_congr ?_
      simp only [executeAll]
      rw [Eval.bind_of_ok begun, Eval.bind_of_ok begun]
      -- A condition is described by its tests alone.
      exact Eval.bind_congr (Eval.describing_congr executed) fun _ _ _ => rfl

end

/-- **Conditions in line.** Let there be no hook, and let nobody look at the depth. A run that
nothing hinders ends as the flat machine does, up to the trail of an error and the depth. In
particular, if the tests of a condition fail, so does a script that begins with it, with the
description of the condition added. Otherwise the script ends as the chosen branch with the rest of
the script behind it, run in the state that the tests have left; the other branch may be any. -/
theorem run_inlined (host : Host H) (unhooked : host.hook = none)
    (blind : host.Respects State.Alike) (subject : Subject) :
    (∀ script state, Unhindered host subject script state →
      EndsAlike (run host script subject state) (runFlat host subject script state)) ∧
    ∀ tests combinator whenTrue whenFalse rest state,
      Unhindered host subject (.cond tests combinator whenTrue whenFalse :: rest) state →
      match Test.combine host subject combinator tests state with
      | .error failure between =>
        ∀ text, (Statement.cond tests combinator whenTrue whenFalse).describe host.descriptions =
            .ok text →
          ∃ last, run host (.cond tests combinator whenTrue whenFalse :: rest) subject state =
            .error (failure.addContext text) last ∧ between.Alike last
      | .ok found between =>
        (Unhindered host subject ((if found then whenTrue else whenFalse) ++ rest) between →
          EndsAlike (run host (.cond tests combinator whenTrue whenFalse :: rest) subject state)
            (run host ((if found then whenTrue else whenFalse) ++ rest) subject between)) ∧
        ∀ whenTrue' whenFalse',
          (if found then whenTrue' else whenFalse') = (if found then whenTrue else whenFalse) →
            run host (.cond tests combinator whenTrue' whenFalse' :: rest) subject state =
              run host (.cond tests combinator whenTrue whenFalse :: rest) subject state := by
  refine ⟨fun script state => run_endsAlike_flat unhooked blind, ?_⟩
  intro tests combinator whenTrue whenFalse rest state unhindered
  cases result : Test.combine host subject combinator tests state with
  | error failure between =>
      exact fun text described => run_cond_of_error unhooked blind unhindered result described
  | ok found between =>
      refine ⟨fun unhindered' => ?_, fun _ _ => run_cond_congr unhooked blind result⟩
      have nested := run_endsAlike_flat unhooked blind unhindered
      have inlined := run_endsAlike_flat unhooked blind unhindered'
      have flat : runFlat host subject (.cond tests combinator whenTrue whenFalse :: rest) state =
          runFlat host subject ((if found then whenTrue else whenFalse) ++ rest) between := by
        rw [runFlat, Eval.bind_of_ok result]
        cases found with
        | true => rfl
        | false => rfl
      rw [flat] at nested
      exact nested.trans inlined.symm

/-! ## A script in line -/

theorem sampleHost_respects_alike : (sampleHost none).Respects State.Alike :=
  sampleHost_respects none
    (fun same name value => congrArg (State.setVariable · name value) same)
    (fun same name function => congrArg (State.addFunction · name function) same)

/-- A condition that sets a variable in the branch of a branch. -/
def settingBranch : List (Statement sampleExtension) :=
  [.cond [⟨.var "seen", "", none⟩] "and" [.verdict false]
    [.call "set" [.literal (.string "seen"), .literal (.int 1)]]]

/-- A verdict that depends on the variable. -/
def decidingRest : List (Statement sampleExtension) :=
  [.cond [⟨.var "seen", "", none⟩] "and" [.verdict true] [.call "nope" []]]

/-- A condition whose test calls a function that there is not. -/
def failingCondition : List (Statement sampleExtension) :=
  [.cond [⟨.call "nope" [], "", none⟩] "and" [.verdict true] []]

/-- Nothing hinders a condition whose test fails. -/
theorem failingCondition_unhindered :
    Unhindered (sampleHost none) .absent failingCondition (sampleState [] 0 5) := by
  refine Unhindered.single rfl (by decide) (Statement.Unhindered.of_tests_fail rfl) ?_
    ⟨"if (nope())", rfl⟩
  intro last exhausts
  cases exhausts

/-- The conditions stand inside each other and yet run as if they stood in line; and a test that
fails takes the description of its condition with it. -/
theorem run_inlined_settingBranch :
    let host := sampleHost none
    let state := sampleState [("set", .assign)] 1 4
    let script := .cond [] "and" settingBranch [] :: decidingRest
    EndsAlike (run host script .absent state) (runFlat host .absent script state) ∧
      EndsAlike (run host script .absent state)
        (run host (settingBranch ++ decidingRest) .absent state) ∧
      run host script .absent state =
        .ok (.terminate true) (state.setVariable "seen" (.integer .int 1)) ∧
      ∃ last, run host failingCondition .absent (sampleState [] 0 5) =
        .error (.script ⟨.unknownFunction "nope", ["if (nope())"]⟩) last := by
  intro host state script
  have law := run_inlined host rfl sampleHost_respects_alike .absent
  have ends : run host script .absent state =
      .ok (.terminate true) (state.setVariable "seen" (.integer .int 1)) := rfl
  have ends' : run host (settingBranch ++ decidingRest) .absent state =
      .ok (.terminate true) (state.setVariable "seen" (.integer .int 1)) := rfl
  have inlined := law.2 [] "and" settingBranch [] decidingRest state (Unhindered.of_ok ends)
  have failing := law.2 [⟨.call "nope" [], "", none⟩] "and" [.verdict true] [] []
    (sampleState [] 0 5) failingCondition_unhindered
  obtain ⟨last, fails, _⟩ := failing "if (nope())" rfl
  exact ⟨law.1 script state (Unhindered.of_ok ends), inlined.1 (Unhindered.of_ok ends'), ends, last,
    fails⟩

end FilterScript
