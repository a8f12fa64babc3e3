import FilterScript.Proofs.Depth

/-! # Scripts one after the other

A script that is made of two parts runs the first part, and goes on with the second part in the
state that the first part has left, unless the first part has stopped. If it has, with a verdict or
with a failure, then nothing that follows has any part in the run (`run_append`).
-/

namespace FilterScript

variable {H : Extension} {host : Host H} {subject : Subject} {α β : Type}

/-! ## What follows in a journal -/

namespace Eval

variable {action : Eval H α} {next : α → Eval H β} {state : State H}

/-- What follows on a sequence follows on its second part after its first. -/
theorem onward_bind (more : β → State H → List (Moment H)) :
    (action >>= next).onward more state =
      action.onward (fun value between => (next value).onward more between) state := by
  cases result : action state with
  | ok value between =>
      rw [onward_of_ok result]
      simp only [onward, bind_of_ok result]
  | error failure between => rw [onward_of_error result, onward_of_error (bind_of_error result)]

/-- What follows in two parts follows part by part. -/
theorem onward_append (more other : α → State H → List (Moment H)) :
    action.onward (fun value between => more value between ++ other value between) state =
      action.onward more state ++ action.onward other state := by
  cases result : action state with
  | ok value between => simp only [onward_of_ok result]
  | error failure between => simp only [onward_of_error result, List.append_nil]

end Eval

/-! ## Blocks -/

/-- The statements of a block are executed up to a place and, unless they stop there, from there
on. -/
theorem executeAll_append (first rest : List (Statement H)) :
    executeAll host subject (first ++ rest) = (do
      let outcome ← executeAll host subject first
      if outcome.terminated then return outcome
      executeAll host subject rest) := by
  induction first with
  | nil =>
      simp only [List.nil_append, executeAll, pure_bind]
      rfl
  | cons statement others ih =>
      simp only [List.cons_append, executeAll, bind_assoc, ih]
      refine bind_congr fun _ => bind_congr fun outcome => ?_
      cases outcome with
      | proceed => rfl
      | terminate verdict => rfl

/-- What happens in a block happens up to a place and then, unless that is where it stops, from
there on. -/
theorem journalOfBlock_append (frames : Nat) (first rest : List (Statement H)) (state : State H) :
    journalOfBlock host subject frames (first ++ rest) state =
      journalOfBlock host subject frames first state ++
        (executeAll host subject first).onward
          (fun outcome between =>
            if outcome.terminated then []
            else journalOfBlock host subject frames rest between) state := by
  induction first generalizing state with
  | nil =>
      simp only [executeAll]
      rw [Eval.onward_of_ok (Eval.pure_apply _ state)]
      rfl
  | cons statement others ih =>
      simp only [List.cons_append, executeAll, journalOfBlock, Eval.onward_bind, List.append_assoc,
        ← Eval.onward_append]
      congr 2
      funext _ ready
      congr 3
      funext outcome next
      cases outcome with
      | proceed => exact ih next
      | terminate verdict => rfl

/-! ## Scripts -/

variable {first : List (Statement H)} {state between : State H}

/-- A run that proceeds leaves room for another, unless the host moves the depth or its limit. -/
theorem not_atLimit_of_run {outcome : Outcome} (behaves : host.Keeps SameDepth)
    (ends : run host first subject state = .ok outcome between) : ¬ between.AtLimit := by
  have same : SameDepth state ((run host first subject).final state) :=
    run_keeps steady_sameDepth behaves first state
  rw [Eval.final_of_ok ends] at same
  intro limit
  have full : state.AtLimit := by
    unfold State.AtLimit at limit ⊢
    rwa [same.1, same.2] at limit
  exact (Eval.nested_eq_ok ends).1 full

/-- A part that proceeds leaves the rest of the script as if it were run on its own. -/
theorem run_append_of_proceed (ends : run host first subject state = .ok .proceed between)
    (room : ¬ between.AtLimit) (rest : List (Statement H)) :
    run host (first ++ rest) subject state = run host rest subject between ∧
      journalOfRun host subject (first ++ rest) state =
        journalOfRun host subject first state ++ journalOfRun host subject rest between := by
  obtain ⟨start, inner, executed, rfl⟩ := Eval.nested_eq_ok ends
  constructor
  · refine Eval.nested_eq_nested start room ?_
    rw [executeAll_append, Eval.bind_of_ok executed, State.enter_leave]
    rfl
  · simp only [journalOfRun, start, room, ↓reduceIte, journalOfBlock_append,
      Eval.onward_of_ok executed, State.enter_leave]
    rfl

/-- A part that does not proceed is all that is run of a script. -/
theorem run_append_of_stop (stops : ∀ between, run host first subject state ≠ .ok .proceed between)
    (rest : List (Statement H)) :
    run host (first ++ rest) subject state = run host first subject state ∧
      journalOfRun host subject (first ++ rest) state = journalOfRun host subject first state := by
  by_cases limit : state.AtLimit
  · have refused (script : List (Statement H)) : run host script subject state = _ :=
      Eval.nested_of_atLimit limit
    simp only [refused, journalOfRun, limit, ↓reduceIte, and_self]
  · cases result : executeAll host subject first state.enter with
    | ok outcome inner =>
        cases outcome with
        | proceed => exact (stops _ (Eval.nested_of_ok limit result)).elim
        | terminate verdict =>
            constructor
            · refine Eval.nested_congr ?_
              rw [executeAll_append, Eval.bind_of_ok result]
              exact result.symm
            · simp only [journalOfRun, limit, ↓reduceIte, journalOfBlock_append,
                Eval.onward_of_ok result, Outcome.terminated, List.append_nil]
    | error failure inner =>
        constructor
        · refine Eval.nested_congr ?_
          rw [executeAll_append, Eval.bind_of_error result, result]
        · simp only [journalOfRun, limit, ↓reduceIte, journalOfBlock_append,
            Eval.onward_of_error result, List.append_nil]

/-- **Sequencing.** A script that is made of two parts runs the first part. If that proceeds, the
script ends as the second part does when it is run in the state that the first part has left, and
what happens in the script is what happens in the two runs. The state has to have room for a run,
and has it unless the host has moved the depth or its limit. If the first part ends with a verdict
or fails, the script ends in the same way and in the same state, and nothing else happens in it,
whatever the second part is. -/
theorem run_append (host : Host H) (first : List (Statement H)) (subject : Subject)
    (state : State H) :
    match run host first subject state with
    | .ok .proceed between =>
      (host.Keeps SameDepth → ¬ between.AtLimit) ∧
        (¬ between.AtLimit → ∀ rest,
          run host (first ++ rest) subject state = run host rest subject between ∧
            journalOfRun host subject (first ++ rest) state =
              journalOfRun host subject first state ++ journalOfRun host subject rest between)
    | stopped => ∀ rest,
      run host (first ++ rest) subject state = stopped ∧
        journalOfRun host subject (first ++ rest) state =
          journalOfRun host subject first state := by
  cases result : run host first subject state with
  | ok outcome between =>
      cases outcome with
      | proceed =>
          exact ⟨fun behaves => not_atLimit_of_run behaves result, run_append_of_proceed result⟩
      | terminate verdict =>
          intro rest
          rw [← result]
          refine run_append_of_stop ?_ rest
          intro between proceeds
          rw [result] at proceeds
          cases proceeds
  | error failure between =>
      intro rest
      rw [← result]
      refine run_append_of_stop ?_ rest
      intro between proceeds
      rw [result] at proceeds
      cases proceeds

/-- A host whose functions leave no room for another run. -/
def shrinkingHost : Host sampleExtension :=
  { sampleHost none with
    call := fun _ _ => do
      modify fun state => { state with maxDepth := 0 }
      return .null }

/-- That the state has room cannot be left out. The two parts together take one level, and the
second part on its own asks for one more when the first has lowered the limit. -/
theorem second_part_has_no_room_of_its_own :
    let shrink : List (Statement sampleExtension) := [.call "shrink" []]
    let decide : List (Statement sampleExtension) := [.verdict true]
    let state := sampleState [("shrink", .assign)] 0 5
    let between := { state with maxDepth := 0 }
    run shrinkingHost shrink .absent state = .ok .proceed between ∧
      run shrinkingHost (shrink ++ decide) .absent state = .ok (.terminate true) between ∧
      run shrinkingHost decide .absent between = .error (.ofCause (.tooDeep 0)) between := by
  intro shrink decide state between
  exact ⟨rfl, rfl, rfl⟩

/-- A script that sets a variable. -/
def settingScript : List (Statement sampleExtension) :=
  [.call "set" [.literal (.string "seen"), .literal (.int 1)]]

/-- A script that returns a verdict on the variable in a branch, before it calls a function that
there is not. -/
def decidingScript : List (Statement sampleExtension) :=
  [.cond [⟨.var "seen", "", none⟩] "and" [.verdict true] [], .call "nope" []]

/-- The second script finds the variable that the first one has set. Together they end with a
verdict, so nothing that follows has a part in their run. -/
theorem run_append_settingScript :
    let host := sampleHost (some (pure ()))
    let state := sampleState [("set", .assign)] 0 5
    let between := state.setVariable "seen" (.integer .int 1)
    run host settingScript .absent state = .ok .proceed between ∧ ¬ between.AtLimit ∧
      ∀ rest, run host ((settingScript ++ decidingScript) ++ rest) .absent state =
        .ok (.terminate true) between := by
  intro host state between
  have proceeds : run host settingScript .absent state = .ok .proceed between := rfl
  have law := run_append host settingScript .absent state
  rw [proceeds] at law
  have room : ¬ between.AtLimit := law.1 sampleHost_keeps_sameDepth
  have whole : run host (settingScript ++ decidingScript) .absent state =
      .ok (.terminate true) between := (law.2 room decidingScript).1
  have beyond := run_append host (settingScript ++ decidingScript) .absent state
  rw [whole] at beyond
  exact ⟨proceeds, room, fun rest => (beyond rest).1⟩

end FilterScript
