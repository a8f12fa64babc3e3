import FilterScript.Proofs.Depth
import FilterScript.Proofs.Following
import FilterScript.Proofs.Trail

/-! # The limit of nesting

The height of a script is the greatest number of blocks that can be open in it at once. A script
that is not higher than the room that is left is never refused for its depth; a run that is not
refused is the same under any higher limit; and a run that is refused is refused at the first block
past the limit, so that its trail has one description for every block that was open
(`run_depth_limit`).
-/

namespace FilterScript

variable {H : Extension} {host : Host H} {subject : Subject}

mutual

/-- How many blocks can be open at once inside a statement. -/
def Statement.height : Statement H → Nat
  | .cond _ _ whenTrue whenFalse => max (blockHeight whenTrue) (blockHeight whenFalse)
  | .verdict _ | .call _ _ | .inert _ | .host _ => 0

/-- How many blocks can be open at once while statements run as a block. -/
def blockHeight : List (Statement H) → Nat
  | [] => 1
  | statement :: rest => max (statement.height + 1) (blockHeight rest)

end

/-- Every block takes a level. -/
theorem blockHeight_pos (block : List (Statement H)) : 0 < blockHeight block := by
  cases block with
  | nil => simp only [blockHeight, Nat.lt_add_one]
  | cons statement rest =>
      simp only [blockHeight]
      omega

/-! ## Where blocks are refused -/

mutual

/-- Where a block is refused inside a statement, fewer blocks are open than the statement is high.
-/
theorem Statement.Raises.length_lt_height {statement : Statement H} {state last : State H}
    {path : List (Statement H)} {origin : Origin H} {raised : ScriptError}
    (refused : origin = .depth) :
    statement.Raises host subject state path origin raised last →
      path.length < statement.height
  | .test raises => (refused ▸ raises.inTest : Origin.InTest .depth).elim
  | .call raises => (refused ▸ raises.inTest : Origin.InTest .depth).elim
  | .host _ => nomatch refused
  | @Statement.Raises.branch _ _ _ _ _ _ _ _ found _ _ _ _ _ _ raises => by
      have inside := raises.length_lt_height refused
      simp only [Statement.height]
      cases found with
      | true => exact Nat.lt_of_lt_of_le inside (Nat.le_max_left _ _)
      | false => exact Nat.lt_of_lt_of_le inside (Nat.le_max_right _ _)

/-- Where a block is refused inside a block, fewer blocks are open than the outer one is high. -/
theorem BlockRaises.length_lt_height {block : List (Statement H)} {state last : State H}
    {path : List (Statement H)} {origin : Origin H} {raised : ScriptError}
    (refused : origin = .depth) :
    BlockRaises host subject block state path origin raised last →
      path.length < blockHeight block
  | .hook _ | .stack _ _ => nomatch refused
  | .statement _ raises => by
      have inside := Nat.succ_lt_succ (raises.length_lt_height refused)
      simp only [blockHeight]
      exact Nat.lt_of_lt_of_le inside (Nat.le_max_left _ _)
  | .later _ _ raises => by
      have inside := raises.length_lt_height refused
      simp only [blockHeight]
      exact Nat.lt_of_lt_of_le inside (Nat.le_max_right _ _)

/-- Where a block is refused, fewer blocks are open than the script is high. -/
theorem RunRaises.length_lt_height {script : List (Statement H)} {state last : State H}
    {path : List (Statement H)} {origin : Origin H} {raised : ScriptError}
    (refused : origin = .depth) :
    RunRaises host subject script state path origin raised last →
      path.length < blockHeight script
  | .limit _ => blockHeight_pos script
  | .block _ raises => raises.length_lt_height refused

end

/-- The error refuses a block that many levels below the state, which is one level too deep. -/
def RefusedBelow (state : State H) (levels : Int) (raised : ScriptError) : Prop :=
  raised = .ofCause (.tooDeep state.maxDepth) ∧ state.depth + levels = state.maxDepth

/-- A refusal is as many levels below every state with the same depth and limit. -/
theorem RefusedBelow.of_sameDepth {state other : State H} {levels : Int} {raised : ScriptError}
    (refused : RefusedBelow other levels raised) (same : SameDepth state other) :
    RefusedBelow state levels raised := by
  unfold RefusedBelow at refused ⊢
  rw [same.1, same.2] at refused
  exact refused

/-- An evaluation that leaves depth and limit alone does so in particular when it succeeds. -/
theorem Eval.Keeps.sameDepth_of_ok {α : Type} {action : Eval H α} (keeps : action.Keeps SameDepth)
    {state next : State H} {value : α} (succeeds : action state = .ok value next) :
    SameDepth state next := by
  have kept := keeps state
  rw [Eval.final_of_ok succeeds] at kept
  exact kept

theorem SameDepth.within {state other : State H} (same : SameDepth state other)
    (within : state.depth ≤ state.maxDepth) : other.depth ≤ other.maxDepth := by
  rw [same.1, same.2]
  exact within

mutual

/-- A block inside a statement is refused as many levels below as there are statements around it. -/
theorem Statement.Raises.refusedBelow {statement : Statement H} {state last : State H}
    {path : List (Statement H)} {origin : Origin H} {raised : ScriptError}
    (behaves : host.Keeps SameDepth) (refused : origin = .depth) :
    statement.Raises host subject state path origin raised last →
      state.depth ≤ state.maxDepth → RefusedBelow state path.length raised
  | .test raises, _ => (refused ▸ raises.inTest : Origin.InTest .depth).elim
  | .call raises, _ => (refused ▸ raises.inTest : Origin.InTest .depth).elim
  | .host _, _ => nomatch refused
  | .branch chosen raises, within => by
      have same := (Test.combine_keeps steady_sameDepth behaves _ _).sameDepth_of_ok chosen
      exact (raises.refusedBelow behaves refused (same.within within)).of_sameDepth same

/-- Inside a block that is open, one of the statements around does not count. -/
theorem BlockRaises.refusedBelow {block : List (Statement H)} {state last : State H}
    {path : List (Statement H)} {origin : Origin H} {raised : ScriptError}
    (behaves : host.Keeps SameDepth) (refused : origin = .depth) :
    BlockRaises host subject block state path origin raised last →
      state.depth ≤ state.maxDepth → RefusedBelow state (path.length - 1) raised
  | .hook _, _ | .stack _ _, _ => nomatch refused
  | @BlockRaises.statement _ _ _ statement _ _ _ path _ _ _ begun raises, within => by
      have same := (host.beforeStatement_keeps steady_sameDepth behaves).sameDepth_of_ok begun
      have inside := raises.refusedBelow behaves refused (same.within within)
      have levels : ((statement :: path).length : Int) - 1 = path.length := by
        simp only [List.length_cons]
        omega
      rw [levels]
      exact inside.of_sameDepth same
  | .later begun done raises, within => by
      have before := (host.beforeStatement_keeps steady_sameDepth behaves).sameDepth_of_ok begun
      have same := steady_sameDepth.trans before
        ((Statement.execute_keeps steady_sameDepth behaves _).sameDepth_of_ok done)
      exact (raises.refusedBelow behaves refused (same.within within)).of_sameDepth same

/-- A block is refused as soon as all levels that are left are taken by open blocks. -/
theorem RunRaises.refusedBelow {script : List (Statement H)} {state last : State H}
    {path : List (Statement H)} {origin : Origin H} {raised : ScriptError}
    (behaves : host.Keeps SameDepth) (refused : origin = .depth) :
    RunRaises host subject script state path origin raised last →
      state.depth ≤ state.maxDepth → RefusedBelow state path.length raised
  | .limit limit, within => by
      have full : state.maxDepth < state.depth + 1 := limit
      refine ⟨rfl, ?_⟩
      simp only [List.length_nil]
      omega
  | .block room raises, _ => by
      have fits : ¬ state.maxDepth < state.depth + 1 := room
      have entered : state.enter.depth ≤ state.enter.maxDepth := by
        simp only [State.enter]
        omega
      have inside := raises.refusedBelow behaves refused entered
      refine ⟨inside.1, ?_⟩
      have levels := inside.2
      simp only [State.enter] at levels
      omega

end

/-! ## A higher limit -/

/-- The second state has the same limit or a lower one, and is the same otherwise. -/
def LowerLimit (state state' : State H) : Prop :=
  { state with maxDepth := state'.maxDepth } = state' ∧ state'.maxDepth ≤ state.maxDepth

/-- A change that does not look at the limit leaves a lower limit lower. -/
theorem LowerLimit.of_change {state state' : State H} (lower : LowerLimit state state')
    (change : State H → State H)
    (blind : ∀ state limit, { change state with maxDepth := limit } =
      change { state with maxDepth := limit })
    (keeps : ∀ state, (change state).maxDepth = state.maxDepth) :
    LowerLimit (change state) (change state') := by
  unfold LowerLimit
  rw [keeps, keeps, blind]
  exact ⟨congrArg change lower.1, lower.2⟩

/-- Runs under a higher and a lower limit, as one run that follows another. The second one may be
stopped by its limit. -/
def limitedRuns (host : Host H) (respects : host.Respects LowerLimit)
    (hooks : ∀ hook, host.hook = some hook → InStep LowerLimit hook hook) (subject : Subject) :
    Following H where
  leader := host
  follower := host
  leaderSubject := subject
  followerSubject := subject
  related := LowerLimit
  knows := fun _ => True
  admits := fun _ => True
  shows := fun _ => true
  stops := (· = .depth)
  cuts := fun _ => False
  descriptions := rfl
  field := fun _ _ => rfl
  read := fun lower _ _ => by rw [← lower.1]; rfl
  lookup := fun lower _ _ _ => by rw [← lower.1]
  depth := fun lower => by rw [← lower.1]
  limit := by
    intro state state' lower limit
    have depths : state.depth = state'.depth := by rw [← lower.1]
    have full : state.maxDepth < state.depth + 1 := limit
    have less := lower.2
    change state'.maxDepth < state'.depth + 1
    omega
  room := fun _ _ => .inr rfl
  print := fun lower line => lower.of_change (·.print line) (fun _ _ => rfl) fun _ => rfl
  showing := fun lower line => .inl (by rw [← lower.1]; rfl)
  warn := fun lower message => lower.of_change (·.warn message) (fun _ _ => rfl) fun _ => rfl
  enter := fun lower => lower.of_change State.enter (fun _ _ => rfl) fun _ => rfl
  leave := fun lower => lower.of_change State.leave (fun _ _ => rfl) fun _ => rfl
  call := fun _ _ _ function _ _ => respects.call function
  resolve := fun operand _ => respects.resolve operand subject
  execute := fun statement _ => respects.execute statement subject
  hook := fun lower => .inl (Host.beforeStatement_inStep hooks _ _ lower)
  showsHook := fun _ => rfl

/-- **The limit of nesting.** Let the host neither change nor look at the depth and its limit, and
let a run start within the limit. If the script is not higher than the levels that are left, no
block is refused. If no block is refused, the run is the same under any higher limit: it ends in the
same way, in the same state, and the same happens in it. If a block is refused and the descriptions
are given, the run fails for the depth with one description for every level that was left. -/
theorem run_depth_limit (host : Host H) (behaves : host.Keeps SameDepth)
    (respects : host.Respects LowerLimit)
    (hooks : ∀ hook, host.hook = some hook → InStep LowerLimit hook hook)
    (script : List (Statement H)) (subject : Subject) (state : State H)
    (within : state.depth ≤ state.maxDepth) :
    (state.depth + blockHeight script ≤ state.maxDepth →
      ∀ path raised last, ¬ RunRaises host subject script state path .depth raised last) ∧
    ((∀ path raised last, ¬ RunRaises host subject script state path .depth raised last) →
      ∀ limit, state.maxDepth ≤ limit →
        Matched LowerLimit (run host script subject { state with maxDepth := limit })
            (run host script subject state) ∧
          (journalOfRun host subject script { state with maxDepth := limit }).map Moment.event =
            (journalOfRun host subject script state).map Moment.event) ∧
    (∀ path raised last, RunRaises host subject script state path .depth raised last →
      (∀ statement ∈ path, ∃ text, statement.describe host.descriptions = .ok text) →
        ∃ trail : List String, run host script subject state =
            .error (.script ⟨.tooDeep state.maxDepth, trail⟩) last ∧
          (trail.length : Int) = state.maxDepth - state.depth) := by
  refine ⟨?_, ?_, ?_⟩
  · intro fits path raised last raises
    have short := raises.length_lt_height rfl
    have long := (raises.refusedBelow behaves rfl within).2
    omega
  · intro unrefused limit more
    have follows := (limitedRuns host respects hooks subject).run script (fun _ _ => trivial)
      (fun _ _ => trivial)
      (show LowerLimit { state with maxDepth := limit } state from ⟨rfl, more⟩)
    rcases follows.matched_or_stopped (Following.not_cutOff fun _ => id) with
      ⟨ends, same⟩ | ⟨_, rfl, ⟨path, raised, last, raises⟩, _⟩
    · refine ⟨ends, ?_⟩
      rw [← shownEvents_all, ← shownEvents_all]
      exact same
    · exact (unrefused path raised last raises).elim
  · intro path raised last raises described
    obtain ⟨texts, given⟩ := described_of_forall described
    obtain ⟨rfl, levels⟩ := raises.refusedBelow behaves rfl within
    have lengths := congrArg List.length given
    rw [List.length_map, List.length_map] at lengths
    refine ⟨_, raises.run_eq_of_described given, ?_⟩
    simp only [ScriptError.ofCause, Origin.entry, List.append_nil, List.nil_append,
      List.length_reverse]
    omega

/-- Two conditions inside each other, so three blocks. -/
def threeDeep : List (Statement sampleExtension) :=
  [.cond [] "and" [.cond [] "and" [.verdict true] []] []]

/-- The functions of the small host cannot tell a lower limit from a higher one. -/
theorem sampleHost_respects_lowerLimit (hook : Option (Eval sampleExtension Unit)) :
    (sampleHost hook).Respects LowerLimit :=
  sampleHost_respects hook
    (fun lower name value =>
      lower.of_change (·.setVariable name value) (fun _ _ => rfl) fun _ => rfl)
    (fun lower name function =>
      lower.of_change (·.addFunction name function) (fun _ _ => rfl) fun _ => rfl)

/-- Three levels are enough for three blocks. With one level left the second block is refused, and
the trail has one description. -/
theorem run_depth_limit_threeDeep :
    let host := sampleHost (some (pure ()))
    (∀ path raised last,
      ¬ RunRaises host .absent threeDeep (sampleState [] 1 4) path .depth raised last) ∧
    ∃ trail : List String, run host threeDeep .absent (sampleState [] 1 2) =
        .error (.script ⟨.tooDeep 2, trail⟩) (sampleState [] 1 2) ∧
      trail.length = 1 := by
  intro host
  have hooks : ∀ hook, host.hook = some hook → InStep LowerLimit hook hook := by
    intro hook hooked
    cases hooked
    exact .pure ()
  have law (limit : Int) (within : 1 ≤ limit) :=
    run_depth_limit host sampleHost_keeps_sameDepth (sampleHost_respects_lowerLimit _) hooks
      threeDeep .absent (sampleState [] 1 limit) within
  constructor
  · exact (law 4 (by decide)).1 (by decide)
  · have full : (sampleState [] 1 2 : State sampleExtension).enter.AtLimit := by decide
    have inner : RunRaises host .absent [.cond [] "and" [.verdict true] []]
        (sampleState [] 1 2).enter [] .depth (.ofCause (.tooDeep 2)) (sampleState [] 1 2).enter :=
      .limit full
    have chosen : Test.combine host .absent "and" [] (sampleState [] 1 2).enter =
        .ok true (sampleState [] 1 2).enter := rfl
    have raises : RunRaises host .absent threeDeep (sampleState [] 1 2) threeDeep .depth
        (.ofCause (.tooDeep 2)) (sampleState [] 1 2) :=
      .block (by decide) (.statement rfl (.branch chosen inner))
    have described : ∀ statement ∈ threeDeep,
        ∃ text, statement.describe host.descriptions = .ok text := by
      intro statement member
      obtain rfl := List.mem_singleton.mp member
      exact ⟨"if ()", rfl⟩
    obtain ⟨trail, fails, levels⟩ := (law 2 (by decide)).2.2 _ _ _ raises described
    refine ⟨trail, fails, ?_⟩
    exact Int.ofNat.inj levels

end FilterScript
