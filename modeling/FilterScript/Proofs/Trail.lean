import FilterScript.Proofs.OriginTrail
import FilterScript.Proofs.SampleHost

/-! # The trail of an error

An error takes the descriptions of the statements that are being executed with it, from the inside
out, each once. The entry of its origin comes first, and before that only what the host has put
there when the host raised the error. Every error that leaves a run is accounted for in this way
(`run_eq_error_iff`); when the descriptions are given the trail is written out by `run_error_trail`.
-/

namespace FilterScript

variable {H : Extension} {host : Host H} {subject : Subject}

namespace ScriptError

/-- The error after it has left statements that are listed from the outside in. -/
def leaveAll (descriptions : Descriptions H) (error : ScriptError) :
    List (Statement H) → ScriptError
  | [] => error
  | statement :: inner =>
    (error.leaveAll descriptions inner).leave (statement.describe descriptions)

end ScriptError

/-- A condition whose tests have been evaluated runs the branch that they choose. -/
theorem Statement.execute_of_chosen {tests : List (Test H)} {combinator : String}
    {whenTrue whenFalse : List (Statement H)} {state between : State H} {found : Bool}
    (chosen : Test.combine host subject combinator tests state = .ok found between) :
    (Statement.cond tests combinator whenTrue whenFalse).execute host subject state =
      run host (if found then whenTrue else whenFalse) subject between := by
  simp only [execute]
  rw [Eval.bind_of_ok chosen]
  cases found with
  | true => rfl
  | false => rfl

/-! ## What is raised leaves in this way -/

mutual

/-- A statement that raises an error ends with it and the descriptions of the way out. -/
theorem Statement.Raises.execute_eq {statement : Statement H} {state last : State H}
    {path : List (Statement H)} {origin : Origin H} {raised : ScriptError} :
    statement.Raises host subject state path origin raised last →
      statement.execute host subject state =
        .error (.script ((raised.extend origin.entry).leaveAll host.descriptions path)) last
  | .test raises => by
      simp only [Statement.execute]
      exact Eval.bind_of_error raises.combine_eq
  | .branch chosen raises => by
      rw [Statement.execute_of_chosen chosen]
      exact raises.run_eq
  | .call raises => by
      simp only [Statement.execute, raises.entry_eq_nil, ScriptError.extend_nil]
      exact Eval.bind_of_error raises.resolve_eq
  | .host fails => by
      simp only [Statement.execute, Origin.entry, ScriptError.extend_nil, ScriptError.leaveAll]
      exact fails

/-- A block that raises an error ends with it and the descriptions of the way out. -/
theorem BlockRaises.executeAll_eq {block : List (Statement H)} {state last : State H}
    {path : List (Statement H)} {origin : Origin H} {raised : ScriptError} :
    BlockRaises host subject block state path origin raised last →
      executeAll host subject block state =
        .error (.script ((raised.extend origin.entry).leaveAll host.descriptions path)) last
  | .hook fails => by
      simp only [executeAll, Origin.entry, ScriptError.extend_nil, ScriptError.leaveAll]
      exact Eval.bind_of_error fails
  | .statement begun raises => by
      simp only [executeAll]
      rw [Eval.bind_of_ok begun]
      exact Eval.bind_of_error (Eval.describing_of_error raises.execute_eq)
  | .stack begun exhausts => by
      simp only [executeAll]
      rw [Eval.bind_of_ok begun]
      exact Eval.bind_of_error (Eval.describing_of_error exhausts)
  | .later begun done raises => by
      simp only [executeAll]
      rw [Eval.bind_of_ok begun, Eval.bind_of_ok (Eval.describing_of_ok done)]
      exact raises.executeAll_eq

/-- A run that raises an error ends with it and the descriptions of the way out. -/
theorem RunRaises.run_eq {script : List (Statement H)} {state last : State H}
    {path : List (Statement H)} {origin : Origin H} {raised : ScriptError} :
    RunRaises host subject script state path origin raised last →
      run host script subject state =
        .error (.script ((raised.extend origin.entry).leaveAll host.descriptions path)) last
  | .limit limit => Eval.nested_of_atLimit limit
  | .block room raises => Eval.nested_of_error room raises.executeAll_eq

end

/-! ## What leaves was raised -/

/-- A block raises its error as a run if what happens in it is raised in the open block. -/
theorem raises_of_nested {block : List (Statement H)} {state last : State H} {error : ScriptError}
    (inside : ∀ inner, executeAll host subject block state.enter = .error (.script error) inner →
      ∃ path origin raised, BlockRaises host subject block state.enter path origin raised inner ∧
        error = (raised.extend origin.entry).leaveAll host.descriptions path)
    (fails : (executeAll host subject block).nested state = .error (.script error) last) :
    ∃ path origin raised, RunRaises host subject block state path origin raised last ∧
      error = (raised.extend origin.entry).leaveAll host.descriptions path := by
  rcases Eval.nested_eq_error fails with ⟨limit, same, rfl⟩ | ⟨room, inner, entered, rfl⟩
  · cases same
    exact ⟨[], .depth, _, .limit limit, rfl⟩
  · obtain ⟨path, origin, raised, raises, same⟩ := inside inner entered
    exact ⟨path, origin, raised, .block room raises, same⟩

mutual

/-- Every error of a statement is raised somewhere in it. -/
theorem Statement.raises_of_execute : (statement : Statement H) → {state last : State H} →
    {error : ScriptError} →
      statement.execute host subject state = .error (.script error) last →
        ∃ path origin raised, statement.Raises host subject state path origin raised last ∧
          error = (raised.extend origin.entry).leaveAll host.descriptions path
  | .cond tests combinator whenTrue whenFalse, state, last, error, fails => by
      simp only [Statement.execute] at fails
      rcases Eval.bind_eq_error_iff.mp fails with fails | ⟨found, between, chosen, fails⟩
      · obtain ⟨origin, raised, raises, same⟩ := Test.raises_of_combine fails
        exact ⟨[], origin, raised, .test raises, same⟩
      · cases found with
        | true =>
            obtain ⟨path, origin, raised, raises, same⟩ :=
              raises_of_nested (fun _ => raises_of_executeAll whenTrue) fails
            exact ⟨path, origin, raised, .branch chosen raises, same⟩
        | false =>
            obtain ⟨path, origin, raised, raises, same⟩ :=
              raises_of_nested (fun _ => raises_of_executeAll whenFalse) fails
            exact ⟨path, origin, raised, .branch chosen raises, same⟩
  | .verdict _, state, last, error, fails => by
      simp only [Statement.execute] at fails
      cases fails
  | .call name arguments, state, last, error, fails => by
      simp only [Statement.execute] at fails
      rcases Eval.bind_eq_error_iff.mp fails with fails | ⟨_, _, _, impossible⟩
      · obtain ⟨origin, raises⟩ := Operand.raises_of_resolve _ fails
        refine ⟨[], origin, error, .call raises, ?_⟩
        rw [raises.entry_eq_nil, ScriptError.extend_nil]
        rfl
      · cases impossible
  | .inert _, state, last, error, fails => by
      simp only [Statement.execute] at fails
      cases fails
  | .host statement, state, last, error, fails => by
      simp only [Statement.execute] at fails
      exact ⟨[], .statement statement, error, .host fails, (ScriptError.extend_nil error).symm⟩

/-- Every error of a block is raised somewhere in it. -/
theorem raises_of_executeAll : (block : List (Statement H)) → {state last : State H} →
    {error : ScriptError} → executeAll host subject block state = .error (.script error) last →
      ∃ path origin raised, BlockRaises host subject block state path origin raised last ∧
        error = (raised.extend origin.entry).leaveAll host.descriptions path
  | [], state, last, error, fails => by
      simp only [executeAll] at fails
      cases fails
  | statement :: rest, state, last, error, fails => by
      simp only [executeAll] at fails
      rcases Eval.bind_eq_error_iff.mp fails with fails | ⟨_, ready, begun, fails⟩
      · exact ⟨[], .hook, error, .hook fails, (ScriptError.extend_nil error).symm⟩
      · cases executed : statement.execute host subject ready with
        | ok outcome next =>
            rw [Eval.bind_of_ok (Eval.describing_of_ok executed)] at fails
            cases outcome with
            | terminate verdict => cases fails
            | proceed =>
                obtain ⟨path, origin, raised, raises, same⟩ := raises_of_executeAll rest fails
                exact ⟨path, origin, raised, .later begun executed raises, same⟩
        | error failure next =>
            rw [Eval.bind_of_error (Eval.describing_of_error executed)] at fails
            -- Besides errors, only a stack that ran out leaves a statement as an error.
            cases failure with
            | script inner =>
                obtain ⟨path, origin, raised, raises, rfl⟩ := statement.raises_of_execute executed
                cases fails
                exact ⟨statement :: path, origin, raised, .statement begun raises, rfl⟩
            | stackExhausted =>
                cases fails
                exact ⟨[], .stack, _, .stack begun executed, rfl⟩
            | _ => cases fails

end

/-- **Errors of a run.** The errors that leave a run are those that are raised in it, with the entry
of the origin and after leaving every statement that was being executed. -/
theorem run_eq_error_iff {script : List (Statement H)} {state last : State H}
    {error : ScriptError} :
    run host script subject state = .error (.script error) last ↔
      ∃ path origin raised, RunRaises host subject script state path origin raised last ∧
        error = (raised.extend origin.entry).leaveAll host.descriptions path := by
  constructor
  · exact raises_of_nested fun _ => raises_of_executeAll script
  · rintro ⟨path, origin, raised, raises, rfl⟩
    exact raises.run_eq

/-! ## The trail written out -/

/-- Descriptions that are given are added from the inside out. -/
theorem ScriptError.leaveAll_of_described {descriptions : Descriptions H} (error : ScriptError)
    {path : List (Statement H)} {texts : List String}
    (described : path.map (·.describe descriptions) = texts.map .ok) :
    error.leaveAll descriptions path = error.extend texts.reverse := by
  induction path generalizing texts with
  | nil =>
      obtain rfl := List.map_eq_nil_iff.mp described.symm
      exact (extend_nil error).symm
  | cons statement inner ih =>
      cases texts with
      | nil => cases described
      | cons text rest =>
          obtain ⟨first, others⟩ := List.cons.inj described
          have here : statement.describe descriptions = .ok text := first
          rw [leaveAll, ih others, here, List.reverse_cons]
          simp only [leave, addContext, extend, List.append_assoc]

/-- Descriptions that are given one by one are given together. -/
theorem described_of_forall {descriptions : Descriptions H} {path : List (Statement H)}
    (described : ∀ statement ∈ path, ∃ text, statement.describe descriptions = .ok text) :
    ∃ texts : List String, path.map (·.describe descriptions) = texts.map .ok := by
  induction path with
  | nil => exact ⟨[], rfl⟩
  | cons statement inner ih =>
      obtain ⟨text, here⟩ := described statement List.mem_cons_self
      obtain ⟨texts, others⟩ := ih fun other member =>
        described other (List.mem_cons_of_mem _ member)
      refine ⟨text :: texts, ?_⟩
      rw [List.map_cons, List.map_cons, others, here]

/-- The statements in the branches of a statement. -/
def Statement.branches : Statement H → List (Statement H)
  | .cond _ _ whenTrue whenFalse => whenTrue ++ whenFalse
  | _ => []

/-- The first statement stands in the block and each other one in a branch of the one before. -/
def NestedIn : List (Statement H) → List (Statement H) → Prop
  | _, [] => True
  | block, statement :: inner => statement ∈ block ∧ NestedIn statement.branches inner

/-- A path through a block is one through every larger block. -/
theorem NestedIn.mono {block other path : List (Statement H)} (nested : NestedIn block path)
    (subset : ∀ statement ∈ block, statement ∈ other) : NestedIn other path := by
  cases path with
  | nil => trivial
  | cons statement inner => exact ⟨subset statement nested.1, nested.2⟩

mutual

/-- What a statement raises is raised along a path through its branches. -/
theorem Statement.Raises.nestedIn {statement : Statement H} {state last : State H}
    {path : List (Statement H)} {origin : Origin H} {raised : ScriptError} :
    statement.Raises host subject state path origin raised last →
      NestedIn statement.branches path
  | .test _ | .call _ | .host _ => trivial
  | .branch _ raises => by
      refine raises.nestedIn.mono ?_
      intro inner member
      split at member
      · exact List.mem_append_left _ member
      · exact List.mem_append_right _ member

/-- What a block raises is raised along a path through the block. -/
theorem BlockRaises.nestedIn {block : List (Statement H)} {state last : State H}
    {path : List (Statement H)} {origin : Origin H} {raised : ScriptError} :
    BlockRaises host subject block state path origin raised last → NestedIn block path
  | .hook _ | .stack _ _ => trivial
  | .statement _ raises => ⟨List.mem_cons_self, raises.nestedIn⟩
  | .later _ _ raises => raises.nestedIn.mono fun _ => List.mem_cons_of_mem _

/-- What a run raises is raised along a path through the script. -/
theorem RunRaises.nestedIn {script : List (Statement H)} {state last : State H}
    {path : List (Statement H)} {origin : Origin H} {raised : ScriptError} :
    RunRaises host subject script state path origin raised last → NestedIn script path
  | .limit _ => trivial
  | .block _ raises => raises.nestedIn

end

mutual

/-- What the language raises in a statement has no context yet. -/
theorem Statement.Raises.trail_eq_nil {statement : Statement H} {state last : State H}
    {path : List (Statement H)} {origin : Origin H} {raised : ScriptError}
    (language : ¬ origin.ByHost) :
    statement.Raises host subject state path origin raised last → raised.trail = []
  | .test raises => raises.trail_eq_nil language
  | .branch _ raises => raises.trail_eq_nil language
  | .call raises => raises.trail_eq_nil language
  | .host _ => (language trivial).elim

/-- What the language raises in a block has no context yet. -/
theorem BlockRaises.trail_eq_nil {block : List (Statement H)} {state last : State H}
    {path : List (Statement H)} {origin : Origin H} {raised : ScriptError}
    (language : ¬ origin.ByHost) :
    BlockRaises host subject block state path origin raised last → raised.trail = []
  | .hook _ => (language trivial).elim
  | .statement _ raises => raises.trail_eq_nil language
  | .stack _ _ => rfl
  | .later _ _ raises => raises.trail_eq_nil language

/-- What the language raises in a run has no context yet. -/
theorem RunRaises.trail_eq_nil {script : List (Statement H)} {state last : State H}
    {path : List (Statement H)} {origin : Origin H} {raised : ScriptError}
    (language : ¬ origin.ByHost) :
    RunRaises host subject script state path origin raised last → raised.trail = []
  | .limit _ => rfl
  | .block _ raises => raises.trail_eq_nil language

end

/-- An error that is raised leaves a run with the entry of its origin and the descriptions of the
statements that were being executed, from the inside out. -/
theorem RunRaises.run_eq_of_described {script : List (Statement H)} {state last : State H}
    {path : List (Statement H)} {origin : Origin H} {raised : ScriptError} {texts : List String}
    (raises : RunRaises host subject script state path origin raised last)
    (described : path.map (·.describe host.descriptions) = texts.map .ok) :
    run host script subject state =
      .error (.script ⟨raised.cause, raised.trail ++ origin.entry ++ texts.reverse⟩) last := by
  rw [raises.run_eq, ScriptError.leaveAll_of_described _ described]
  rfl

/-- **The trail of an error.** Let an error be raised while the statements of a path are being
executed, each in a branch of the one before, and let their descriptions be given. The error leaves
the run with the entry of its origin and then these descriptions from the inside out, after what the
host has put there if the host raised it. Every error that leaves a run has been raised in this
sense. -/
theorem run_error_trail (host : Host H) (subject : Subject) (script : List (Statement H))
    (state last : State H) :
    (∀ path origin raised (texts : List String),
      RunRaises host subject script state path origin raised last →
      path.map (·.describe host.descriptions) = texts.map .ok →
        NestedIn script path ∧
        run host script subject state =
          .error (.script ⟨raised.cause, raised.trail ++ origin.entry ++ texts.reverse⟩) last ∧
        (¬ origin.ByHost → raised.trail = [])) ∧
    (∀ error, run host script subject state = .error (.script error) last →
      ∃ path origin raised, RunRaises host subject script state path origin raised last) := by
  constructor
  · intro path origin raised texts raises described
    exact ⟨raises.nestedIn, raises.run_eq_of_described described,
      fun language => raises.trail_eq_nil language⟩
  · intro error fails
    obtain ⟨path, origin, raised, raises, _⟩ := run_eq_error_iff.mp fails
    exact ⟨path, origin, raised, raises⟩

/-- A condition that relates two numbers by a symbol that is no operator. -/
def unrelated : Statement sampleExtension :=
  .cond [⟨.literal (.int 1), "<>", some (.literal (.int 2))⟩] "and" [] []

/-- A condition without tests around it. -/
def aroundUnrelated : Statement sampleExtension := .cond [] "and" [unrelated] []

/-- The sample script raises an unknown operator, two statements deep. -/
theorem aroundUnrelated_raises :
    RunRaises (sampleHost none) .absent [aroundUnrelated] (sampleState [] 0 5)
      [aroundUnrelated, unrelated] (.comparison (.integer .int 1) (.integer .int 2) "<>")
      (.ofCause (.unknownOperator "<>")) (sampleState [] 0 5) := by
  have inner : unrelated.Raises (sampleHost none) .absent (sampleState [] 2 5) []
      (.comparison (.integer .int 1) (.integer .int 2) "<>")
      (.ofCause (.unknownOperator "<>")) (sampleState [] 2 5) := by
    have earlier : Test.evalAll (sampleHost none) .absent [] (sampleState [] 2 5) =
        .ok true (sampleState [] 2 5) := rfl
    exact .test (.all earlier (.comparison (by decide) rfl rfl rfl rfl))
  have outer : aroundUnrelated.Raises (sampleHost none) .absent (sampleState [] 1 5) [unrelated]
      (.comparison (.integer .int 1) (.integer .int 2) "<>")
      (.ofCause (.unknownOperator "<>")) (sampleState [] 1 5) := by
    have chosen : Test.combine (sampleHost none) .absent "and" [] (sampleState [] 1 5) =
        .ok true (sampleState [] 1 5) := rfl
    exact .branch chosen (.block (by decide) (.statement rfl inner))
  exact .block (by decide) (.statement rfl outer)

/-- The trail of two conditions inside each other. -/
theorem run_error_trail_aroundUnrelated :
    [aroundUnrelated, unrelated].map (·.describe (sampleHost none).descriptions) =
        ["if ()", "if ('1' <> '2')"].map .ok ∧
      run (sampleHost none) [aroundUnrelated] .absent (sampleState [] 0 5) =
        .error (.script ⟨.unknownOperator "<>",
          ["test '1' <> '2'", "if ('1' <> '2')", "if ()"]⟩) (sampleState [] 0 5) := by
  have described : [aroundUnrelated, unrelated].map (·.describe (sampleHost none).descriptions) =
      ["if ()", "if ('1' <> '2')"].map .ok := by
    rfl
  have law := run_error_trail (sampleHost none) .absent [aroundUnrelated] (sampleState [] 0 5)
    (sampleState [] 0 5)
  exact ⟨described, (law.1 _ _ _ _ aroundUnrelated_raises described).2.1⟩

end FilterScript
