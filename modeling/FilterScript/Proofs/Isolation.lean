import FilterScript.Proofs.Lockstep
import FilterScript.Proofs.SampleHost
import FilterScript.Proofs.Written
import FilterScript.Script.Session

/-! # Isolated runs

An interpreter hands nothing on from one run to the next but its output, which the next run
replaces. So a run replies what it would reply in a new interpreter that has been set up in the same
way, whatever was run before, as long as the host keeps no state of its own from which it could tell
the runs apart (`session_isolation`). The host may write variables and functions while a script
runs: these are the run's own.
-/

namespace FilterScript

variable {H : Extension}

/-! ## Hosts without a state of their own -/

/-- The states agree in everything but what the host keeps for itself. -/
def SameButWorld (state other : State H) : Prop := { state with world := other.world } = other

/-- A change that does not look at the world of the host keeps two states the same but for it. -/
theorem SameButWorld.of_change {state other : State H} (same : SameButWorld state other)
    (change : State H → State H)
    (blind : ∀ state world, { change state with world := world } =
      change { state with world := world })
    (keeps : (change other).world = other.world) :
    SameButWorld (change state) (change other) := by
  unfold SameButWorld
  rw [keeps, blind]
  exact congrArg change same

/-- What the host does is independent of what it keeps for itself, and there is no hook. -/
structure Host.Stateless (host : Host H) : Prop where
  call : ∀ function arguments,
    InStep SameButWorld (host.call function arguments) (host.call function arguments)
  resolve : ∀ operand subject,
    InStep SameButWorld (host.resolve operand subject) (host.resolve operand subject)
  execute : ∀ statement subject,
    InStep SameButWorld (host.execute statement subject) (host.execute statement subject)
  hook : host.hook = none

/-- A host without a state of its own does not let scripts see one. -/
theorem Host.Stateless.lockstep {host : Host H} (stateless : host.Stateless) :
    Lockstep host SameButWorld where
  read := fun same name => by rw [← same]
  lookup := fun same name => by rw [← same]
  depth := fun same => by rw [← same]
  maxDepth := fun same => by rw [← same]
  print := fun same line => same.of_change (·.print line) (fun _ _ => rfl) rfl
  showing := fun same line => by rw [← same]; rfl
  warn := fun same message => same.of_change (·.warn message) (fun _ _ => rfl) rfl
  enter := fun same => same.of_change State.enter (fun _ _ => rfl) rfl
  leave := fun same => same.of_change State.leave (fun _ _ => rfl) rfl
  call := stateless.call
  resolve := stateless.resolve
  execute := stateless.execute
  hook := by
    intro hook hooked
    rw [stateless.hook] at hooked
    cases hooked

/-! ## What a host has set up -/

namespace Interpreter

/-- The interpreter as it is before its first run: the script, the settings and the tables. -/
def fresh (interpreter : Interpreter H) : Interpreter H := { interpreter with output := [] }

/-- Interpreters that are set up in the same way start their runs in the same state, up to what the
host keeps for itself. -/
theorem initial_sameButWorld {interpreter other : Interpreter H}
    (same : interpreter.fresh = other.fresh) (world world' : H.World) :
    SameButWorld (interpreter.initial world) (other.initial world') := by
  have starts := congrArg (fun fresh => fresh.initial world') same
  exact starts

theorem script_eq {interpreter other : Interpreter H} (same : interpreter.fresh = other.fresh) :
    interpreter.script = other.script := by
  have scripts := congrArg Interpreter.script same
  exact scripts

theorem withOutput_eq {interpreter other : Interpreter H}
    (same : interpreter.fresh = other.fresh) (output : List String) :
    { interpreter with output := output } = { other with output := output } :=
  congrArg (fun fresh : Interpreter H => { fresh with output := output }) same

end Interpreter

namespace Session

variable {host : Host H} {session other : Session H} {subject : Subject} {reply : Outcome → Reply}
  {last : State H}

/-- A run that ends with an outcome answers with it and keeps the lines and the world that it has
left. -/
theorem start_of_ok {outcome : Outcome}
    (succeeds : run host session.interpreter.script subject
      (session.interpreter.initial session.world) = .ok outcome last) :
    session.start host subject reply =
      (⟨reply outcome, last.shown⟩,
        ⟨{ session.interpreter with output := last.output }, last.world⟩) := by
  simp only [start, Interpreter.execute, succeeds]

/-- A run that fails answers with the failure and keeps the lines and the world that it has left. -/
theorem start_of_error {failure : Failure}
    (fails : run host session.interpreter.script subject
      (session.interpreter.initial session.world) = .error failure last) :
    session.start host subject reply =
      (⟨.failed failure, last.shown⟩,
        ⟨{ session.interpreter with output := last.output }, last.world⟩) := by
  simp only [start, Interpreter.execute, fails]

/-- A run replaces the output of the interpreter by its own, and leaves the rest as it is. -/
theorem start_interpreter :
    (session.start host subject reply).2.interpreter =
      { session.interpreter with
        output := ((run host session.interpreter.script subject).final
          (session.interpreter.initial session.world)).output } := by
  cases result : run host session.interpreter.script subject
      (session.interpreter.initial session.world) with
  | ok outcome last => rw [start_of_ok result, Eval.final_of_ok result]
  | error failure last => rw [start_of_error result, Eval.final_of_error result]

/-- Sessions that are set up in the same way start runs that reply, show and write the same. -/
theorem start_eq_of_fresh (stateless : host.Stateless)
    (same : session.interpreter.fresh = other.interpreter.fresh) :
    (session.start host subject reply).1 = (other.start host subject reply).1 ∧
      (session.start host subject reply).2.interpreter =
        (other.start host subject reply).2.interpreter := by
  have scripts := Interpreter.script_eq same
  -- The two runs start in states that differ in the world alone, and stay in step from there.
  have matched : Matched SameButWorld
      (run host session.interpreter.script subject (session.interpreter.initial session.world))
      (run host session.interpreter.script subject (other.interpreter.initial other.world)) :=
    stateless.lockstep.run_inStep _ _ _ (Interpreter.initial_sameButWorld same _ _)
  generalize ended : run host session.interpreter.script subject
    (session.interpreter.initial session.world) = result at matched
  generalize ended' : run host session.interpreter.script subject
    (other.interpreter.initial other.world) = result' at matched
  rw [scripts] at ended'
  cases matched with
  | ok outcome finals =>
      rw [start_of_ok ended, start_of_ok ended', ← finals]
      exact ⟨rfl, Interpreter.withOutput_eq same _⟩
  | error failure finals =>
      rw [start_of_error ended, start_of_error ended', ← finals]
      exact ⟨rfl, Interpreter.withOutput_eq same _⟩

/-- A command that only configures does the same to sessions that are set up in the same way. -/
theorem perform_fresh_of_configures {command : Command H} (configures : command.configures = true)
    (same : session.interpreter.fresh = other.interpreter.fresh) :
    (session.perform host command).2.interpreter.fresh =
      (other.perform host command).2.interpreter.fresh := by
  cases command with
  | setVariable name native =>
      simp only [perform]
      cases Value.ofNative native with
      | ok value => exact congrArg (·.setVariable name value) same
      | error cause => exact same
  | addFunction name function => exact congrArg (·.addFunction name function) same
  | change flag => exact congrArg (·.change flag) same
  | run subject => cases configures
  | execute subject => cases configures

/-- A run leaves what the host has set up as it is. -/
theorem perform_fresh_of_runs {command : Command H} (runs : command.configures = false) :
    (session.perform host command).2.interpreter.fresh = session.interpreter.fresh := by
  cases command with
  | run subject =>
      simp only [perform]
      rw [start_interpreter]
      rfl
  | execute subject =>
      simp only [perform]
      rw [start_interpreter]
      rfl
  | setVariable name native => cases runs
  | addFunction name function => cases runs
  | change flag => cases runs

/-- After any commands an interpreter is set up as it would be without the runs among them. -/
theorem performAll_fresh (history : List (Command H))
    (same : session.interpreter.fresh = other.interpreter.fresh) :
    (session.performAll host history).interpreter.fresh =
      (other.performAll host (history.filter Command.configures)).interpreter.fresh := by
  induction history generalizing session other with
  | nil => exact same
  | cons command rest ih =>
      cases whether : command.configures with
      | true =>
          rw [List.filter_cons_of_pos whether]
          exact ih (perform_fresh_of_configures whether same)
      | false =>
          rw [List.filter_cons_of_neg (Bool.not_eq_true _ ▸ whether)]
          exact ih ((perform_fresh_of_runs whether).trans same)

/-- No command changes the script. -/
theorem perform_script (command : Command H) :
    (session.perform host command).2.interpreter.script = session.interpreter.script := by
  cases command with
  | setVariable name native =>
      simp only [perform]
      cases Value.ofNative native with
      | ok value => rfl
      | error cause => rfl
  | addFunction name function => rfl
  | change flag => rfl
  | run subject => exact Interpreter.script_eq (perform_fresh_of_runs rfl)
  | execute subject => exact Interpreter.script_eq (perform_fresh_of_runs rfl)

/-- No history of commands changes the script. -/
theorem performAll_script (history : List (Command H)) :
    (session.performAll host history).interpreter.script = session.interpreter.script := by
  induction history generalizing session with
  | nil => rfl
  | cons command rest ih => exact ih.trans (perform_script command)

/-- Sessions that are set up in the same way perform a run in the same way. -/
theorem perform_eq_of_fresh (stateless : host.Stateless) {command : Command H}
    (runs : command.configures = false)
    (same : session.interpreter.fresh = other.interpreter.fresh) :
    (session.perform host command).1 = (other.perform host command).1 ∧
      (session.perform host command).2.interpreter =
        (other.perform host command).2.interpreter := by
  cases command with
  | run subject =>
      have settings := congrArg Interpreter.settings same
      have verdicts : session.interpreter.verdict = other.interpreter.verdict := by
        funext outcome
        exact congrArg (fun settings : Settings => outcome.verdict?.getD settings.fallback) settings
      simp only [perform, verdicts]
      exact start_eq_of_fresh stateless same
  | execute subject => exact start_eq_of_fresh stateless same
  | setVariable name native => cases runs
  | addFunction name function => cases runs
  | change flag => cases runs

end Session

/-- **Runs are isolated.** Let the host keep no state of its own, and let it have done anything with
an interpreter. The next run of the interpreter replies, shows and writes what it would in a new
interpreter on which only the commands that set it up have been performed. It leaves the tables of
the interpreter as they are; the output that can be read afterwards is its own, line by line if the
host only adds lines; and within the run everything sees what the host has written last. -/
theorem session_isolation (host : Host H) (stateless : host.Stateless)
    (script : List (Statement H)) (settings : Settings) (world world' : H.World)
    (history : List (Command H)) (subject : Subject) (command : Command H)
    (asked : command = .run subject ∨ command = .execute subject) :
    let used := (Session.ofScript script settings world).performAll host history
    let new := (Session.ofScript script settings world').performAll host
      (history.filter Command.configures)
    let first := used.interpreter.initial used.world
    let after := (used.perform host command).2.interpreter
    (used.perform host command).1 = (new.perform host command).1 ∧
      after = (new.perform host command).2.interpreter ∧
      after.vars = used.interpreter.vars ∧ after.functions = used.interpreter.functions ∧
      after.output = ((run host script subject).final first).output ∧
      (host.Keeps Extends →
        after.output =
          (journalOfRun host subject script first).flatMap (Moment.lines host subject)) ∧
      SeesLatest host subject first (journalOfRun host subject script first) := by
  intro used new first after
  have runs : command.configures = false := by
    rcases asked with rfl | rfl
    · rfl
    · rfl
  have same : used.interpreter.fresh = new.interpreter.fresh := Session.performAll_fresh history rfl
  have alike := Session.perform_eq_of_fresh stateless runs same
  have kept : after.fresh = used.interpreter.fresh := Session.perform_fresh_of_runs runs
  have scripts : used.interpreter.script = script := Session.performAll_script history
  have output : after.output = ((run host script subject).final first).output := by
    have started : after = { used.interpreter with
        output := ((run host used.interpreter.script subject).final first).output } := by
      rcases asked with rfl | rfl
      · exact Session.start_interpreter
      · exact Session.start_interpreter
    rw [started, scripts]
  refine ⟨alike.1, alike.2, ?_, ?_, output, ?_, run_seesLatest script first⟩
  · have tables := congrArg Interpreter.vars kept
    exact tables
  · have tables := congrArg Interpreter.functions kept
    exact tables
  · intro grows
    rw [output, run_output grows script first]
    rfl

/-! ## A host in use -/

/-- The small host has no state of its own. -/
theorem sampleHost_stateless : (sampleHost none).Stateless :=
  { sampleHost_respects none
      (fun same name value => same.of_change (·.setVariable name value) (fun _ _ => rfl) rfl)
      (fun same name function => same.of_change (·.addFunction name function) (fun _ _ => rfl) rfl)
    with hook := rfl }

/-- A script that returns true if a variable is set already, and otherwise sets it and returns
false. -/
def tellingScript : List (Statement sampleExtension) :=
  [.cond [⟨.var "seen", "", none⟩] "and" [.verdict true] [],
    .call "set" [.literal (.string "seen"), .literal (.int 1)],
    .cond [⟨.var "seen", "", none⟩] "and" [.verdict false] [.verdict true]]

/-- Two runs of the script in one session: the second one does not tell that there was a first. -/
theorem session_isolation_tellingScript :
    let used := (Session.ofScript tellingScript .standard ()).performAll (sampleHost none)
      [.addFunction "set" .assign, .run .absent]
    (used.perform (sampleHost none) (.run .absent)).1 = ⟨.verdict false, ""⟩ ∧
      (used.perform (sampleHost none) (.run .absent)).2.interpreter.vars = [] := by
  intro used
  have law := session_isolation (sampleHost none) sampleHost_stateless tellingScript .standard () ()
    [.addFunction "set" .assign, .run .absent] .absent (.run .absent) (.inl rfl)
  refine ⟨law.1.trans ?_, law.2.2.1.trans ?_⟩
  · rfl
  · rfl

end FilterScript
