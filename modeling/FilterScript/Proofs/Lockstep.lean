import FilterScript.Proofs.Following

/-! # Runs in step with each other

Two runs of a script from related states end in the same way in related states (`run_inStep`), and
the same happens in them (`run_events`), if the relation lets the language see the same in both
states, survives what the language does to both, and is respected by the host. What the relation
leaves open is thus invisible to scripts.
-/

namespace FilterScript

variable {H : Extension}

/-- A relation between states under which scripts of the host see the same. -/
structure Lockstep (host : Host H) (related : State H → State H → Prop) : Prop where
  read : ∀ {state state'}, related state state' → ∀ name,
    state.vars.get? name = state'.vars.get? name
  lookup : ∀ {state state'}, related state state' → ∀ name,
    state.functions.get? name = state'.functions.get? name
  depth : ∀ {state state'}, related state state' → state.depth = state'.depth
  maxDepth : ∀ {state state'}, related state state' → state.maxDepth = state'.maxDepth
  print : ∀ {state state'}, related state state' → ∀ line,
    related (state.print line) (state'.print line)
  showing : ∀ {state state'}, related state state' → ∀ line,
    state.showing line = state'.showing line
  warn : ∀ {state state'}, related state state' → ∀ message,
    related (state.warn message) (state'.warn message)
  enter : ∀ {state state'}, related state state' → related state.enter state'.enter
  leave : ∀ {state state'}, related state state' → related state.leave state'.leave
  call : ∀ function arguments,
    InStep related (host.call function arguments) (host.call function arguments)
  resolve : ∀ operand subject,
    InStep related (host.resolve operand subject) (host.resolve operand subject)
  execute : ∀ statement subject,
    InStep related (host.execute statement subject) (host.execute statement subject)
  hook : ∀ hook, host.hook = some hook → InStep related hook hook

namespace Lockstep

variable {related : State H → State H → Prop} {host : Host H}

/-- Runs from related states, as one run that follows another. Nothing stops the second one. -/
def following (lockstep : Lockstep host related) (subject : Subject) : Following H where
  leader := host
  follower := host
  leaderSubject := subject
  followerSubject := subject
  related := related
  knows := fun _ => True
  admits := fun _ => True
  shows := fun _ => true
  stops := fun _ => False
  cuts := fun _ => False
  descriptions := rfl
  field := fun _ _ => rfl
  read := by
    intro state state' start name _
    unfold State.variableValue
    rw [lockstep.read start name]
  lookup := fun start name _ _ => lockstep.lookup start name
  depth := lockstep.depth
  limit := by
    intro state state' start limit
    unfold State.AtLimit at limit ⊢
    rw [← lockstep.depth start, ← lockstep.maxDepth start]
    exact limit
  room := by
    intro state state' start limit
    unfold State.AtLimit at limit ⊢
    rw [← lockstep.depth start, ← lockstep.maxDepth start] at limit
    exact .inl ⟨limit, lockstep.maxDepth start⟩
  print := lockstep.print
  showing := fun start line => .inl (lockstep.showing start line)
  warn := lockstep.warn
  enter := lockstep.enter
  leave := lockstep.leave
  call := fun _ _ _ function _ _ => lockstep.call function
  resolve := fun operand _ => lockstep.resolve operand subject
  execute := fun statement _ => lockstep.execute statement subject
  hook := fun start => .inl (Host.beforeStatement_inStep lockstep.hook _ _ start)
  showsHook := fun _ => rfl

/-- **Runs in lockstep.** From related states a script runs in the same way, with the same outcome
or the same failure, to related states. -/
theorem run_inStep (lockstep : Lockstep host related) {subject : Subject}
    (script : List (Statement H)) :
    InStep related (run host script subject) (run host script subject) := by
  intro state state' start
  exact (lockstep.following subject).run_matched (fun _ => id) (fun _ => id) script
    (fun _ _ => trivial) (fun _ _ => trivial) start

/-- From related states the same happens while a script runs. -/
theorem run_events (lockstep : Lockstep host related) {subject : Subject}
    (script : List (Statement H)) {state state' : State H} (start : related state state') :
    (journalOfRun host subject script state).map Moment.event =
      (journalOfRun host subject script state').map Moment.event := by
  rcases ((lockstep.following subject).run script (fun _ _ => trivial) (fun _ _ => trivial)
    start).matched_or_stopped (Following.not_cutOff fun _ => id) with ⟨_, same⟩ | ⟨_, stopped, _⟩
  · rw [← shownEvents_all, ← shownEvents_all]
    exact same
  · exact stopped.elim

end Lockstep

end FilterScript
