import FilterScript.Proofs.Announcement
import FilterScript.Proofs.Following
import FilterScript.Proofs.SampleHost
import FilterScript.Proofs.Trail

/-! # Cancelled runs

A hook that counts its calls can cancel a run after a number of statements. Such a run is compared
with the run of the same script without a hook (`run_cancelled`). If the script does not begin more
statements than the hook lets, the hook makes no difference. Otherwise the run is cancelled after
exactly as many statements, and what has happened up to there is what happens first in the run
without a hook.

The count is kept by the host, next to whatever else it keeps. Nothing but the hook looks at it.
-/

namespace FilterScript

variable {H : Extension} {α : Type}

/-- The extension with a meter next to the state that the host keeps. -/
def Extension.metered (H : Extension) : Extension := { H with World := H.World × Nat }

namespace State

/-- What the meter of a state shows. -/
def meter (state : State H.metered) : Nat := state.world.2

/-- The state with the meter set. -/
def withMeter (state : State H.metered) (meter : Nat) : State H.metered :=
  { state with world := (state.world.1, meter) }

/-- The state after one more count. -/
def tick (state : State H.metered) : State H.metered := state.withMeter (state.meter + 1)

theorem Alike.meter {state other : State H.metered} (alike : state.Alike other) :
    state.meter = other.meter :=
  alike.part State.meter fun _ => rfl

end State

/-- The hook that counts its calls and cancels the run when it is called once more than the limit
says. -/
def countdown (limit : Nat) (message : String) : Eval H.metered Unit := do
  modify State.tick
  if (← get).meter = limit + 1 then Eval.fail (.cancelled message)

/-- The host with the hook that counts its calls. -/
def Host.counting (host : Host H.metered) (limit : Nat) (message : String) : Host H.metered :=
  { host with hook := some (countdown limit message) }

section

variable {limit : Nat} {message : String} {state : State H.metered}

/-- Once the meter shows the limit, the hook cancels the run, and counts this call as well. -/
theorem countdown_of_eq (used : state.meter = limit) :
    countdown limit message state = .error (.ofCause (.cancelled message)) state.tick := by
  have counted : state.tick.meter = limit + 1 := congrArg (· + 1) used
  unfold countdown
  rw [Eval.bind_of_ok (Eval.modify_apply State.tick state),
    Eval.bind_of_ok (Eval.get_apply state.tick)]
  simp only [counted, ↓reduceIte, Eval.fail_apply]

/-- While the meter does not show the limit, the hook counts the call and lets the run go on. -/
theorem countdown_of_ne (more : state.meter ≠ limit) :
    countdown limit message state = .ok () state.tick := by
  have counted : state.tick.meter ≠ limit + 1 := fun used => more (Nat.succ.inj used)
  unfold countdown
  rw [Eval.bind_of_ok (Eval.modify_apply State.tick state),
    Eval.bind_of_ok (Eval.get_apply state.tick)]
  simp only [counted, ↓reduceIte, Eval.pure_apply]

/-- If the hook refuses, the meter shows the limit, and the run is cancelled. -/
theorem countdown_eq_error {failure : Failure} {last : State H.metered}
    (refuses : countdown limit message state = .error failure last) :
    state.meter = limit ∧ failure = .ofCause (.cancelled message) := by
  by_cases used : state.meter = limit
  · rw [countdown_of_eq used] at refuses
    cases refuses
    exact ⟨used, rfl⟩
  · rw [countdown_of_ne used] at refuses
    cases refuses

theorem final_countdown : (countdown limit message).final state = state.tick := by
  by_cases used : state.meter = limit
  · exact Eval.final_of_error (countdown_of_eq used)
  · exact Eval.final_of_ok (countdown_of_ne used)

end

/-! ## The meter counts the calls of the hook -/

/-- The meter stays as it is. -/
def SameMeter (state other : State H.metered) : Prop := other.meter = state.meter

/-- The language does not touch the meter. -/
theorem steady_sameMeter : Steady (SameMeter (H := H)) where
  refl := fun _ => rfl
  trans := fun one two => Eq.trans two one
  print := fun _ _ => rfl
  warn := fun _ _ => rfl
  nested := fun _ inside => inside

section

variable {host : Host H.metered} {limit : Nat} {message : String} {subject : Subject}

/-- A moment moves the meter exactly if it is a call of the hook. -/
theorem Moment.left_meter (leaves : host.Keeps SameMeter) (moment : Moment H.metered) :
    (moment.left (host.counting limit message) subject).meter =
      moment.seen.meter + moment.event.callsHook.toNat := by
  obtain ⟨event, frames, seen⟩ := moment
  cases event with
  | hook => exact congrArg State.meter final_countdown
  | statement statement =>
      cases statement with
      | host statement => exact leaves.execute statement subject seen
      | _ => rfl
  | read name | lookup name => rfl
  | call function arguments => exact function.call_keeps steady_sameMeter leaves arguments seen
  | operand operand => exact leaves.resolve operand subject seen
  | warning message => rfl

/-- Between two states the meter has gone up by the calls of the hook. -/
theorem Connects.meter_eq (leaves : host.Keeps SameMeter) {first last : State H.metered}
    {journal : List (Moment H.metered)}
    (connects : Connects (host.counting limit message) subject first journal last) :
    last.meter = first.meter + hookCalls journal := by
  induction journal generalizing first with
  | nil => exact (State.Alike.meter connects).symm
  | cons moment rest ih =>
      have left : (moment.left (host.counting limit message) subject).meter =
          moment.seen.meter + moment.event.callsHook.toNat := moment.left_meter leaves
      have seen := connects.1.meter
      rw [ih connects.2, left, hookCalls_cons, ← seen]
      omega

/-- After a run the meter shows the calls of the hook in addition to what it has shown before. -/
theorem run_meter (leaves : host.Keeps SameMeter) (script : List (Statement H.metered))
    (state : State H.metered) :
    ((run (host.counting limit message) script subject).final state).meter = state.meter +
      hookCalls (journalOfRun (host.counting limit message) subject script state) :=
  (run_connects script state).meter_eq leaves

/-- A call of the hook that cancels the run is one more than the limit says, and the last one. -/
theorem hookCalls_of_refusal (leaves : host.Keeps SameMeter) {script : List (Statement H.metered)}
    {state seen last : State H.metered} {failure : Failure} {front : List (Moment H.metered)}
    {frames : Nat} (start : state.meter = 0)
    (split : journalOfRun (host.counting limit message) subject script state =
      front ++ [⟨.hook, frames, seen⟩])
    (refuses : (host.counting limit message).beforeStatement seen = .error failure last) :
    hookCalls (journalOfRun (host.counting limit message) subject script state) = limit + 1 := by
  have connects : Connects (host.counting limit message) subject state
      (journalOfRun (host.counting limit message) subject script state) _ :=
    run_connects script state
  have used : seen.meter = limit := (countdown_eq_error refuses).1
  rw [split] at connects ⊢
  have before : seen.meter = state.meter + hookCalls front := connects.split.1.meter_eq leaves
  have last : hookCalls [(⟨.hook, frames, seen⟩ : Moment H.metered)] = 1 := rfl
  rw [hookCalls_append, last]
  omega

end

/-! ## The run without a hook and the run that is counted -/

/-- The states are the same, except for the meter. -/
def SameButMeter (state state' : State H.metered) : Prop := state.withMeter state'.meter = state'

/-- A change that does not touch the meter leaves states the same but for the meter. -/
theorem SameButMeter.of_change {state state' : State H.metered} (same : SameButMeter state state')
    (change : State H.metered → State H.metered)
    (blind : ∀ state meter, (change state).withMeter meter = change (state.withMeter meter))
    (keeps : (change state').meter = state'.meter) :
    SameButMeter (change state) (change state') := by
  unfold SameButMeter
  rw [keeps, blind]
  exact congrArg change same

/-- Counting once more in the second state does not matter. -/
theorem SameButMeter.tick {state state' : State H.metered} (same : SameButMeter state state') :
    SameButMeter state state'.tick := by
  unfold SameButMeter at same ⊢
  rw [State.tick, ← same]
  rfl

/-- The states are the same, except for the meter, which has not gone past the limit in the second
one. -/
structure WithinLimit (limit : Nat) (state state' : State H.metered) : Prop where
  same : SameButMeter state state'
  within : state'.meter ≤ limit

namespace WithinLimit

variable {limit : Nat} {state state' : State H.metered}

/-- A change that does not touch the meter keeps the second state within the limit. -/
theorem of_change (start : WithinLimit limit state state')
    (change : State H.metered → State H.metered)
    (blind : ∀ state meter, (change state).withMeter meter = change (state.withMeter meter))
    (keeps : (change state').meter = state'.meter) :
    WithinLimit limit (change state) (change state') where
  same := start.same.of_change change blind keeps
  within := by
    rw [keeps]
    exact start.within

theorem atLimit_iff (start : WithinLimit limit state state') : state.AtLimit ↔ state'.AtLimit := by
  rw [← start.same]
  exact Iff.rfl

end WithinLimit

/-- What is in step whatever the meter shows, and leaves the meter alone, is in step within the
limit. -/
theorem InStep.withinLimit {limit : Nat} {action : Eval H.metered α}
    (inStep : InStep SameButMeter action action) (leaves : action.Keeps SameMeter) :
    InStep (WithinLimit limit) action action := by
  intro state state' start
  have matched := inStep state state' start.same
  have kept := leaves state'
  generalize ended : action state = result at matched
  generalize ended' : action state' = result' at matched
  cases matched with
  | ok value finals =>
      rw [Eval.final_of_ok ended'] at kept
      exact .ok value ⟨finals, kept ▸ start.within⟩
  | error failure finals =>
      rw [Eval.final_of_error ended'] at kept
      exact .error failure ⟨finals, kept ▸ start.within⟩

/-- The events that do not belong to the hook. -/
def scriptEvents (journal : List (Moment H)) : List (Event H) :=
  shownEvents (fun event => !event.callsHook) journal

theorem scriptEvents_append (front rest : List (Moment H)) :
    scriptEvents (front ++ rest) = scriptEvents front ++ scriptEvents rest :=
  shownEvents_append _ front rest

/-- The statements that are begun can be counted among the events that do not belong to the hook. -/
theorem statementsBegun_eq_countP (journal : List (Moment H)) :
    statementsBegun journal = (scriptEvents journal).countP Event.beginsStatement := by
  unfold scriptEvents shownEvents statementsBegun
  have other (event : Event H) :
      (event.beginsStatement && !event.callsHook) = event.beginsStatement := by
    cases event <;> rfl
  rw [List.countP_filter, List.countP_map]
  simp only [other]
  rfl

/-- The run without a hook and the run that is counted, as one run that follows another. The second
one may be stopped by its hook. -/
def countedRuns (host : Host H.metered) (unhooked : host.hook = none)
    (respects : host.Respects SameButMeter) (leaves : host.Keeps SameMeter) (limit : Nat)
    (message : String) (subject : Subject) : Following H.metered where
  leader := host
  follower := host.counting limit message
  leaderSubject := subject
  followerSubject := subject
  related := WithinLimit limit
  knows := fun _ => True
  admits := fun _ => True
  shows := fun event => !event.callsHook
  stops := (· = .hook)
  cuts := fun _ => False
  descriptions := rfl
  field := fun _ _ => rfl
  read := fun start _ _ => by rw [← start.same]; rfl
  lookup := fun start _ _ _ => by rw [← start.same]; rfl
  depth := fun start => by rw [← start.same]; rfl
  limit := fun start => start.atLimit_iff.mp
  room := fun start limit => .inl ⟨start.atLimit_iff.mpr limit, by rw [← start.same]; rfl⟩
  print := fun start line => start.of_change (·.print line) (fun _ _ => rfl) rfl
  showing := fun start line => .inl (by rw [← start.same]; rfl)
  warn := fun start message => start.of_change (·.warn message) (fun _ _ => rfl) rfl
  enter := fun start => start.of_change State.enter (fun _ _ => rfl) rfl
  leave := fun start => start.of_change State.leave (fun _ _ => rfl) rfl
  call := fun _ _ _ function _ _ arguments =>
    (respects.call function arguments).withinLimit (leaves.call function arguments)
  resolve := fun operand _ =>
    (respects.resolve operand subject).withinLimit (leaves.resolve operand subject)
  execute := fun statement _ =>
    (respects.execute statement subject).withinLimit (leaves.execute statement subject)
  hook := by
    intro state state' start
    rw [Host.beforeStatement_of_unhooked unhooked]
    by_cases used : state'.meter = limit
    · exact .inr ⟨rfl, unhooked, _, _, countdown_of_eq used⟩
    · have counted : (host.counting limit message).beforeStatement state' = .ok () state'.tick :=
        countdown_of_ne used
      rw [counted]
      have within : state'.meter + 1 ≤ limit := Nat.lt_of_le_of_ne start.within used
      exact .inl (.ok () ⟨start.same.tick, within⟩)
  showsHook := nofun

/-! ## Where the counted run is cancelled -/

mutual

/-- If an error of the hook is raised inside a statement, the hook has failed in some state. -/
theorem Statement.Raises.hook_fails {host : Host H} {subject : Subject} {statement : Statement H}
    {state last : State H} {path : List (Statement H)} {origin : Origin H} {raised : ScriptError}
    (refused : origin = .hook) :
    statement.Raises host subject state path origin raised last →
      ∃ seen left, host.beforeStatement seen = .error (.script raised) left
  | .test raises => (refused ▸ raises.inTest : Origin.InTest .hook).elim
  | .call raises => (refused ▸ raises.inTest : Origin.InTest .hook).elim
  | .host _ => nomatch refused
  | .branch _ raises => raises.hook_fails refused

/-- If an error of the hook is raised in a block, the hook has failed in some state. -/
theorem BlockRaises.hook_fails {host : Host H} {subject : Subject} {block : List (Statement H)}
    {state last : State H} {path : List (Statement H)} {origin : Origin H} {raised : ScriptError}
    (refused : origin = .hook) :
    BlockRaises host subject block state path origin raised last →
      ∃ seen left, host.beforeStatement seen = .error (.script raised) left
  | .hook fails => ⟨_, _, fails⟩
  | .stack _ _ => nomatch refused
  | .statement _ raises => raises.hook_fails refused
  | .later _ _ raises => raises.hook_fails refused

/-- An error of the hook is what the hook has failed with. -/
theorem RunRaises.hook_fails {host : Host H} {subject : Subject} {script : List (Statement H)}
    {state last : State H} {path : List (Statement H)} {origin : Origin H} {raised : ScriptError}
    (refused : origin = .hook) :
    RunRaises host subject script state path origin raised last →
      ∃ seen left, host.beforeStatement seen = .error (.script raised) left
  | .limit _ => nomatch refused
  | .block _ raises => raises.hook_fails refused

end

/-- Lines and what is shown are only added. -/
def Adds (state other : State H) : Prop :=
  state.output <+: other.output ∧ ∃ text, other.shown = state.shown ++ text

/-- The language only adds lines and what is shown. -/
theorem steady_adds : Steady (Adds (H := H)) where
  refl := fun state => ⟨List.prefix_refl state.output, "", (String.append_empty).symm⟩
  trans := by
    rintro first second third ⟨lines, text, shown⟩ ⟨lines', text', shown'⟩
    refine ⟨lines.trans lines', text ++ text', ?_⟩
    rw [shown', shown, String.append_assoc]
  print := fun state line =>
    ⟨List.prefix_append state.output [line], state.addsToShown line, state.print_shown line⟩
  warn := fun state message =>
    ⟨List.prefix_append state.output _, "", (String.append_empty).symm⟩
  nested := fun _ inside => inside

/-- The depth does not matter to lines and what is shown. -/
theorem State.Alike.adds {state other : State H} (alike : state.Alike other) :
    Adds state other := by
  have shown := alike.part State.shown fun _ => rfl
  refine ⟨⟨[], (List.append_nil _).trans alike.output⟩, "", ?_⟩
  rw [shown, String.append_empty]

/-- From any moment of a run on, lines and what is shown are only added. -/
theorem run_adds {host : Host H} (adds : host.Keeps Adds) {script : List (Statement H)}
    {subject : Subject} {state : State H} {front rest : List (Moment H)} {moment : Moment H}
    (split : journalOfRun host subject script state = front ++ moment :: rest) :
    Adds moment.seen ((run host script subject).final state) := by
  have connects : Connects host subject state (journalOfRun host subject script state) _ :=
    run_connects script state
  rw [split] at connects
  exact connects.kept_from steady_adds adds State.Alike.adds

/-- The statements in the branches of a statement are among its parts. -/
theorem Statement.parts_branches_subset (statement : Statement H) :
    partsOfBlock statement.branches ⊆ statement.parts := by
  cases statement with
  | cond tests combinator whenTrue whenFalse =>
      simp only [branches, partsOfBlock_append, parts]
      exact List.subset_cons_self _ _
  | verdict value | call name arguments | inert className | host statement =>
      exact List.nil_subset _

/-- The statements of a path occur in the block. -/
theorem NestedIn.subset_parts {block path : List (Statement H)} (nested : NestedIn block path) :
    path ⊆ partsOfBlock block := by
  induction path generalizing block with
  | nil => exact List.nil_subset _
  | cons statement inner ih =>
      obtain ⟨member, later⟩ := nested
      have parts := Statement.parts_subset_of_mem member
      refine List.cons_subset.mpr ⟨parts statement.mem_parts, ?_⟩
      exact List.Subset.trans (ih later) (List.Subset.trans statement.parts_branches_subset parts)

section

variable {host : Host H.metered} {limit : Nat} {message : String} {subject : Subject}
  {script : List (Statement H.metered)} {state last : State H.metered}

/-- A counted run that raises an error of its hook is cancelled. -/
theorem exists_cancelled {path : List (Statement H.metered)} {raised : ScriptError}
    (described : ∀ statement ∈ partsOfBlock script,
      ∃ text, statement.describe host.descriptions = .ok text)
    (raises : RunRaises (host.counting limit message) subject script state path .hook raised last) :
    ∃ trail, run (host.counting limit message) script subject state =
      .error (.script ⟨.cancelled message, trail⟩) last := by
  obtain ⟨seen, left, refuses⟩ := raises.hook_fails rfl
  have cancels := (countdown_eq_error refuses).2
  cases cancels
  have onPath : ∀ statement ∈ path, ∃ text, statement.describe host.descriptions = .ok text :=
    fun statement member => described statement (raises.nestedIn.subset_parts member)
  obtain ⟨texts, given⟩ := described_of_forall onPath
  exact ⟨_, raises.run_eq_of_described given⟩

/-- A counted run that the hook lets through is announced to its end, and begins no more statements
than the limit says. -/
theorem announced_of_matched (leaves : host.Keeps SameMeter) (start : state.meter = 0)
    (ends : Matched (WithinLimit limit) (run host script subject state)
      (run (host.counting limit message) script subject state)) :
    Announced (host.counting limit message) false
        (journalOfRun (host.counting limit message) subject script state) ∧
      statementsBegun (journalOfRun (host.counting limit message) subject script state) ≤
        limit := by
  have within := ends.final.within
  rw [run_meter leaves] at within
  obtain ⟨refused, announced⟩ : ∃ refused, Announced (host.counting limit message) refused
      (journalOfRun (host.counting limit message) subject script state) :=
    run_announced rfl script state
  have calls := announced.hookCalls_eq
  cases refused with
  | false =>
      refine ⟨announced, ?_⟩
      simp only [Bool.toNat_false] at calls
      omega
  | true =>
      obtain ⟨front, frames, seen, failure, last, split, refuses⟩ := announced.exists_refusal rfl
      have used := hookCalls_of_refusal leaves start split refuses
      omega

/-- A counted run that its hook stops is announced up to there, and has begun as many statements as
the limit says. The run without a hook has begun the same ones and goes on with another. -/
theorem announced_of_stopped (leaves : host.Keeps SameMeter) (start : state.meter = 0)
    {front rest front' : List (Moment H.metered)} {statement : Statement H.metered} {frames : Nat}
    {seen seen' after : State H.metered} {failure : Failure}
    (split : journalOfRun host subject script state =
      front ++ ⟨.statement statement, frames, seen⟩ :: rest)
    (split' : journalOfRun (host.counting limit message) subject script state =
      front' ++ [⟨.hook, frames, seen'⟩])
    (same : scriptEvents front = scriptEvents front')
    (refuses : (host.counting limit message).beforeStatement seen' = .error failure after) :
    Announced (host.counting limit message) true
        (journalOfRun (host.counting limit message) subject script state) ∧
      statementsBegun (journalOfRun (host.counting limit message) subject script state) = limit ∧
      limit < statementsBegun (journalOfRun host subject script state) ∧
      scriptEvents (journalOfRun (host.counting limit message) subject script state) =
        scriptEvents front := by
  obtain ⟨refused, announced⟩ : ∃ refused, Announced (host.counting limit message) refused
      (journalOfRun (host.counting limit message) subject script state) :=
    run_announced rfl script state
  have stopped := announced.refused_of_last split'
  subst stopped
  have calls := announced.hookCalls_eq
  rw [hookCalls_of_refusal leaves start split' refuses, Bool.toNat_true] at calls
  have begun := Nat.succ.inj calls
  -- The last call of the hook is the only event that the script has no share in.
  have events : scriptEvents (journalOfRun (host.counting limit message) subject script state) =
      scriptEvents front := by
    rw [split', same]
    exact (scriptEvents_append _ _).trans (List.append_nil _)
  refine ⟨announced, begun.symm, ?_, events⟩
  have counted : statementsBegun front = limit := by
    rw [statementsBegun_eq_countP, ← events, ← statementsBegun_eq_countP, ← begun]
  rw [split, statementsBegun_append, statementsBegun_cons, counted]
  simp only [Event.beginsStatement, Bool.toNat_true]
  omega

/-- The state in which the hook stops a counted run is left as it is, up to the depth. -/
theorem alike_of_stopped {front' : List (Moment H.metered)} {frames : Nat}
    {seen' : State H.metered}
    (split' : journalOfRun (host.counting limit message) subject script state =
      front' ++ [⟨.hook, frames, seen'⟩]) :
    seen'.tick.Alike ((run (host.counting limit message) script subject).final state) := by
  have connects : Connects (host.counting limit message) subject state
      (journalOfRun (host.counting limit message) subject script state) _ :=
    run_connects script state
  rw [split'] at connects
  have left : (countdown limit message).final seen' = seen'.tick := final_countdown
  rw [← left]
  exact connects.split.2

end

/-- **Cancelled runs.** Let the host neither look at the meter nor change it, let the descriptions
of a script be given, and compare its run without a hook with the run under a hook that counts and
cancels. The hook is called once right before each statement and at no other time, and these calls
are what it counts.

If the first run begins no more statements than the limit says, both end in the same way, in states
that differ in the meter alone, and the same happens in them. Otherwise the second run is cancelled
after as many statements as the limit says. What has happened in it is what happens in the first run
before that begins its next statement, and the states there are the same up to the meter and the
depth. If the host only adds lines and text, the lines and the text of the second run are therefore
the beginnings of those of the first. -/
theorem run_cancelled (host : Host H.metered) (unhooked : host.hook = none)
    (respects : host.Respects SameButMeter) (leaves : host.Keeps SameMeter) (limit : Nat)
    (message : String) (script : List (Statement H.metered))
    (described : ∀ statement ∈ partsOfBlock script,
      ∃ text, statement.describe host.descriptions = .ok text)
    (subject : Subject) (state : State H.metered) (start : state.meter = 0) :
    let counting := host.counting limit message
    let journal := journalOfRun host subject script state
    let journal' := journalOfRun counting subject script state
    Announced counting (decide (limit < statementsBegun journal)) journal' ∧
      ((run counting script subject).final state).meter = hookCalls journal' ∧
      (statementsBegun journal ≤ limit →
        Matched SameButMeter (run host script subject state) (run counting script subject state) ∧
          scriptEvents journal' = scriptEvents journal) ∧
      (limit < statementsBegun journal →
        ∃ trail last,
          run counting script subject state = .error (.script ⟨.cancelled message, trail⟩) last ∧
            statementsBegun journal' = limit ∧
            scriptEvents journal' <+: scriptEvents journal ∧
            (∃ front next rest reached, journal = front ++ next :: rest ∧
              next.event.beginsStatement = true ∧ scriptEvents journal' = scriptEvents front ∧
                SameButMeter next.seen reached ∧ reached.Alike last) ∧
            (host.Keeps Adds → Adds last ((run host script subject).final state))) := by
  intro counting journal journal'
  have first : WithinLimit limit state state := ⟨rfl, by omega⟩
  have counted : ((run counting script subject).final state).meter = hookCalls journal' := by
    rw [run_meter leaves, start, Nat.zero_add]
  have follows := (countedRuns host unhooked respects leaves limit message subject).run script
    (fun _ _ => trivial) (fun _ _ => trivial) first
  rcases follows.matched_or_stopped (Following.not_cutOff fun _ => id) with ⟨ends, same⟩ |
    ⟨_, rfl, ⟨path, raised, last, raises⟩, front, back, front', tail, split, split', same, stops⟩
  · have events : scriptEvents journal = scriptEvents journal' := same
    obtain ⟨announced, few⟩ := announced_of_matched leaves start ends
    have begun : statementsBegun journal ≤ limit := by
      rw [statementsBegun_eq_countP, events, ← statementsBegun_eq_countP]
      exact few
    have enough : ¬ limit < statementsBegun journal := Nat.not_lt.mpr begun
    refine ⟨?_, counted, ?_, fun more => (enough more).elim⟩
    · rw [decide_eq_false enough]
      exact announced
    · exact fun _ => ⟨ends.mono WithinLimit.same, events.symm⟩
  · cases stops with
    | @hook statement frames seen seen' after failure rest related refuses =>
        have going : journal = front ++ ⟨.statement statement, frames, seen⟩ :: rest := split
        have stopping : journal' = front' ++ [⟨.hook, frames, seen'⟩] := split'
        obtain ⟨announced, begun, more, events⟩ :=
          announced_of_stopped leaves start going stopping same refuses
        obtain ⟨trail, cancelled⟩ := exists_cancelled described raises
        have reached : seen'.tick.Alike last := by
          rw [← Eval.final_of_error cancelled]
          exact alike_of_stopped stopping
        have apart : SameButMeter seen seen'.tick := related.same.tick
        have first : scriptEvents journal' <+: scriptEvents journal := by
          rw [events, going, scriptEvents_append]
          exact List.prefix_append _ _
        refine ⟨?_, counted, fun few => absurd more (Nat.not_lt.mpr few), fun _ => ?_⟩
        · rw [decide_eq_true more]
          exact announced
        · refine ⟨trail, last, cancelled, begun, first,
            ⟨front, _, rest, _, going, rfl, events, apart, reached⟩, ?_⟩
          intro adds
          have onward : Adds seen ((run host script subject).final state) := run_adds adds going
          have back : Adds last seen'.tick := reached.symm.adds
          rw [← apart] at back
          exact steady_adds.trans back onward

/-- A host whose functions take away the lines that have been left, with a meter. -/
def clearingHost : Host sampleExtension.metered where
  descriptions := ⟨Empty.elim, Empty.elim⟩
  call := fun _ _ => do
    modify fun state => { state with output := [] }
    return .null
  resolve := fun operand _ => operand.elim
  execute := fun statement _ => statement.elim
  hook := none

theorem clearingHost_respects : clearingHost.Respects SameButMeter where
  call := by
    intro function arguments
    refine .bind (.modify_of ?_) fun _ => .pure _
    intro state state' same
    exact same.of_change (fun state => { state with output := [] }) (fun _ _ => rfl) rfl
  resolve := fun operand => operand.elim
  execute := fun statement => statement.elim

/-- That the host only adds lines, and that the meter starts at zero, cannot be left out. A function
that does not look at the meter may take away lines that are left when the run is cancelled; and
where the hook has been called before, the run is cancelled sooner. -/
theorem cleared_lines_are_no_beginning :
    let printing (text : String) : Statement sampleExtension.metered :=
      .call "print" [.literal (.string text)]
    let clearing := [printing "one", .call "clear" [], printing "two"]
    let state (meter : Nat) : State sampleExtension.metered :=
      { vars := [], functions := ("clear", .host .assign) :: Callable.builtins, maxDepth := 5
        quiet := true, depth := 0, output := [], shown := "", world := ((), meter) }
    (clearingHost.Respects SameButMeter ∧ clearingHost.Keeps SameMeter) ∧
    (statementsBegun (journalOfRun clearingHost .absent clearing (state 0)) = 3 ∧
      ((run clearingHost clearing .absent).final (state 0)).output = ["two"] ∧
      ((run (clearingHost.counting 1 "stop") clearing .absent).final (state 0)).output = ["one"] ∧
      ¬ ["one"] <+: ["two"]) ∧
    (statementsBegun (journalOfRun clearingHost .absent [.verdict true] (state 1)) = 1 ∧
      run clearingHost [.verdict true] .absent (state 1) = .ok (.terminate true) (state 1) ∧
      run (clearingHost.counting 1 "stop") [.verdict true] .absent (state 1) =
        .error (.script ⟨.cancelled "stop", []⟩) (state 2)) := by
  intro printing clearing state
  refine ⟨⟨clearingHost_respects, ?_⟩, ⟨rfl, rfl, rfl, by decide⟩, rfl, rfl, rfl⟩
  exact ⟨fun _ _ _ => rfl, fun operand => operand.elim, fun statement => statement.elim, nofun⟩

/-- A host whose functions keep their arguments in a variable, with a meter. -/
def keepingHost : Host sampleExtension.metered where
  descriptions := ⟨Empty.elim, Empty.elim⟩
  call := fun _ arguments => do
    modify (·.setVariable "kept" (.array arguments))
    return .null
  resolve := fun operand _ => operand.elim
  execute := fun statement _ => statement.elim
  hook := none

theorem keepingHost_respects : keepingHost.Respects SameButMeter where
  call := by
    intro function arguments
    refine .bind (.modify_of ?_) fun _ => .pure _
    intro state state' same
    exact same.of_change (·.setVariable "kept" (.array arguments)) (fun _ _ => rfl) rfl
  resolve := fun operand => operand.elim
  execute := fun statement => statement.elim

/-- What survives writing a variable and does not look at the hook is kept by the host. -/
theorem keepingHost_keeps
    {kept : State sampleExtension.metered → State sampleExtension.metered → Prop}
    (setVariable : ∀ state name value, kept state (state.setVariable name value)) :
    keepingHost.Keeps kept where
  call := fun _ arguments state => setVariable state "kept" (.array arguments)
  resolve := fun operand => operand.elim
  execute := fun statement => statement.elim
  hook := nofun

/-- A script that keeps something and prints, inside a condition and after it. -/
def keepingScript : List (Statement sampleExtension.metered) :=
  [.cond [] "and"
      [.call "keep" [.literal (.string "one")], .call "print" [.literal (.string "two")]] [],
    .call "print" [.literal (.string "three")]]

/-- The run is cancelled when the last of four statements is about to begin, and after one has been
begun in the branch. -/
theorem run_cancelled_keepingScript :
    let state : State sampleExtension.metered :=
      { vars := [], functions := ("keep", .host .assign) :: Callable.builtins, maxDepth := 5
        quiet := true, depth := 0, output := [], shown := "", world := ((), 0) }
    ∃ trail last, run (keepingHost.counting 3 "stop") keepingScript .absent state =
        .error (.script ⟨.cancelled "stop", trail⟩) last ∧
      statementsBegun
        (journalOfRun (keepingHost.counting 3 "stop") .absent keepingScript state) = 3 ∧
      last.output <+: ["two", "three"] := by
  intro state
  have described : ∀ statement ∈ partsOfBlock keepingScript,
      ∃ text, statement.describe keepingHost.descriptions = .ok text := by
    intro statement member
    have parts : partsOfBlock keepingScript = [keepingScript.head (by decide),
        .call "keep" [.literal (.string "one")], .call "print" [.literal (.string "two")],
        .call "print" [.literal (.string "three")]] := rfl
    rw [parts] at member
    simp only [List.mem_cons, List.not_mem_nil, or_false] at member
    rcases member with rfl | rfl | rfl | rfl
    · exact ⟨"if ()", rfl⟩
    · exact ⟨"keep('one')", rfl⟩
    · exact ⟨"print('two')", rfl⟩
    · exact ⟨"print('three')", rfl⟩
  have law := run_cancelled keepingHost rfl keepingHost_respects
    (keepingHost_keeps fun _ _ _ => rfl) 3 "stop" keepingScript described .absent state rfl
  have more : 3 < statementsBegun (journalOfRun keepingHost .absent keepingScript state) := by
    decide
  obtain ⟨trail, last, cancelled, begun, _, _, first⟩ := law.2.2.2 more
  have printed : ((run keepingHost keepingScript .absent).final state).output = ["two", "three"] :=
    rfl
  have adds := first (keepingHost_keeps fun state _ _ => steady_adds.refl state)
  refine ⟨trail, last, cancelled, begun, ?_⟩
  rw [← printed]
  exact adds.1

end FilterScript
