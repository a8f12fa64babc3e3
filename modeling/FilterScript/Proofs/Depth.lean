import FilterScript.Proofs.MomentInvariant
import FilterScript.Proofs.SampleHost

/-! # The depth discipline

The depth counts the open blocks. It grows by one when a block is entered and is restored when the
block is left, whichever way that is, provided that the host leaves the depth and its limit alone.
Hence every hook call, every statement and every function call finds the depth that the run started
with plus the number of open blocks, and finds it within the limit (`run_depth_discipline`).
-/

namespace FilterScript

variable {H : Extension}

/-- The depth and its limit stay as they are. -/
def SameDepth (state other : State H) : Prop :=
  other.depth = state.depth ∧ other.maxDepth = state.maxDepth

/-- The language leaves depth and limit as they were. -/
theorem steady_sameDepth : Steady (SameDepth (H := H)) where
  refl := fun _ => ⟨rfl, rfl⟩
  trans := by
    intro first second third one two
    exact ⟨two.1.trans one.1, two.2.trans one.2⟩
  print := fun _ _ => ⟨rfl, rfl⟩
  warn := fun _ _ => ⟨rfl, rfl⟩
  nested := by
    intro state inner _ inside
    refine ⟨?_, inside.2⟩
    have entered : inner.depth = state.depth + 1 := inside.1
    simp only [State.leave, entered, Int.add_sub_cancel]

/-- The depth is the one at the start plus the number of open blocks, and within the limit, which is
the one at the start. -/
structure AtLevel (start : State H) (frames : Nat) (state : State H) : Prop where
  depth : state.depth = start.depth + frames
  within : state.depth ≤ state.maxDepth
  limit : state.maxDepth = start.maxDepth

namespace AtLevel

variable {start state other : State H} {frames : Nat}

/-- A change that leaves depth and limit alone leaves the level as it is. -/
theorem of_sameDepth (level : AtLevel start frames state) (same : SameDepth state other) :
    AtLevel start frames other where
  depth := same.1.trans level.depth
  within := by
    rw [same.1, same.2]
    exact level.within
  limit := same.2.trans level.limit

/-- A block that is entered is one level deeper, and within the limit. -/
theorem enter (level : AtLevel start frames state) (room : ¬ state.AtLimit) :
    AtLevel start (frames + 1) state.enter where
  depth := by
    have before := level.depth
    simp only [State.enter]
    omega
  within := by
    have fits : ¬ state.maxDepth < state.depth + 1 := room
    simp only [State.enter]
    omega
  limit := level.limit

/-- A block that is left takes back its level. -/
theorem leave (level : AtLevel start (frames + 1) state) : AtLevel start frames state.leave where
  depth := by
    have before := level.depth
    simp only [State.leave]
    omega
  within := by
    have before := level.within
    simp only [State.leave]
    omega
  limit := level.limit

/-- The first block of a run that has room is at the first level. -/
theorem first (room : ¬ start.AtLimit) : AtLevel start 1 start.enter where
  depth := rfl
  within := by
    have fits : ¬ start.maxDepth < start.depth + 1 := room
    simp only [State.enter]
    omega
  limit := rfl

end AtLevel

/-- The level is an invariant of every moment when the host leaves the depth alone. -/
theorem momentInvariant_atLevel {host : Host H} (behaves : host.Keeps SameDepth)
    (start : State H) : MomentInvariant host (AtLevel start) where
  steady :=
    { refl := fun _ _ level => level
      trans := fun one two frames level => two frames (one frames level)
      print := fun _ _ _ level => level.of_sameDepth ⟨rfl, rfl⟩
      warn := fun _ _ _ level => level.of_sameDepth ⟨rfl, rfl⟩
      nested := fun room inside frames level =>
        (inside (frames + 1) (level.enter room)).leave }
  behaves :=
    { call := fun function arguments state _ level =>
        level.of_sameDepth (behaves.call function arguments state)
      resolve := fun operand subject state _ level =>
        level.of_sameDepth (behaves.resolve operand subject state)
      execute := fun statement subject state _ level =>
        level.of_sameDepth (behaves.execute statement subject state)
      hook := fun hook hooked state _ level =>
        level.of_sameDepth (behaves.hook hook hooked state) }
  enter := fun _ _ level room => level.enter room

/-- What happens during a run: its own moments, and those of runs that the host starts at one of
them with the depth that it finds there. The blocks of such a run are open on top of the blocks that
are open already. -/
inductive During (host : Host H) (subject : Subject) (script : List (Statement H))
    (start : State H) : Moment H → Prop
  | own {moment : Moment H} (member : moment ∈ journalOfRun host subject script start) :
      During host subject script start moment
  | started {outer inner : Moment H} {other : Host H} {subject' : Subject}
      {script' : List (Statement H)} {state : State H}
      (during : During host subject script start outer) (behaves : other.Keeps SameDepth)
      (found : SameDepth outer.seen state)
      (member : inner ∈ journalOfRun other subject' script' state) :
      During host subject script start { inner with frames := outer.frames + inner.frames }

/-- Every moment of a run finds the level of its block. -/
theorem atLevel_of_mem_journalOfRun {host : Host H} (behaves : host.Keeps SameDepth)
    {subject : Subject} {script : List (Statement H)} {start : State H} {moment : Moment H}
    (member : moment ∈ journalOfRun host subject script start) :
    AtLevel start moment.frames moment.seen :=
  (momentInvariant_atLevel behaves start).run script AtLevel.first moment member

/-- Every moment during a run finds the level of its block, also if it belongs to a run that the
host has started. -/
theorem During.atLevel {host : Host H} (behaves : host.Keeps SameDepth) {subject : Subject}
    {script : List (Statement H)} {start : State H} {moment : Moment H}
    (during : During host subject script start moment) :
    AtLevel start moment.frames moment.seen := by
  induction during with
  | own member => exact atLevel_of_mem_journalOfRun behaves member
  | @started outer inner other subject' script' state _ behaves found member ih =>
      have level : AtLevel state inner.frames inner.seen :=
        atLevel_of_mem_journalOfRun behaves member
      -- The inner run starts at the level of the moment at which the host starts it.
      have base : AtLevel start outer.frames state := ih.of_sameDepth found
      constructor
      · have inside := level.depth
        have outside := base.depth
        simp only
        omega
      · exact level.within
      · exact level.limit.trans base.limit

/-- **The depth discipline.** If the host leaves the depth and its limit alone, a run restores the
depth however it ends, and at every moment during it, also in runs that the host starts, the depth
is the one at the start plus the number of open blocks and does not exceed the limit. -/
theorem run_depth_discipline (host : Host H) (behaves : host.Keeps SameDepth)
    (script : List (Statement H)) (subject : Subject) (state : State H) :
    ((run host script subject).final state).depth = state.depth ∧
      ∀ moment, During host subject script state moment →
        moment.seen.depth = state.depth + moment.frames ∧
          moment.seen.depth ≤ moment.seen.maxDepth ∧
          moment.seen.maxDepth = state.maxDepth := by
  refine ⟨(run_keeps steady_sameDepth behaves script state).1, ?_⟩
  intro moment during
  have level := during.atLevel behaves
  exact ⟨level.depth, level.within, level.limit⟩

theorem sampleHost_keeps_sameDepth : (sampleHost (some (pure ()))).Keeps SameDepth :=
  sampleHost_keeps (fun _ => ⟨rfl, rfl⟩) (fun _ _ _ => ⟨rfl, rfl⟩) fun _ _ _ => ⟨rfl, rfl⟩

/-- A run that starts at depth two and fails in a branch. -/
theorem run_depth_discipline_refusal :
    let host := sampleHost (some (pure ()))
    let script : List (Statement sampleExtension) := [.cond [] "and" [.call "stop" []] []]
    let state := sampleState [("stop", .refuse "no")] 2 5
    ((run host script .absent).final state).depth = 2 ∧
      ∃ moment, During host .absent script state moment ∧
        moment.event = .call (.host (.refuse "no")) [] ∧ moment.frames = 2 ∧
        moment.seen.depth = 4 ∧ moment.seen.depth ≤ moment.seen.maxDepth := by
  intro host script state
  have law := run_depth_discipline host sampleHost_keeps_sameDepth script .absent state
  have called : (⟨.call (.host (.refuse "no")) [], 2, state.enter.enter⟩ : Moment sampleExtension) ∈
      journalOfRun host .absent script state := by
    have journal : journalOfRun host .absent script state =
        [⟨.hook, 1, state.enter⟩,
          ⟨.statement (.cond [] "and" [.call "stop" []] []), 1, state.enter⟩,
          ⟨.hook, 2, state.enter.enter⟩, ⟨.statement (.call "stop" []), 2, state.enter.enter⟩,
          ⟨.lookup "stop", 2, state.enter.enter⟩,
          ⟨.call (.host (.refuse "no")) [], 2, state.enter.enter⟩] := by
      rfl
    rw [journal]
    simp only [List.mem_cons, or_true, true_or]
  have seen := law.2 _ (.own called)
  exact ⟨law.1, _, .own called, rfl, rfl, seen.1, seen.2.1⟩

end FilterScript
