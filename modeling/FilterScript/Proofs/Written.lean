import FilterScript.Proofs.Journal

/-! # What a run writes

The output of a run consists of the lines that are written at its moments, in order
(`run_output`). Variables and functions are only written by the host, and what the host writes is
there from then on: every moment finds the tables that the latest event of the host before it has
left (`run_seesLatest`).
-/

namespace FilterScript

variable {H : Extension}

/-! ## Lines -/

/-- The output only grows. -/
def Extends (state other : State H) : Prop := state.output <+: other.output

/-- The language only adds lines to the output. -/
theorem steady_extends : Steady (Extends (H := H)) where
  refl := fun state => List.prefix_refl state.output
  trans := fun one two => List.IsPrefix.trans one two
  print := fun state line => List.prefix_append state.output [line]
  warn := fun state _ => List.prefix_append state.output _
  nested := fun _ inside => inside

/-- The lines that an evaluation writes. -/
def Eval.lines {α : Type} (action : Eval H α) (state : State H) : List String :=
  (action.final state).output.drop state.output.length

/-- The lines that an evaluation writes are what it adds to the output. -/
theorem Eval.Keeps.output_eq {α : Type} {action : Eval H α} (grows : action.Keeps Extends)
    (state : State H) :
    (action.final state).output = state.output ++ action.lines state := by
  obtain ⟨lines, more⟩ := grows state
  rw [Eval.lines, ← more, List.drop_left]

/-- The lines that are written at a moment: those that are printed, warnings, and what the host
writes. -/
def Moment.lines (host : Host H) (subject : Subject) (moment : Moment H) : List String :=
  match moment.event with
  | .call (.builtin .print) arguments => [String.join (arguments.map Value.render)]
  | .warning message => ["[evalfilter] Warning: " ++ message]
  | .call (.host function) arguments => (host.call function arguments).lines moment.seen
  | .operand operand => (host.resolve operand subject).lines moment.seen
  | .statement (.host statement) => (host.execute statement subject).lines moment.seen
  | .hook => host.beforeStatement.lines moment.seen
  | .call (.builtin _) _ | .statement _ | .read _ | .lookup _ => []

/-- Of the built-in functions only printing changes the state. -/
theorem Builtin.call_final (function : Builtin) (arguments : List Value) (state : State H) :
    (function.call arguments : Eval H Value).final state =
      if function = .print then state.print (String.join (arguments.map Value.render))
      else state := by
  unfold Builtin.call
  by_cases printing : function = .print
  · simp only [printing, ↓reduceIte]
    rw [Eval.final_bind_of_still fun _ => Eval.final_ofExcept _, Eval.final_print]
  · simp only [printing, ↓reduceIte]
    exact Eval.final_ofExcept _ state

section

variable {host : Host H} {subject : Subject}

/-- A moment leaves the output it found with its lines behind it. -/
theorem Moment.left_output (grows : host.Keeps Extends) (moment : Moment H) :
    (moment.left host subject).output = moment.seen.output ++ moment.lines host subject := by
  obtain ⟨event, frames, seen⟩ := moment
  cases event with
  | hook => exact (host.beforeStatement_keeps steady_extends grows).output_eq seen
  | statement statement =>
      cases statement with
      | host statement => exact (grows.execute statement subject).output_eq seen
      | _ => exact (List.append_nil _).symm
  | read name => exact (List.append_nil _).symm
  | lookup name => exact (List.append_nil _).symm
  | call function arguments =>
      cases function with
      | host function => exact (grows.call function arguments).output_eq seen
      | builtin function =>
          have called := congrArg State.output (function.call_final arguments seen)
          cases function with
          | print => exact called
          | _ => exact called.trans (List.append_nil _).symm
  | operand operand => exact (grows.resolve operand subject).output_eq seen
  | warning message => rfl

/-- Connected moments write their lines in order. -/
theorem Connects.output_eq (grows : host.Keeps Extends) {first last : State H}
    {journal : List (Moment H)} (connects : Connects host subject first journal last) :
    last.output = first.output ++ journal.flatMap (Moment.lines host subject) := by
  induction journal generalizing first with
  | nil =>
      rw [List.flatMap_nil, List.append_nil]
      exact (State.Alike.output connects).symm
  | cons moment rest ih =>
      rw [ih connects.2, moment.left_output grows, ← connects.1.output, List.flatMap_cons,
        List.append_assoc]

/-- **The output of a run.** If the host only adds lines, a run adds the lines that are written at
its moments, in order, whether it succeeds or fails. -/
theorem run_output (grows : host.Keeps Extends) (script : List (Statement H)) (state : State H) :
    ((run host script subject).final state).output =
      state.output ++
        (journalOfRun host subject script state).flatMap (Moment.lines host subject) :=
  (run_connects script state).output_eq grows

/-! ## Tables -/

/-- The event is left to the host. -/
def Event.ofHost : Event H → Bool
  | .hook | .statement (.host _) | .call (.host _) _ | .operand _ => true
  | .statement _ | .read _ | .lookup _ | .call (.builtin _) _ | .warning _ => false

/-- The states have the same variables and the same functions, in the same order. -/
def SameTables (state other : State H) : Prop :=
  state.vars = other.vars ∧ state.functions = other.functions

theorem State.Alike.sameTables {state other : State H} (alike : state.Alike other) :
    SameTables state other :=
  ⟨alike.vars, alike.functions⟩

theorem SameTables.trans {first second third : State H} (one : SameTables first second)
    (two : SameTables second third) : SameTables first third :=
  ⟨one.1.trans two.1, one.2.trans two.2⟩

/-- Whatever does not belong to the host leaves the tables alone. -/
theorem Moment.left_sameTables {moment : Moment H} (language : moment.event.ofHost = false) :
    SameTables (moment.left host subject) moment.seen := by
  obtain ⟨event, frames, seen⟩ := moment
  cases event with
  | hook => cases language
  | statement statement =>
      cases statement with
      | host statement => cases language
      | _ => exact ⟨rfl, rfl⟩
  | read name => exact ⟨rfl, rfl⟩
  | lookup name => exact ⟨rfl, rfl⟩
  | call function arguments =>
      cases function with
      | host function => cases language
      | builtin function =>
          have called : (function.call arguments : Eval H Value).final seen = _ :=
            function.call_final arguments seen
          have left : SameTables ((function.call arguments : Eval H Value).final seen) seen := by
            rw [called]
            split
            · exact ⟨rfl, rfl⟩
            · exact ⟨rfl, rfl⟩
          exact left
  | operand operand => cases language
  | warning message => exact ⟨rfl, rfl⟩

/-- The state that the latest event of the host has left, or the first state if there was none. -/
def latest (host : Host H) (subject : Subject) : State H → List (Moment H) → State H
  | first, [] => first
  | first, moment :: rest =>
    latest host subject (if moment.event.ofHost then moment.left host subject else first) rest

/-- Every moment finds the tables that the latest event of the host before it has left. -/
def SeesLatest (host : Host H) (subject : Subject) (first : State H)
    (journal : List (Moment H)) : Prop :=
  ∀ earlier moment later, journal = earlier ++ moment :: later →
    SameTables moment.seen (latest host subject first earlier)

/-- From state to state, every moment sees the tables that were left last. -/
theorem Connects.seesLatest {first last : State H} {journal : List (Moment H)}
    (connects : Connects host subject first journal last) :
    ∀ written, SameTables first written → SeesLatest host subject written journal := by
  -- `written` has the tables of the latest event of the host so far, which the language keeps.
  induction journal generalizing first with
  | nil =>
      intro written _ earlier moment later split
      cases earlier <;> cases split
  | cons head rest ih =>
      intro written same earlier moment later split
      have seen : SameTables head.seen written := connects.1.symm.sameTables.trans same
      cases earlier with
      | nil =>
          cases split
          exact seen
      | cons _ earlier =>
          cases split
          refine ih connects.2 _ ?_ earlier moment later rfl
          cases whose : head.event.ofHost with
          | true => exact ⟨rfl, rfl⟩
          | false => exact (Moment.left_sameTables whose).trans seen

/-- **What the host writes is seen.** Every moment of a run finds the variables and functions that
the latest event of the host in the run has left, or those that the run started with. -/
theorem run_seesLatest (script : List (Statement H)) (state : State H) :
    SeesLatest host subject state (journalOfRun host subject script state) :=
  (run_connects script state).seesLatest state ⟨rfl, rfl⟩

end

end FilterScript
