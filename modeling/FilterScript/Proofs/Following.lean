import FilterScript.Proofs.InStep
import FilterScript.Proofs.Journal
import FilterScript.Proofs.Occurrence
import FilterScript.Proofs.Raising

/-! # One run that follows another

Two runs of a script, a leading one and a following one, differ in what a relation between their
states leaves open, and perhaps in their hooks, their subjects and their limits. If the script sees
the same in related states, and the relation survives what the language and the hosts do to both
states, then the following run does what the leading run does: it ends in the same way, in a related
state, and the same happens in it (`Following.run`).

There are two exceptions. The following run may be stopped where the leading run goes on: by its
hook, or because it may not nest blocks as deeply. Then the same has happened in both runs up to
there. And it may be cut off where it prints a line that only the leading run can show.
-/

namespace FilterScript

variable {H : Extension} {α β : Type}

/-- The events of a journal that are shown, in order. -/
def shownEvents (shows : Event H → Bool) (journal : List (Moment H)) : List (Event H) :=
  (journal.map Moment.event).filter shows

@[simp] theorem shownEvents_append (shows : Event H → Bool) (journal rest : List (Moment H)) :
    shownEvents shows (journal ++ rest) = shownEvents shows journal ++ shownEvents shows rest := by
  simp only [shownEvents, List.map_append, List.filter_append]

theorem shownEvents_all (journal : List (Moment H)) :
    shownEvents (fun _ => true) journal = journal.map Moment.event :=
  List.filter_eq_self.mpr fun _ _ => rfl

/-- The states in which an event happens do not matter to what is shown of a journal. -/
theorem shownEvents_cons_congr {shows : Event H → Bool} {event : Event H} {frames : Nat}
    {state state' : State H} {journal journal' : List (Moment H)}
    (same : shownEvents shows journal = shownEvents shows journal') :
    shownEvents shows (⟨event, frames, state⟩ :: journal) =
      shownEvents shows (⟨event, frames, state'⟩ :: journal') := by
  simp only [shownEvents, List.map_cons, List.filter_cons] at same ⊢
  rw [same]

/-- Where the second run stops while the first one goes on, with what is left of either journal. The
hook of the second run refuses a statement that the first run begins without a hook, or the second
run does not enter a block. -/
inductive StopsAt (host : Host H) (related : State H → State H → Prop) :
    Origin H → List (Moment H) → List (Moment H) → Prop
  | hook {statement : Statement H} {frames : Nat} {seen seen' last : State H} {failure : Failure}
      {rest : List (Moment H)} (same : related seen seen')
      (refuses : host.beforeStatement seen' = .error failure last) :
      StopsAt host related .hook (⟨.statement statement, frames, seen⟩ :: rest)
        [⟨.hook, frames, seen'⟩]
  | depth {rest : List (Moment H)} : StopsAt host related .depth rest []

/-- Two runs of a script, and what they are compared by. -/
structure RunPair (H : Extension) where
  leader : Host H
  follower : Host H
  leaderSubject : Subject
  followerSubject : Subject
  /-- What the states of both runs have in common. -/
  related : State H → State H → Prop
  /-- The operands that may occur in a script. -/
  knows : Operand H → Prop
  /-- The statements that may occur in a script. -/
  admits : Statement H → Prop
  /-- The events that are compared. -/
  shows : Event H → Bool
  /-- What may stop the second run. -/
  stops : Origin H → Prop
  /-- The lines at which the second run may be cut off. -/
  cuts : String → Prop

/-- Whatever is needed for the second of two runs to follow the first. -/
structure RunPair.Lawful (pair : RunPair H) : Prop where
  descriptions : pair.leader.descriptions = pair.follower.descriptions
  field : ∀ name, pair.knows (.field name) →
    (pair.leaderSubject.field? name).getD .none = (pair.followerSubject.field? name).getD .none
  read : ∀ {state state'}, pair.related state state' → ∀ name, pair.knows (.var name) →
    state.variableValue name = state'.variableValue name
  lookup : ∀ {state state'}, pair.related state state' → ∀ name arguments,
    pair.knows (.call name arguments) → state.functions.get? name = state'.functions.get? name
  depth : ∀ {state state'}, pair.related state state' → state.depth = state'.depth
  limit : ∀ {state state'}, pair.related state state' → state.AtLimit → state'.AtLimit
  room : ∀ {state state'}, pair.related state state' → state'.AtLimit →
    state.AtLimit ∧ state.maxDepth = state'.maxDepth ∨ pair.stops .depth
  print : ∀ {state state'}, pair.related state state' → ∀ line,
    pair.related (state.print line) (state'.print line)
  showing : ∀ {state state'}, pair.related state state' → ∀ line,
    state.showing line = state'.showing line ∨
      pair.cuts line ∧ ∃ message, state'.showing line = .error (.unencodable message)
  warn : ∀ {state state'}, pair.related state state' → ∀ message,
    pair.related (state.warn message) (state'.warn message)
  enter : ∀ {state state'}, pair.related state state' → pair.related state.enter state'.enter
  leave : ∀ {state state'}, pair.related state state' → pair.related state.leave state'.leave
  call : ∀ {state state'}, pair.related state state' → ∀ name arguments function,
    pair.knows (.call name arguments) → state.functions.get? name = some (.host function) →
      ∀ values, InStep pair.related (pair.leader.call function values)
        (pair.follower.call function values)
  resolve : ∀ operand, pair.knows (.host operand) →
    InStep pair.related (pair.leader.resolve operand pair.leaderSubject)
      (pair.follower.resolve operand pair.followerSubject)
  execute : ∀ statement, pair.admits (.host statement) →
    InStep pair.related (pair.leader.execute statement pair.leaderSubject)
      (pair.follower.execute statement pair.followerSubject)
  hook : ∀ {state state'}, pair.related state state' →
    Matched pair.related (pair.leader.beforeStatement state)
        (pair.follower.beforeStatement state') ∨
      pair.stops .hook ∧ pair.leader.hook = none ∧
        ∃ raised last, pair.follower.beforeStatement state' = .error (.script raised) last
  showsHook : pair.shows .hook = true → pair.leader.hook.isSome = pair.follower.hook.isSome

/-- Two runs of which the second follows the first. -/
structure Following (H : Extension) extends RunPair H, toRunPair.Lawful

/-- The same has happened up to where the second run stops while the first one goes on. -/
def Following.BreaksOff (following : Following H) (origin : Origin H)
    (journal journal' : List (Moment H)) : Prop :=
  ∃ front back front' tail, journal = front ++ back ∧ journal' = front' ++ tail ∧
    shownEvents following.shows front = shownEvents following.shows front' ∧
    StopsAt following.follower following.related origin back tail

/-- The last that happens is that a line is printed at which the second run may be cut off. -/
def Following.CutOff (following : Following H) (journal' : List (Moment H)) : Prop :=
  ∃ front arguments frames seen, following.cuts (String.join (arguments.map Value.render)) ∧
    journal' = front ++ [⟨.call (.builtin .print) arguments, frames, seen⟩]

/-- The second of two evaluations follows the first: both end in the same way and the same happens
in them, or the second is stopped, for an origin that raises an error there, or it is cut off. -/
inductive Following.Follows (following : Following H) (raises : Origin H → Prop) :
    EStateM.Result Failure (State H) α → EStateM.Result Failure (State H) α →
      List (Moment H) → List (Moment H) → Prop
  | through {result result' : EStateM.Result Failure (State H) α}
      {journal journal' : List (Moment H)} (ends : Matched following.related result result')
      (same : shownEvents following.shows journal = shownEvents following.shows journal') :
      Follows following raises result result' journal journal'
  | stopped {result : EStateM.Result Failure (State H) α} {failure : Failure} {last : State H}
      {journal journal' : List (Moment H)} {origin : Origin H} (allowed : following.stops origin)
      (raised : raises origin) (breaks : following.BreaksOff origin journal journal') :
      Follows following raises result (.error failure last) journal journal'
  | cut {result : EStateM.Result Failure (State H) α} {message : String} {last : State H}
      {journal journal' : List (Moment H)} (off : following.CutOff journal') :
      Follows following raises result (.error (.unencodable message) last) journal journal'

/-- Where the second run is stopped does not depend on how the first one goes on. -/
theorem StopsAt.extend {host : Host H} {related : State H → State H → Prop} {origin : Origin H}
    {back tail : List (Moment H)} (stops : StopsAt host related origin back tail)
    (more : List (Moment H)) : StopsAt host related origin (back ++ more) tail := by
  cases stops with
  | hook same refuses => exact .hook same refuses
  | depth => exact .depth

namespace Following

variable (following : Following H)

/-- No origin raises an error. -/
abbrev Nowhere : Origin H → Prop := fun _ => False

section

variable {following} {raises raises' : Origin H → Prop} {journal journal' : List (Moment H)}
  {state state' : State H}

/-- Runs that break off still do when the same has been shown of both before. -/
theorem BreaksOff.after {origin : Origin H} {before before' : List (Moment H)}
    (breaks : following.BreaksOff origin journal journal')
    (same : shownEvents following.shows before = shownEvents following.shows before') :
    following.BreaksOff origin (before ++ journal) (before' ++ journal') := by
  obtain ⟨front, back, front', tail, rfl, rfl, alike, stops⟩ := breaks
  refine ⟨before ++ front, back, before' ++ front', tail, ?_, ?_, ?_, stops⟩
  · rw [List.append_assoc]
  · rw [List.append_assoc]
  · rw [shownEvents_append, shownEvents_append, same, alike]

theorem BreaksOff.extend {origin : Origin H} (breaks : following.BreaksOff origin journal journal')
    (more : List (Moment H)) : following.BreaksOff origin (journal ++ more) journal' := by
  obtain ⟨front, back, front', tail, rfl, rfl, alike, stops⟩ := breaks
  exact ⟨front, back ++ more, front', tail, List.append_assoc _ _ _, rfl, alike, stops.extend more⟩

theorem not_cutOff (uncut : ∀ line, ¬ following.cuts line) : ¬ following.CutOff journal' :=
  fun ⟨_, _, _, _, cuts, _⟩ => uncut _ cuts

theorem CutOff.after (off : following.CutOff journal') (before' : List (Moment H)) :
    following.CutOff (before' ++ journal') := by
  obtain ⟨front, arguments, frames, seen, cuts, rfl⟩ := off
  exact ⟨before' ++ front, arguments, frames, seen, cuts, (List.append_assoc _ _ _).symm⟩

namespace Follows

variable {result result' : EStateM.Result Failure (State H) α}

/-- A run still follows another when the same has been shown of both before. -/
theorem after {before before' : List (Moment H)}
    (follows : following.Follows raises result result' journal journal')
    (same : shownEvents following.shows before = shownEvents following.shows before') :
    following.Follows raises result result' (before ++ journal) (before' ++ journal') := by
  cases follows with
  | through ends alike =>
      refine .through ends ?_
      rw [shownEvents_append, shownEvents_append, same, alike]
  | stopped allowed raised breaks => exact .stopped allowed raised (breaks.after same)
  | cut off => exact .cut (off.after before')

/-- A run still follows another when the same event happens in both before. -/
theorem cons {event : Event H} {frames : Nat} {seen seen' : State H}
    (follows : following.Follows raises result result' journal journal') :
    following.Follows raises result result' (⟨event, frames, seen⟩ :: journal)
      (⟨event, frames, seen'⟩ :: journal') := by
  have same : shownEvents following.shows [⟨event, frames, seen⟩] =
      shownEvents following.shows [⟨event, frames, seen'⟩] := shownEvents_cons_congr rfl
  exact follows.after same

/-- More places at which an error may be raised do no harm. -/
theorem widen (follows : following.Follows raises result result' journal journal')
    (more : ∀ origin, raises origin → raises' origin) :
    following.Follows raises' result result' journal journal' := by
  cases follows with
  | through ends alike => exact .through ends alike
  | stopped allowed raised breaks => exact .stopped allowed (more _ raised) breaks
  | cut off => exact .cut off

/-- If it is not cut off, the second evaluation ends as the first does, or it is stopped. -/
theorem matched_or_stopped (follows : following.Follows raises result result' journal journal')
    (uncut : ¬ following.CutOff journal') :
    Matched following.related result result' ∧
        shownEvents following.shows journal = shownEvents following.shows journal' ∨
      ∃ origin, following.stops origin ∧ raises origin ∧
        following.BreaksOff origin journal journal' := by
  cases follows with
  | through ends same => exact .inl ⟨ends, same⟩
  | stopped allowed raised breaks => exact .inr ⟨_, allowed, raised, breaks⟩
  | cut off => exact (uncut off).elim

/-- A sequence follows a sequence if its parts do. -/
theorem bind {first first' : Eval H α} {next next' : α → Eval H β}
    {more more' : α → State H → List (Moment H)}
    (front : following.Follows raises (first state) (first' state') journal journal')
    (inner : ∀ origin, raises origin → raises' origin)
    (back : ∀ value between between', first' state' = .ok value between' →
      following.related between between' →
        following.Follows raises' (next value between) (next' value between')
          (more value between) (more' value between')) :
    following.Follows raises' ((first >>= next) state) ((first' >>= next') state')
      (journal ++ first.onward more state) (journal' ++ first'.onward more' state') := by
  generalize ended : first state = result at front
  generalize ended' : first' state' = result' at front
  cases front with
  | through ends same =>
      cases ends with
      | ok value finals =>
          rw [Eval.bind_of_ok ended, Eval.bind_of_ok ended', Eval.onward_of_ok ended,
            Eval.onward_of_ok ended']
          exact (back value _ _ ended' finals).after same
      | error failure finals =>
          rw [Eval.bind_of_error ended, Eval.bind_of_error ended', Eval.onward_of_error ended,
            Eval.onward_of_error ended', List.append_nil, List.append_nil]
          exact .through (.error failure finals) same
  | stopped allowed raised breaks =>
      rw [Eval.bind_of_error ended', Eval.onward_of_error ended', List.append_nil]
      exact .stopped allowed (inner _ raised) (breaks.extend _)
  | cut off =>
      rw [Eval.bind_of_error ended', Eval.onward_of_error ended', List.append_nil]
      exact .cut off

/-- A sequence whose second part has no journal. -/
theorem bind_still {first first' : Eval H α} {next next' : α → Eval H β}
    (front : following.Follows raises (first state) (first' state') journal journal')
    (back : ∀ value, InStep following.related (next value) (next' value)) :
    following.Follows raises ((first >>= next) state) ((first' >>= next') state')
      journal journal' := by
  have whole : following.Follows raises ((first >>= next) state) ((first' >>= next') state')
      (journal ++ first.onward (fun _ _ => []) state)
      (journal' ++ first'.onward (fun _ _ => []) state') :=
    front.bind (fun _ raised => raised) fun value between between' _ finals =>
      .through (back value between between' finals) rfl
  have none (action : Eval H α) (state : State H) :
      action.onward (fun _ _ => ([] : List (Moment H))) state = [] := by
    unfold Eval.onward
    cases action state <;> rfl
  rw [none, none, List.append_nil, List.append_nil] at whole
  exact whole

/-- A block follows a block if it does inside. The follower may have to stop before it. -/
theorem nested {block block' : Eval H α} {inside inside' : State H → List (Moment H)}
    (start : following.related state state')
    (refused : state'.AtLimit → raises .depth)
    (entered : ¬ state'.AtLimit →
      following.Follows raises (block state.enter) (block' state'.enter) (inside state.enter)
        (inside' state'.enter)) :
    following.Follows raises (block.nested state) (block'.nested state')
      (if state.AtLimit then [] else inside state.enter)
      (if state'.AtLimit then [] else inside' state'.enter) := by
  by_cases limit' : state'.AtLimit
  · simp only [limit', ↓reduceIte]
    rw [Eval.nested_of_atLimit limit']
    rcases following.room start limit' with ⟨limit, same⟩ | allowed
    · simp only [limit, ↓reduceIte]
      rw [Eval.nested_of_atLimit limit, same]
      exact .through (.error _ start) rfl
    · exact .stopped allowed (refused limit') ⟨[], _, [], [], rfl, rfl, rfl, .depth⟩
  · have room : ¬ state.AtLimit := fun limit => limit' (following.limit start limit)
    simp only [room, limit', ↓reduceIte]
    have inner := entered limit'
    generalize ended : block state.enter = result at inner
    generalize ended' : block' state'.enter = result' at inner
    cases inner with
    | through ends same =>
        cases ends with
        | ok value finals =>
            rw [Eval.nested_of_ok room ended, Eval.nested_of_ok limit' ended']
            exact .through (.ok value (following.leave finals)) same
        | error failure finals =>
            rw [Eval.nested_of_error room ended, Eval.nested_of_error limit' ended']
            exact .through (.error failure (following.leave finals)) same
    | stopped allowed raised breaks =>
        rw [Eval.nested_of_error limit' ended']
        exact .stopped allowed raised breaks
    | cut off =>
        rw [Eval.nested_of_error limit' ended']
        exact .cut off

/-- Statements that follow each other do so under one description. -/
theorem describing {statement statement' : Eval H α}
    (inside : following.Follows raises (statement state) (statement' state') journal journal')
    (description : Except Cause String) :
    following.Follows raises (Eval.describing description statement state)
      (Eval.describing description statement' state') journal journal' := by
  generalize ended : statement state = result at inside
  generalize ended' : statement' state' = result' at inside
  cases inside with
  | through ends same =>
      cases ends with
      | ok value finals =>
          rw [Eval.describing_of_ok ended, Eval.describing_of_ok ended']
          exact .through (.ok value finals) same
      | error failure finals =>
          rw [Eval.describing_of_error ended, Eval.describing_of_error ended',
            following.depth finals]
          exact .through (.error _ finals) same
  | stopped allowed raised breaks =>
      rw [Eval.describing_of_error ended']
      exact .stopped allowed raised breaks
  | cut off =>
      rw [Eval.describing_of_error ended']
      exact .cut off

end Follows

end

/-! ## Operands -/

/-- A built-in function does the same in both runs, unless it prints what the second one cannot
show. -/
theorem builtin (function : Builtin) (values : List Value) {frames : Nat} {state state' : State H}
    (start : following.related state state') :
    following.Follows Nowhere ((function.call values : Eval H Value) state)
      ((function.call values : Eval H Value) state')
      [⟨.call (.builtin function) values, frames, state⟩]
      [⟨.call (.builtin function) values, frames, state'⟩] := by
  rcases following.showing start (String.join (values.map Value.render)) with
    same | ⟨cuts, message, refused⟩
  · exact .through (function.call_matched values start (following.print start) fun _ => same)
      (shownEvents_cons_congr rfl)
  · by_cases printing : function = .print
    · subst printing
      rw [Builtin.print_call_of_unshown refused]
      exact .cut ⟨[], values, frames, state', cuts, rfl⟩
    · exact .through (function.call_matched values start (following.print start)
        fun isPrint => absurd isPrint printing) (shownEvents_cons_congr rfl)

/-- A function that both runs find does the same in both. -/
theorem callable {state state' called called' : State H} (start : following.related state state')
    {name : String} {arguments : List (Operand H)} (known : following.knows (.call name arguments))
    {function : Callable H} (present : state.functions.get? name = some function)
    (values : List Value) {frames : Nat} (finals : following.related called called') :
    following.Follows Nowhere (function.call following.leader values called)
      (function.call following.follower values called')
      [⟨.call function values, frames, called⟩] [⟨.call function values, frames, called'⟩] := by
  cases function with
  | builtin function => exact following.builtin function values finals
  | host function =>
      exact .through (following.call start name arguments function known present values _ _ finals)
        (shownEvents_cons_congr rfl)

mutual

/-- From related states the resolution of an operand follows. -/
theorem operand : (operand : Operand H) → (∀ part ∈ operand.parts, following.knows part) →
    {frames : Nat} → {state state' : State H} → following.related state state' →
      following.Follows Nowhere
        (operand.resolve following.leader following.leaderSubject state)
        (operand.resolve following.follower following.followerSubject state')
        (operand.journal following.leader following.leaderSubject frames state)
        (operand.journal following.follower following.followerSubject frames state')
  | .literal value, _, _, state, state', start => by
      simp only [Operand.resolve, Operand.journal]
      exact .through (InStep.ofExcept _ _ _ start) rfl
  | .field name, known, _, state, state', start => by
      simp only [Operand.resolve, Operand.journal]
      rw [following.field name (known _ (Operand.mem_parts _))]
      exact .through (InStep.ofExcept _ _ _ start) rfl
  | .var name, known, _, state, state', start => by
      simp only [Operand.resolve, Operand.journal]
      refine .through ?_ rfl
      have same := following.read start name (known _ (Operand.mem_parts _))
      rw [Eval.bind_of_ok (Eval.get_apply state), Eval.bind_of_ok (Eval.get_apply state'), same]
      exact .ok _ start
  | .call name arguments, known, frames, state, state', start => by
      have named := known _ (Operand.mem_parts _)
      simp only [Operand.parts, List.forall_mem_cons] at known
      simp only [Operand.resolve, Operand.journal]
      rw [Eval.bind_of_ok (Eval.get_apply state), Eval.bind_of_ok (Eval.get_apply state')]
      -- The function is looked up before the arguments are resolved, which may replace it.
      cases present : state.functions.get? name with
      | none =>
          have absent' := (following.lookup start name arguments named).symm.trans present
          simp only [absent']
          exact .through (.error _ start) (shownEvents_cons_congr rfl)
      | some function =>
          have present' := (following.lookup start name arguments named).symm.trans present
          simp only [present']
          refine .cons ((operands arguments known.2 start).bind (fun _ raised => raised) ?_)
          intro values called called' _ finals
          exact following.callable start named present values finals
  | .bare _, _, _, state, state', start => by
      simp only [Operand.resolve, Operand.journal]
      exact .through (InStep.throw _ _ _ start) rfl
  | .host operand, known, _, state, state', start => by
      simp only [Operand.resolve, Operand.journal]
      exact .through (following.resolve operand (known _ (Operand.mem_parts _)) _ _ start)
        (shownEvents_cons_congr rfl)

/-- From related states the resolution of operands follows. -/
theorem operands : (operands : List (Operand H)) →
    (∀ part ∈ partsOfOperands operands, following.knows part) →
    {frames : Nat} → {state state' : State H} → following.related state state' →
      following.Follows Nowhere
        (resolveAll following.leader following.leaderSubject operands state)
        (resolveAll following.follower following.followerSubject operands state')
        (journalOfOperands following.leader following.leaderSubject frames operands state)
        (journalOfOperands following.follower following.followerSubject frames operands state')
  | [], _, _, state, state', start => by
      simp only [resolveAll, journalOfOperands]
      exact .through (InStep.pure _ _ _ start) rfl
  | first :: rest, known, frames, state, state', start => by
      simp only [partsOfOperands, List.forall_mem_append] at known
      simp only [resolveAll, journalOfOperands]
      exact (operand first known.1 start).bind (fun _ raised => raised)
        fun value between between' _ finals =>
          (operands rest known.2 finals).bind_still fun values => .pure _

end

/-! ## Tests -/

/-- A test asks for the truth of a value in step, and warns of the same. -/
theorem truthFollows (value : Value) {frames : Nat} {state state' : State H}
    (start : following.related state state') :
    following.Follows Nowhere ((Test.truth value : Eval H Bool) state)
      ((Test.truth value : Eval H Bool) state') (Test.journalOfTruth frames value state)
      (Test.journalOfTruth frames value state') := by
  refine .through (Test.truth_inStep following.warn value state state' start) ?_
  unfold Test.journalOfTruth
  cases value.truthWarning? with
  | some warning => exact shownEvents_cons_congr rfl
  | none => rfl

/-- From related states a test follows. -/
theorem test (test : Test H) (known : ∀ part ∈ test.operands, following.knows part) {frames : Nat}
    {state state' : State H} (start : following.related state state') :
    following.Follows Nowhere
      (test.eval following.leader following.leaderSubject state)
      (test.eval following.follower following.followerSubject state')
      (test.journal following.leader following.leaderSubject frames state)
      (test.journal following.follower following.followerSubject frames state') := by
  simp only [Test.operands, List.forall_mem_append] at known
  unfold Test.eval Test.journal
  by_cases single : test.op = ""
  · simp only [single, ↓reduceIte]
    exact (following.operand test.left known.1 start).bind (fun _ raised => raised)
      fun value between between' _ finals => following.truthFollows value finals
  · simp only [single, ↓reduceIte]
    cases present : test.right with
    | none => exact .through (.error _ start) rfl
    | some right =>
        simp only [present] at known
        refine (following.operand test.left known.1 start).bind (fun _ raised => raised) ?_
        intro value between between' _ finals
        exact (following.operand right known.2 finals).bind_still fun value => .ofExcept _

/-- From related states tests that are all to be true follow. -/
theorem allTests (tests : List (Test H))
    (known : ∀ part ∈ tests.flatMap Test.operands, following.knows part) {frames : Nat}
    {state state' : State H} (start : following.related state state') :
    following.Follows Nowhere
      (Test.evalAll following.leader following.leaderSubject tests state)
      (Test.evalAll following.follower following.followerSubject tests state')
      (Test.journalOfAll following.leader following.leaderSubject frames tests state)
      (Test.journalOfAll following.follower following.followerSubject frames tests state') := by
  induction tests generalizing state state' with
  | nil => exact .through (.ok true start) rfl
  | cons test rest ih =>
      rw [List.flatMap_cons, List.forall_mem_append] at known
      unfold Test.evalAll Test.journalOfAll
      refine (following.test test known.1 start).bind (fun _ raised => raised) ?_
      intro found between between' _ finals
      cases found with
      | true => exact ih known.2 finals
      | false =>
          simp only [Bool.false_eq_true, ↓reduceIte]
          exact .through (.ok false finals) rfl

/-- From related states tests of which some is to be true follow. -/
theorem anyTests (tests : List (Test H))
    (known : ∀ part ∈ tests.flatMap Test.operands, following.knows part) {frames : Nat}
    {state state' : State H} (start : following.related state state') :
    following.Follows Nowhere
      (Test.evalAny following.leader following.leaderSubject tests state)
      (Test.evalAny following.follower following.followerSubject tests state')
      (Test.journalOfAny following.leader following.leaderSubject frames tests state)
      (Test.journalOfAny following.follower following.followerSubject frames tests state') := by
  induction tests generalizing state state' with
  | nil => exact .through (.ok false start) rfl
  | cons test rest ih =>
      rw [List.flatMap_cons, List.forall_mem_append] at known
      unfold Test.evalAny Test.journalOfAny
      refine (following.test test known.1 start).bind (fun _ raised => raised) ?_
      intro found between between' _ finals
      exact (ih known.2 finals).bind_still fun others => .pure _

/-- From related states tests follow under every combinator. -/
theorem combined (combinator : String) (tests : List (Test H))
    (known : ∀ part ∈ tests.flatMap Test.operands, following.knows part) {frames : Nat}
    {state state' : State H} (start : following.related state state') :
    following.Follows Nowhere
      (Test.combine following.leader following.leaderSubject combinator tests state)
      (Test.combine following.follower following.followerSubject combinator tests state')
      (Test.journalOfCombined following.leader following.leaderSubject frames combinator tests
        state)
      (Test.journalOfCombined following.follower following.followerSubject frames combinator tests
        state') := by
  unfold Test.combine Test.journalOfCombined
  by_cases isAnd : combinator = "and"
  · simp only [isAnd, ↓reduceIte]
    exact following.allTests tests known start
  · by_cases isOr : combinator = "or"
    · have other : ("or" : String) ≠ "and" := by decide
      simp only [isOr, other, ↓reduceIte]
      exact following.anyTests tests known start
    · simp only [isAnd, isOr, ↓reduceIte]
      exact .through (.error _ start) rfl

/-! ## Statements -/

/-- The hook of both runs, if both have one that is shown, or neither. -/
theorem shownEvents_hook {frames : Nat} {state state' : State H} :
    shownEvents following.shows (following.leader.journal frames state) =
      shownEvents following.shows (following.follower.journal frames state') := by
  unfold Host.journal
  cases shown : following.shows .hook with
  | false =>
      have hidden (hook : Option (Eval H Unit)) (state : State H) :
          shownEvents following.shows
            (hook.toList.map fun _ => (⟨.hook, frames, state⟩ : Moment H)) = [] := by
        cases hook with
        | none => rfl
        | some hook => simp [shownEvents, shown]
      rw [hidden, hidden]
  | true =>
      have both := following.showsHook shown
      cases hooked : following.leader.hook with
      | none =>
          rw [hooked] at both
          have absent : following.follower.hook = none := by
            cases hooked' : following.follower.hook with
            | none => rfl
            | some hook =>
                rw [hooked'] at both
                cases both
          rw [absent]
          rfl
      | some hook =>
          rw [hooked] at both
          obtain ⟨hook', hooked'⟩ := Option.isSome_iff_exists.mp both.symm
          rw [hooked']
          exact shownEvents_cons_congr rfl

/-- Where the hooks end in the same way, the calls of them follow. -/
theorem hookFollows {frames : Nat} {state state' : State H}
    (matched : Matched following.related (following.leader.beforeStatement state)
      (following.follower.beforeStatement state')) :
    following.Follows Nowhere (following.leader.beforeStatement state)
      (following.follower.beforeStatement state') (following.leader.journal frames state)
      (following.follower.journal frames state') :=
  .through matched following.shownEvents_hook

/-- The following run is stopped by its hook before a statement that the leading run begins. -/
theorem breaksOff_hook {frames : Nat} {state state' last : State H}
    (start : following.related state state') (unhooked : following.leader.hook = none)
    {failure : Failure} (refuses : following.follower.beforeStatement state' = .error failure last)
    {statement : Statement H} {more more' : State H → List (Moment H)} :
    following.BreaksOff .hook
      (following.leader.journal frames state ++
        following.leader.beforeStatement.onward
          (fun _ ready => ⟨.statement statement, frames, ready⟩ :: more ready) state)
      (following.follower.journal frames state' ++
        following.follower.beforeStatement.onward (fun _ ready => more' ready) state') := by
  have leading := Host.beforeStatement_of_unhooked unhooked state
  refine ⟨[], _, [], _, rfl, rfl, rfl, ?_⟩
  rw [Eval.onward_of_ok leading, Eval.onward_of_error refuses]
  simp only [Host.journal, unhooked]
  cases hooked : following.follower.hook with
  | none =>
      rw [Host.beforeStatement_of_unhooked hooked] at refuses
      cases refuses
  | some hook => exact .hook start refuses

/-- The origin raises an error in the block of the following run. -/
def RaisesInBlock (block : List (Statement H)) (state : State H) (origin : Origin H) : Prop :=
  ∃ path raised last,
    BlockRaises following.follower following.followerSubject block state path origin raised last

/-- The origin raises an error in the following run of the block. -/
def RaisesInRun (block : List (Statement H)) (state : State H) (origin : Origin H) : Prop :=
  ∃ path raised last,
    RunRaises following.follower following.followerSubject block state path origin raised last

/-- A block that is entered follows a block that is entered if it does inside. -/
theorem entered {block : List (Statement H)} {frames : Nat} {state state' : State H}
    (start : following.related state state')
    (inside : following.related state.enter state'.enter →
      following.Follows (following.RaisesInBlock block state'.enter)
        (executeAll following.leader following.leaderSubject block state.enter)
        (executeAll following.follower following.followerSubject block state'.enter)
        (journalOfBlock following.leader following.leaderSubject frames block state.enter)
        (journalOfBlock following.follower following.followerSubject frames block state'.enter)) :
    following.Follows (following.RaisesInRun block state')
      ((executeAll following.leader following.leaderSubject block).nested state)
      ((executeAll following.follower following.followerSubject block).nested state')
      (if state.AtLimit then []
        else journalOfBlock following.leader following.leaderSubject frames block state.enter)
      (if state'.AtLimit then []
        else journalOfBlock following.follower following.followerSubject frames block
          state'.enter) := by
  refine .nested start (fun limit => ⟨[], _, _, .limit limit⟩) fun room => ?_
  refine (inside (following.enter start)).widen ?_
  rintro origin ⟨path, raised, last, raises⟩
  exact ⟨path, raised, last.leave, .block room raises⟩

mutual

/-- From related states a statement follows, unless the second one raises an error where it may
stop. -/
theorem statement : (statement : Statement H) →
    (∀ part ∈ statement.operands, following.knows part) →
    (∀ part ∈ statement.parts, following.admits part) →
    {frames : Nat} → {state state' : State H} → following.related state state' →
      following.Follows
        (fun origin => ∃ path raised last,
          statement.Raises following.follower following.followerSubject state' path origin raised
            last)
        (statement.execute following.leader following.leaderSubject state)
        (statement.execute following.follower following.followerSubject state')
        (statement.journal following.leader following.leaderSubject frames state)
        (statement.journal following.follower following.followerSubject frames state')
  | .cond tests combinator whenTrue whenFalse, known, admitted, frames, state, state', start => by
      simp only [Statement.operands, List.forall_mem_append] at known
      simp only [Statement.parts, List.forall_mem_cons, List.forall_mem_append] at admitted
      simp only [Statement.execute, Statement.journal]
      refine (following.combined combinator tests known.1 start).bind (fun _ => False.elim) ?_
      intro found between between' chosen finals
      cases found with
      | true =>
          simp only [↓reduceIte]
          refine (following.entered finals (block whenTrue known.2.1 admitted.2.1)).widen ?_
          rintro origin ⟨path, raised, last, raises⟩
          exact ⟨path, raised, last, .branch chosen raises⟩
      | false =>
          simp only [Bool.false_eq_true, ↓reduceIte]
          refine (following.entered finals (block whenFalse known.2.2 admitted.2.2)).widen ?_
          rintro origin ⟨path, raised, last, raises⟩
          exact ⟨path, raised, last, .branch chosen raises⟩
  | .verdict _, _, _, _, state, state', start => by
      simp only [Statement.execute, Statement.journal]
      exact .through (InStep.pure _ _ _ start) rfl
  | .call name arguments, known, _, frames, state, state', start => by
      simp only [Statement.operands] at known
      simp only [Statement.execute, Statement.journal]
      exact ((following.operand (.call name arguments) known start).bind_still
        fun _ => .pure _).widen fun _ => False.elim
  | .inert _, _, _, _, state, state', start => by
      simp only [Statement.execute, Statement.journal]
      exact .through (InStep.throw _ _ _ start) rfl
  | .host statement, _, admitted, _, state, state', start => by
      simp only [Statement.execute, Statement.journal]
      exact .through (following.execute statement (admitted _ (Statement.mem_parts _)) _ _ start)
        rfl

/-- From related states a block follows, unless the second one raises an error where it may stop. -/
theorem block : (block : List (Statement H)) →
    (∀ part ∈ operandsOfBlock block, following.knows part) →
    (∀ part ∈ partsOfBlock block, following.admits part) →
    {frames : Nat} → {state state' : State H} → following.related state state' →
      following.Follows
        (following.RaisesInBlock block state')
        (executeAll following.leader following.leaderSubject block state)
        (executeAll following.follower following.followerSubject block state')
        (journalOfBlock following.leader following.leaderSubject frames block state)
        (journalOfBlock following.follower following.followerSubject frames block state')
  | [], _, _, _, state, state', start => by
      simp only [executeAll, journalOfBlock]
      exact .through (InStep.pure _ _ _ start) rfl
  | first :: rest, known, admitted, frames, state, state', start => by
      simp only [operandsOfBlock, List.forall_mem_append] at known
      simp only [partsOfBlock, List.forall_mem_append] at admitted
      simp only [executeAll, journalOfBlock, List.cons_append]
      rcases following.hook start with matched | ⟨allowed, unhooked, raised, last, refuses⟩
      · refine (following.hookFollows matched).bind (fun _ => False.elim) ?_
        intro _ ready ready' begun finals
        refine .cons ?_
        rw [following.descriptions]
        refine ((statement first known.1 admitted.1 finals).describing _).bind ?_ ?_
        · rintro origin ⟨path, raised, last, raises⟩
          exact ⟨first :: path, raised, last, .statement begun raises⟩
        · intro outcome next next' done last
          cases outcome with
          | terminate verdict =>
              simp only [Outcome.terminated, ↓reduceIte]
              exact .through (.ok _ last) rfl
          | proceed =>
              simp only [Outcome.terminated, Bool.false_eq_true, ↓reduceIte]
              refine (block rest known.2 admitted.2 last).widen ?_
              rintro origin ⟨path, raised, last, raises⟩
              exact ⟨path, raised, last, .later begun (Eval.ok_of_describing done) raises⟩
      · rw [Eval.bind_of_error refuses]
        refine .stopped allowed ⟨[], raised, last, .hook refuses⟩ ?_
        exact following.breaksOff_hook start unhooked refuses

end

/-- **A run that follows another.** From related states the following run ends as the leading run
does, in a related state, and the same has happened in it; or it is stopped while the leading run
goes on, and the same has happened up to there. -/
theorem run (script : List (Statement H))
    (known : ∀ part ∈ operandsOfBlock script, following.knows part)
    (admitted : ∀ part ∈ partsOfBlock script, following.admits part) {state state' : State H}
    (start : following.related state state') :
    following.Follows
      (following.RaisesInRun script state')
      (FilterScript.run following.leader script following.leaderSubject state)
      (FilterScript.run following.follower script following.followerSubject state')
      (journalOfRun following.leader following.leaderSubject script state)
      (journalOfRun following.follower following.followerSubject script state') := by
  unfold FilterScript.run journalOfRun
  exact following.entered start (following.block script known admitted)

/-- A following run that nothing stops or cuts off ends as the leading run does. -/
theorem run_matched (unstopped : ∀ origin, ¬ following.stops origin)
    (uncut : ∀ line, ¬ following.cuts line) (script : List (Statement H))
    (known : ∀ part ∈ operandsOfBlock script, following.knows part)
    (admitted : ∀ part ∈ partsOfBlock script, following.admits part) {state state' : State H}
    (start : following.related state state') :
    Matched following.related
      (FilterScript.run following.leader script following.leaderSubject state)
      (FilterScript.run following.follower script following.followerSubject state') := by
  rcases (following.run script known admitted start).matched_or_stopped (not_cutOff uncut) with
    ⟨ends, _⟩ | ⟨origin, allowed, _⟩
  · exact ends
  · exact (unstopped origin allowed).elim

end Following

end FilterScript
