import FilterScript.Proofs.Following
import FilterScript.Proofs.SampleHost
import FilterScript.Proofs.Written

/-! # Quiet runs

A run writes to two places: lines to its output, and what it prints also to where it is shown. A
quiet run shows nothing. Scripts cannot tell whether they run quietly as long as all that they print
can be encoded where it is shown: then a quiet run and one that is not end in the same way, in
states that agree in everything else, and the same happens in them (`run_quiet`). What is shown
otherwise is the text of every call of `print`, in order and each on a line of its own; such a text
is also the line that the call adds to the output. Warnings are in the output alone. -/

namespace FilterScript

variable {H : Extension}

/-! ## Blindness for what is shown -/

/-- The state without what is shown and whether anything is. -/
def State.unshown (state : State H) : State H := { state with quiet := false, shown := "" }

/-- The states agree in everything but what is shown and whether anything is. -/
def SameButShown (state state' : State H) : Prop := state.unshown = state'.unshown

/-- A change that does not look at what is shown keeps two states the same but for it. -/
theorem SameButShown.of_change {state state' : State H} (same : SameButShown state state')
    (change : State H → State H)
    (blind : ∀ state, (change state.unshown).unshown = (change state).unshown) :
    SameButShown (change state) (change state') := by
  have changed : (change state.unshown).unshown = (change state'.unshown).unshown :=
    congrArg (fun state => (change state).unshown) same
  exact (blind state).symm.trans (changed.trans (blind state'))

/-- The states agree in everything but what is shown and whether anything is, and the first one is
quiet if the second one is. -/
structure Quieter (state state' : State H) : Prop where
  same : SameButShown state state'
  quiet : state'.quiet = true → state.quiet = true

namespace Quieter

variable {state state' : State H}

/-- A change that neither looks at what is shown nor touches the setting keeps the first state the
quieter one. -/
theorem of_change (start : Quieter state state') (change : State H → State H)
    (blind : ∀ state, (change state.unshown).unshown = (change state).unshown)
    (keeps : ∀ state, (change state).quiet = state.quiet) :
    Quieter (change state) (change state') where
  same := start.same.of_change change blind
  quiet := by
    rw [keeps, keeps]
    exact start.quiet

theorem atLimit_iff (start : Quieter state state') : state.AtLimit ↔ state'.AtLimit := by
  have same : state.unshown.AtLimit ↔ state'.unshown.AtLimit := by rw [start.same]
  exact same

/-- A line that can be encoded can be shown in both states, and any other line can be in the first
one if it can be in the second. -/
theorem showing (start : Quieter state state') (line : String) :
    state.showing line = state'.showing line ∨
      H.unencodable? line ≠ none ∧
        ∃ message, state'.showing line = .error (.unencodable message) := by
  unfold State.showing
  cases H.unencodable? line with
  | none => exact .inl rfl
  | some message =>
      cases quiet : state'.quiet with
      | true =>
          rw [start.quiet quiet]
          exact .inl rfl
      | false => exact .inr ⟨nofun, message, rfl⟩

end Quieter

/-- A quiet run and one that is not, as one run that follows another. The second one may be cut off
where it prints a line that cannot be encoded. -/
def quietRuns (host : Host H) (respects : host.Respects Quieter)
    (hooks : ∀ hook, host.hook = some hook → InStep Quieter hook hook) (subject : Subject) :
    Following H where
  leader := host
  follower := host
  leaderSubject := subject
  followerSubject := subject
  related := Quieter
  knows := fun _ => True
  admits := fun _ => True
  shows := fun _ => true
  stops := fun _ => False
  cuts := fun line => H.unencodable? line ≠ none
  descriptions := rfl
  field := fun _ _ => rfl
  read := fun start name _ => congrArg (·.variableValue name) start.same
  lookup := fun start name _ _ => congrArg (·.functions.get? name) start.same
  depth := fun start => congrArg (·.depth) start.same
  limit := fun start => start.atLimit_iff.mp
  room := fun start limit => .inl ⟨start.atLimit_iff.mpr limit, congrArg (·.maxDepth) start.same⟩
  print := fun start line => start.of_change (·.print line) (fun _ => rfl) fun _ => rfl
  showing := Quieter.showing
  warn := fun start message => start.of_change (·.warn message) (fun _ => rfl) fun _ => rfl
  enter := fun start => start.of_change State.enter (fun _ => rfl) fun _ => rfl
  leave := fun start => start.of_change State.leave (fun _ => rfl) fun _ => rfl
  call := fun _ _ _ function _ _ => respects.call function
  resolve := fun operand _ => respects.resolve operand subject
  execute := fun statement _ => respects.execute statement subject
  hook := fun start => .inl (Host.beforeStatement_inStep hooks _ _ start)
  showsHook := fun _ => rfl

/-! ## What is shown -/

/-- The text that an event prints, if it is a call of `print`. -/
def Event.printed? : Event H → Option String
  | .call (.builtin .print) arguments => some (String.join (arguments.map Value.render))
  | _ => none

/-- The texts that are printed in a journal, in order. -/
def printedTexts (journal : List (Moment H)) : List String :=
  journal.filterMap fun moment => moment.event.printed?

/-- The texts that are printed are those of each moment in order. -/
theorem printedTexts_cons (moment : Moment H) (rest : List (Moment H)) :
    printedTexts (moment :: rest) = moment.event.printed?.toList ++ printedTexts rest := by
  unfold printedTexts
  rw [List.filterMap_cons]
  cases moment.event.printed? with
  | none => rfl
  | some text => rfl

/-- The text of a call of `print` in a journal is among those printed. -/
theorem mem_printedTexts_of_print {journal : List (Moment H)} {arguments : List Value}
    {frames : Nat} {seen : State H}
    (printed : ⟨.call (.builtin .print) arguments, frames, seen⟩ ∈ journal) :
    String.join (arguments.map Value.render) ∈ printedTexts journal :=
  List.mem_filterMap.mpr ⟨_, printed, rfl⟩

/-- Texts on lines of their own. -/
def onLines (texts : List String) : String := String.join (texts.map (· ++ "\n"))

/-- What is shown is the same, and so is whether anything is. -/
def LeavesShown (state other : State H) : Prop :=
  other.quiet = state.quiet ∧ other.shown = state.shown

/-- The second state shows in addition what printing the texts adds to the first. -/
def ShowsMore (texts : List String) (state other : State H) : Prop :=
  other.quiet = state.quiet ∧
    other.shown = state.shown ++ String.join (texts.map state.addsToShown)

theorem ShowsMore.of_leavesShown {state other : State H} (leaves : LeavesShown state other) :
    ShowsMore [] state other :=
  ⟨leaves.1, leaves.2.trans String.append_empty.symm⟩

/-- What is shown first and what is shown then is shown in order. -/
theorem ShowsMore.trans {first second third : State H} {texts more : List String}
    (one : ShowsMore texts first second) (two : ShowsMore more second third) :
    ShowsMore (texts ++ more) first third := by
  have adds : second.addsToShown = first.addsToShown := by
    funext line
    unfold State.addsToShown
    rw [one.1]
  refine ⟨two.1.trans one.1, ?_⟩
  rw [two.2, one.2, adds, String.append_assoc, List.map_append, String.join_append]

theorem ShowsMore.print (state : State H) (text : String) :
    ShowsMore [text] state (state.print text) := by
  refine ⟨rfl, (state.print_shown text).trans ?_⟩
  rw [List.map_singleton, String.join_cons, String.join_nil, String.append_empty]

/-- A quiet state adds nothing to what is shown. -/
theorem join_addsToShown_of_quiet {state : State H} (quiet : state.quiet = true)
    (texts : List String) : String.join (texts.map state.addsToShown) = "" := by
  have nothing (line : String) : state.addsToShown line = "" := by
    simp only [State.addsToShown, quiet, Bool.true_or, ↓reduceIte]
  induction texts with
  | nil => rfl
  | cons text rest ih => rw [List.map_cons, String.join_cons, nothing, ih, String.empty_append]

/-- A state that is not quiet adds every text that can be encoded, on a line of its own. -/
theorem join_addsToShown_of_loud {state : State H} (loud : state.quiet = false)
    {texts : List String} (encodable : ∀ text ∈ texts, H.unencodable? text = none) :
    String.join (texts.map state.addsToShown) = onLines texts := by
  refine congrArg String.join (List.map_congr_left fun text member => ?_)
  simp only [State.addsToShown, loud, encodable text member, Option.isSome_none, Bool.or_false,
    Bool.false_eq_true, ↓reduceIte]

theorem State.Alike.leavesShown {state other : State H} (alike : state.Alike other) :
    LeavesShown state other :=
  ⟨(alike.part State.quiet fun _ => rfl).symm, (alike.part State.shown fun _ => rfl).symm⟩

/-- A built-in function shows nothing but what it prints. -/
theorem Builtin.call_showsMore (function : Builtin) (arguments : List Value) (state : State H) :
    ShowsMore (Event.call (.builtin function) arguments : Event H).printed?.toList state
      ((function.call arguments : Eval H Value).final state) := by
  rw [function.call_final]
  cases function with
  | print => exact .print state _
  | _ => exact .of_leavesShown ⟨rfl, rfl⟩

variable {host : Host H} {subject : Subject}

/-- What a moment prints is all that it shows, if the host shows nothing. -/
theorem Moment.left_showsMore (leaves : host.Keeps LeavesShown) (moment : Moment H) :
    ShowsMore moment.event.printed?.toList moment.seen (moment.left host subject) := by
  obtain ⟨event, frames, seen⟩ := moment
  have still : ShowsMore [] seen seen := .of_leavesShown ⟨rfl, rfl⟩
  cases event with
  | hook =>
      unfold Moment.left Host.beforeStatement
      cases hooked : host.hook with
      | none => exact still
      | some hook => exact .of_leavesShown (leaves.hook hook hooked seen)
  | statement statement =>
      cases statement with
      | host statement => exact .of_leavesShown (leaves.execute statement subject seen)
      | _ => exact still
  | read name | lookup name => exact still
  | call function arguments =>
      cases function with
      | host function => exact .of_leavesShown (leaves.call function arguments seen)
      | builtin function => exact function.call_showsMore arguments seen
  | operand operand => exact .of_leavesShown (leaves.resolve operand subject seen)
  | warning message => exact .of_leavesShown ⟨rfl, rfl⟩

/-- What is printed in a journal is all that is shown from its first state to its last. -/
theorem Connects.showsMore (leaves : host.Keeps LeavesShown) {first last : State H}
    {journal : List (Moment H)} (connects : Connects host subject first journal last) :
    ShowsMore (printedTexts journal) first last := by
  induction journal generalizing first with
  | nil => exact .of_leavesShown (State.Alike.leavesShown connects)
  | cons moment rest ih =>
      have found : ShowsMore [] first moment.seen := .of_leavesShown connects.1.leavesShown
      rw [printedTexts_cons]
      exact (found.trans (moment.left_showsMore leaves)).trans (ih connects.2)

/-- A call of `print` adds its text to the output. -/
theorem Moment.left_output_of_printed {moment : Moment H} {text : String}
    (printed : moment.event.printed? = some text) :
    (moment.left host subject).output = moment.seen.output ++ [text] := by
  obtain ⟨event, frames, seen⟩ := moment
  unfold Event.printed? at printed
  split at printed
  · next arguments called =>
      cases called
      cases printed
      have left : (Builtin.print.call arguments : Eval H Value).final seen = _ :=
        Builtin.print.call_final arguments seen
      exact congrArg State.output left
  · cases printed

/-- A warning adds a line to the output and shows nothing. -/
theorem Moment.left_shown_of_warning {moment : Moment H} {message : String}
    (warned : moment.event = .warning message) :
    (moment.left host subject).output =
        moment.seen.output ++ ["[evalfilter] Warning: " ++ message] ∧
      (moment.left host subject).shown = moment.seen.shown := by
  unfold Moment.left
  rw [warned]
  exact ⟨rfl, rfl⟩

/-- **Quiet runs.** Let the host not look at what is shown and whether anything is, and let every
text that is printed when the run is not quiet be one that can be encoded. Then a quiet run ends as
one that is not quiet, with the same outcome or the same failure and in a state that agrees in
everything else, and the same happens in both. If the host moreover shows nothing and leaves the
setting alone, a quiet run shows nothing, and one that is not quiet shows the text of every call of
`print` on a line of its own, in order. That text is also the line that the call adds to the output.
A warning adds a line to the output and shows nothing. -/
theorem run_quiet (host : Host H) (respects : host.Respects Quieter)
    (hooks : ∀ hook, host.hook = some hook → InStep Quieter hook hook)
    (script : List (Statement H)) (subject : Subject) (state : State H) :
    let quiet := { state with quiet := true }
    let loud := { state with quiet := false }
    let journal := journalOfRun host subject script loud
    (∀ text ∈ printedTexts journal, H.unencodable? text = none) →
    Matched SameButShown (run host script subject quiet) (run host script subject loud) ∧
      (journalOfRun host subject script quiet).map Moment.event = journal.map Moment.event ∧
      (host.Keeps LeavesShown →
        ((run host script subject).final quiet).shown = state.shown ∧
        ((run host script subject).final loud).shown =
          state.shown ++ onLines (printedTexts journal)) ∧
      (∀ moment ∈ journal, ∀ text, moment.event.printed? = some text →
        (moment.left host subject).output = moment.seen.output ++ [text]) ∧
      ∀ moment ∈ journal, ∀ message, moment.event = .warning message →
        (moment.left host subject).output =
            moment.seen.output ++ ["[evalfilter] Warning: " ++ message] ∧
          (moment.left host subject).shown = moment.seen.shown := by
  intro quiet loud journal encodable
  have start : Quieter quiet loud := ⟨rfl, nofun⟩
  have uncut : ¬ (quietRuns host respects hooks subject).CutOff journal := by
    rintro ⟨front, arguments, frames, seen, cuts, ends⟩
    have last : ⟨.call (.builtin .print) arguments, frames, seen⟩ ∈ journal := by
      rw [ends]
      exact List.mem_append_right _ (List.mem_singleton_self _)
    exact cuts (encodable _ (mem_printedTexts_of_print last))
  have follows := (quietRuns host respects hooks subject).run script (fun _ _ => trivial)
    (fun _ _ => trivial) start
  obtain ⟨ends, same⟩ | ⟨_, stopped, _⟩ := follows.matched_or_stopped uncut
  · refine ⟨ends.mono Quieter.same, ?_, ?_, ?_, ?_⟩
    · rw [← shownEvents_all, ← shownEvents_all]
      exact same
    · intro leaves
      have shows (first : State H) :
          ShowsMore (printedTexts (journalOfRun host subject script first)) first
            ((run host script subject).final first) :=
        (run_connects script first).showsMore leaves
      constructor
      · rw [(shows quiet).2, join_addsToShown_of_quiet rfl, String.append_empty]
      · rw [(shows loud).2, join_addsToShown_of_loud rfl encodable]
    · intro moment _ text printed
      exact moment.left_output_of_printed printed
    · intro moment _ message warned
      exact Moment.left_shown_of_warning warned
  · exact stopped.elim

/-- Neither condition can be left out. A function that shows something by itself does so in a quiet
run, and under the name `print` it shows something else than the text of the call. A text that
cannot be encoded is printed by a quiet run, while the run that is not quiet fails. -/
theorem quiet_run_tells_and_loud_run_fails :
    let prints (text : String) : List (Statement tellingExtension) :=
      [.call "print" [.literal (.string text)]]
    (∀ quiet, ((run tellingHost (prints "x") .absent).final
      (tellingState [] [("print", .host ())] quiet)).shown = "told\n") ∧
    (∃ last, run tellingHost (prints "caf\u00e9") .absent
      (tellingState [] Callable.builtins true) = .ok .proceed last) ∧
    ∃ last, run tellingHost (prints "caf\u00e9") .absent
      (tellingState [] Callable.builtins false) =
        .error (.unencodable "ordinal not in range(128)") last := by
  intro prints
  refine ⟨?_, ⟨_, rfl⟩, ⟨_, rfl⟩⟩
  intro quiet
  rfl

/-- A script that asks for the truth of an object, prints in the branch that this chooses and after
it, and calls a function that there is not. -/
def chattyScript : List (Statement sampleExtension) :=
  [.cond [⟨.field "owner", "", none⟩] "and" []
      [.call "print" [.literal (.string "a "), .field "name"]],
    .call "print" [.literal (.string "done")],
    .call "nope" []]

/-- Both runs of the script fail in the same way. What is printed is shown in one of them, and the
warning in neither. -/
theorem run_quiet_chattyScript :
    let host := sampleHost (some (pure ()))
    let subject : Subject :=
      .mapping [(.string "name", .string "box"), (.string "owner", .object "Person" "someone")]
    let state : State sampleExtension :=
      { sampleState [] 0 5 with functions := Callable.builtins }
    let quiet := { state with quiet := true }
    let loud := { state with quiet := false }
    Matched SameButShown (run host chattyScript subject quiet)
        (run host chattyScript subject loud) ∧
      ((run host chattyScript subject).final loud).output =
        ["[evalfilter] Warning: unexpected type Person in truth test", "a box", "done"] ∧
      ((run host chattyScript subject).final quiet).shown = "" ∧
      ((run host chattyScript subject).final loud).shown = "a box\ndone\n" := by
  intro host subject state quiet loud
  have respects : host.Respects Quieter :=
    sampleHost_respects _
      (fun start name value =>
        start.of_change (·.setVariable name value) (fun _ => rfl) fun _ => rfl)
      (fun start name function =>
        start.of_change (·.addFunction name function) (fun _ => rfl) fun _ => rfl)
  have hooks : ∀ hook, host.hook = some hook → InStep Quieter hook hook := by
    intro hook hooked
    cases hooked
    exact .pure ()
  have leaves : host.Keeps LeavesShown :=
    sampleHost_keeps (fun _ => ⟨rfl, rfl⟩) (fun _ _ _ => ⟨rfl, rfl⟩) fun _ _ _ => ⟨rfl, rfl⟩
  have law := run_quiet host respects hooks chattyScript subject state fun _ _ => rfl
  obtain ⟨shownQuietly, shown⟩ := law.2.2.1 leaves
  refine ⟨law.1, ?_, shownQuietly, shown.trans ?_⟩
  · rfl
  · rfl

end FilterScript
