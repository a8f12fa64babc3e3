import FilterScript.Proofs.ErrorContract
import FilterScript.Proofs.Lockstep
import FilterScript.Proofs.Relevance

/-! # Running a script again

A script of the language that calls built-in functions leaves nothing behind but lines: it adds them
to the output, shows some of them, and changes nothing else. The lines are the only thing that it
does not look at, so it ends in the same way when it is run again, and adds the same lines once more
(`run_replays`).
-/

namespace FilterScript

variable {H : Extension}

/-! ## Scripts that leave nothing to the host -/

/-- The host with its descriptions, and with nothing that it does. -/
def Host.silent (host : Host H) : Host H where
  descriptions := host.descriptions
  call := fun _ _ => return .null
  resolve := fun _ _ => return .null
  execute := fun _ _ => return .proceed
  hook := none

/-- A silenced host respects every relation between states. -/
theorem Host.silent_respects (host : Host H) (related : State H → State H → Prop) :
    host.silent.Respects related where
  call := fun _ _ => .pure _
  resolve := fun _ _ => .pure _
  execute := fun _ _ => .pure _

/-- A silenced host keeps whatever every state has to itself. -/
theorem Host.silent_keeps (host : Host H) {kept : State H → State H → Prop}
    (refl : ∀ state, kept state state) : host.silent.Keeps kept where
  call := fun _ _ => refl
  resolve := fun _ _ => refl
  execute := fun _ _ => refl
  hook := nofun

/-- Runs of a script that leaves nothing to the host, as one run that follows another. -/
def silencedRuns (host : Host H) (unhooked : host.hook = none) (script : List (Statement H))
    (language : InLanguage script) (subject : Subject) : Following H where
  leader := host
  follower := host.silent
  leaderSubject := subject
  followerSubject := subject
  related := fun state state' => state = state' ∧ CallsBuiltins script state
  knows := (· ∈ operandsOfBlock script)
  admits := (· ∈ partsOfBlock script)
  shows := fun _ => true
  stops := fun _ => False
  cuts := fun _ => False
  descriptions := rfl
  field := fun _ _ => rfl
  read := fun start _ _ => by rw [start.1]
  lookup := fun start _ _ _ => by rw [start.1]
  depth := fun start => by rw [start.1]
  limit := fun start limit => start.1 ▸ limit
  room := fun start limit => .inl ⟨start.1 ▸ limit, by rw [start.1]⟩
  print := fun start line => ⟨congrArg (State.print · line) start.1, start.2⟩
  showing := fun start line => .inl (congrArg (State.showing · line) start.1)
  warn := fun start message => ⟨congrArg (State.warn · message) start.1, start.2⟩
  enter := fun start => ⟨congrArg State.enter start.1, start.2⟩
  leave := fun start => ⟨congrArg State.leave start.1, start.2⟩
  call := by
    intro state state' start name arguments function known present
    obtain ⟨builtin, impossible⟩ := start.2 name arguments known _ present
    cases impossible
  resolve := fun operand known => nomatch language.operands _ known
  execute := fun statement known => nomatch language.statements _ known
  hook := by
    intro state state' start
    unfold Host.beforeStatement
    rw [unhooked]
    exact .inl (.ok () start)
  showsHook := by
    intro _
    rw [unhooked]
    rfl

/-- Whatever the host does, it does not matter to a script that leaves nothing to it. -/
theorem run_silent {host : Host H} (unhooked : host.hook = none) {script : List (Statement H)}
    (language : InLanguage script) {subject : Subject} {state : State H}
    (builtin : CallsBuiltins script state) :
    run host script subject state = run host.silent script subject state := by
  have matched := (silencedRuns host unhooked script language subject).run_matched
    (fun _ => id) (fun _ => id) script (fun _ => id) (fun _ => id) ⟨rfl, builtin⟩
  exact (matched.mono And.left).eq

/-! ## What is left behind -/

/-- The state with lines added to the output and text to what is shown. -/
def State.written (state : State H) (lines : List String) (text : String) : State H :=
  { state with output := state.output ++ lines, shown := state.shown ++ text }

/-- The second state is the first with something written. -/
def OnlyWritten (state other : State H) : Prop := ∃ lines text, other = state.written lines text

theorem State.written_nil (state : State H) : state.written [] "" = state := by
  simp only [written, List.append_nil, String.append_empty]

/-- What is written in two steps is written in one. -/
theorem State.written_written (state : State H) (lines more : List String) (text rest : String) :
    (state.written lines text).written more rest =
      state.written (lines ++ more) (text ++ rest) := by
  simp only [written, List.append_assoc, String.append_assoc]

/-- The language itself does nothing to a state but write. -/
theorem steady_onlyWritten : Steady (OnlyWritten (H := H)) where
  refl := fun state => ⟨[], "", state.written_nil.symm⟩
  trans := by
    rintro first second third ⟨lines, text, rfl⟩ ⟨more, rest, rfl⟩
    exact ⟨_, _, first.written_written lines more text rest⟩
  print := fun state line => ⟨[line], state.addsToShown line, state.print_eq line⟩
  warn := by
    intro state message
    refine ⟨["[evalfilter] Warning: " ++ message], "", ?_⟩
    simp only [State.warn, State.written, String.append_empty]
  nested := by
    rintro state inner _ ⟨lines, text, rfl⟩
    exact ⟨lines, text, congrArg (State.written · lines text) state.leave_enter⟩

/-! ## The same lines again -/

/-- The same has been written since two states, which may have had different lines before, and the
states agree in everything else. -/
def SameWriting (first second state state' : State H) : Prop :=
  ∃ lines text, state.output = first.output ++ lines ∧ state.shown = first.shown ++ text ∧
    state' = { state with output := second.output ++ lines, shown := second.shown ++ text }

/-- What has been written before is nothing that a script looks at. -/
theorem lockstep_sameWriting (host : Host H) (first second : State H) :
    Lockstep host.silent (SameWriting first second) where
  read := by
    rintro state _ ⟨lines, text, _, _, rfl⟩ name
    rfl
  lookup := by
    rintro state _ ⟨lines, text, _, _, rfl⟩ name
    rfl
  depth := by
    rintro state _ ⟨lines, text, _, _, rfl⟩
    rfl
  maxDepth := by
    rintro state _ ⟨lines, text, _, _, rfl⟩
    rfl
  print := by
    rintro state _ ⟨lines, text, output, shown, rfl⟩ line
    refine ⟨lines ++ [line], text ++ state.addsToShown line, ?_, ?_, ?_⟩
    · simp only [State.print, output, List.append_assoc]
    · rw [State.print_shown, shown, String.append_assoc]
    · simp only [State.print_eq, List.append_assoc, String.append_assoc]
      rfl
  showing := by
    rintro state _ ⟨lines, text, _, _, rfl⟩ line
    rfl
  warn := by
    rintro state _ ⟨lines, text, output, shown, rfl⟩ message
    refine ⟨lines ++ ["[evalfilter] Warning: " ++ message], text, ?_, shown, ?_⟩
    · simp only [State.warn, output, List.append_assoc]
    · simp only [State.warn, List.append_assoc]
  enter := by
    rintro state _ ⟨lines, text, output, shown, rfl⟩
    exact ⟨lines, text, output, shown, rfl⟩
  leave := by
    rintro state _ ⟨lines, text, output, shown, rfl⟩
    exact ⟨lines, text, output, shown, rfl⟩
  call := (host.silent_respects _).call
  resolve := (host.silent_respects _).resolve
  execute := (host.silent_respects _).execute
  hook := nofun

theorem SameWriting.start (state : State H) (lines : List String) (text : String) :
    SameWriting state (state.written lines text) state (state.written lines text) :=
  ⟨[], "", (List.append_nil _).symm, String.append_empty.symm, (State.written_nil _).symm⟩

/-- What has been written since a state is the same again if the state is the same but for it. -/
theorem SameWriting.written {first final again : State H} {lines : List String} {text : String}
    (same : SameWriting first (first.written lines text) final again)
    (left : final = first.written lines text) : again = final.written lines text := by
  obtain ⟨more, rest, output, shown, rfl⟩ := same
  subst left
  have moreLines : lines = more := List.append_cancel_left output
  have moreText : text = rest := (String.append_right_inj _).mp shown
  rw [← moreLines, ← moreText]
  rfl

/-- **A script can be run again.** Let a script of the language call built-in functions, without a
hook. However its run ends, it leaves the state as it was but for the lines that it has added to the
output and the text that it has shown. A second run from there ends in the same way, with the same
failure if it fails, and adds the same lines and the same text. -/
theorem run_replays (host : Host H) (unhooked : host.hook = none) (script : List (Statement H))
    (language : InLanguage script) (subject : Subject) (state : State H)
    (builtin : CallsBuiltins script state) :
    ∃ lines text,
      Matched (fun final again => final = state.written lines text ∧
          again = final.written lines text)
        (run host script subject state)
        (run host script subject (state.written lines text)) := by
  obtain ⟨lines, text, left⟩ : OnlyWritten state ((run host.silent script subject).final state) :=
    run_keeps steady_onlyWritten (host.silent_keeps steady_onlyWritten.refl) script state
  have matched : Matched (SameWriting state (state.written lines text))
      (run host.silent script subject state)
      (run host.silent script subject (state.written lines text)) :=
    (lockstep_sameWriting host _ _).run_inStep script _ _ (.start state lines text)
  have builtin' : CallsBuiltins script (state.written lines text) := builtin
  refine ⟨lines, text, ?_⟩
  rw [run_silent unhooked language builtin, run_silent unhooked language builtin']
  generalize ended : run host.silent script subject state = result at matched
  generalize run host.silent script subject (state.written lines text) = result' at matched
  cases matched with
  | ok outcome finals =>
      rw [Eval.final_of_ok ended] at left
      exact .ok outcome ⟨left, finals.written left⟩
  | error failure finals =>
      rw [Eval.final_of_error ended] at left
      exact .error failure ⟨left, finals.written left⟩

/-- A script that prints a field, asks for the truth of an object and calls a function that there is
not. -/
def complainingScript : List (Statement sampleExtension) :=
  [.call "print" [.field "name"], .cond [⟨.field "owner", "", none⟩] "or" [] [],
    .call "nope" []]

/-- The script fails and can be run again: it fails in the same way and leaves every line twice. -/
theorem run_replays_complainingScript :
    let subject : Subject :=
      .mapping [(.string "name", .string "box"), (.string "owner", .object "Person" "someone")]
    let state : State sampleExtension :=
      { sampleState [] 0 5 with functions := Callable.builtins, quiet := false }
    let failure : Failure := .script ⟨.unknownFunction "nope", ["nope()"]⟩
    let lines := ["box", "[evalfilter] Warning: unexpected type Person in truth test"]
    run (sampleHost none) complainingScript subject state =
        .error failure (state.written lines "box\n") ∧
      run (sampleHost none) complainingScript subject (state.written lines "box\n") =
        .error failure (state.written (lines ++ lines) "box\nbox\n") := by
  intro subject state failure lines
  have first : run (sampleHost none) complainingScript subject state =
      .error failure (state.written lines "box\n") := by
    rfl
  have builtin : CallsBuiltins complainingScript state :=
    fun _ _ _ _ => Callable.builtin_of_builtins
  obtain ⟨more, text, matched⟩ := run_replays (sampleHost none) rfl complainingScript
    ⟨by decide, by decide⟩ subject state builtin
  rw [first] at matched
  generalize second : run (sampleHost none) complainingScript subject (state.written more text) =
    result at matched
  cases matched with
  | error _ finals =>
      obtain ⟨left, rfl⟩ := finals
      have sameLines : lines = more := congrArg State.output left
      have sameText : "box\n" = text := (String.append_right_inj "").mp (congrArg State.shown left)
      subst sameLines sameText
      exact ⟨first, second⟩

end FilterScript
