import FilterScript.Proofs.Following
import FilterScript.Proofs.SampleHost

/-! # What a script depends on

A script of the language that calls built-in functions sees of its subject, of the variables and of
the functions only what stands under the names that occur in it. Two configurations that agree on
these names cannot be told apart by it (`run_of_agreeOn`): it ends in the same way, with the same
verdict or with the same error and the same trail, and writes and shows the same.

A field is looked up by its name alone. An absent subject, a subject without the field and a field
that holds nothing all give the same, whether the subject is a dictionary or an object.
-/

namespace FilterScript

variable {H : Extension}

/-- What a field of a subject holds; a field that is not there holds nothing. -/
def Subject.holds (subject : Subject) (name : String) : Native := (subject.field? name).getD .none

/-- The subjects hold the same under the fields that a script names. -/
def SameFields (script : List (Statement H)) (subject subject' : Subject) : Prop :=
  ∀ name, .field name ∈ operandsOfBlock script → subject.holds name = subject'.holds name

/-- The states agree on the variables and functions that a script names, and in everything else that
a script of the language can tell. A variable that is not set counts as null. -/
structure AgreeOn (script : List (Statement H)) (state state' : State H) : Prop where
  vars : ∀ name, .var name ∈ operandsOfBlock script →
    state.variableValue name = state'.variableValue name
  functions : ∀ name arguments, .call name arguments ∈ operandsOfBlock script →
    state.functions.get? name = state'.functions.get? name
  depth : state.depth = state'.depth
  maxDepth : state.maxDepth = state'.maxDepth
  quiet : state.quiet = state'.quiet
  output : state.output = state'.output
  shown : state.shown = state'.shown

/-- The functions that a script names are built-in functions, as far as there are any. -/
def CallsBuiltins (script : List (Statement H)) (state : State H) : Prop :=
  ∀ name arguments, .call name arguments ∈ operandsOfBlock script →
    ∀ function, state.functions.get? name = some function → ∃ builtin, function = .builtin builtin

namespace AgreeOn

variable {script : List (Statement H)} {state state' : State H}

/-- Printing the same line keeps the agreement. -/
theorem print (agree : AgreeOn script state state') (line : String) :
    AgreeOn script (state.print line) (state'.print line) :=
  { agree with
    output := by simp only [State.print, agree.output]
    shown := by simp only [State.print, agree.quiet, agree.shown] }

theorem showing (agree : AgreeOn script state state') (line : String) :
    state.showing line = state'.showing line := by
  unfold State.showing
  rw [agree.quiet]

theorem warn (agree : AgreeOn script state state') (message : String) :
    AgreeOn script (state.warn message) (state'.warn message) :=
  { agree with output := by simp only [State.warn, agree.output] }

theorem enter (agree : AgreeOn script state state') : AgreeOn script state.enter state'.enter :=
  { agree with depth := congrArg (· + 1) agree.depth }

theorem leave (agree : AgreeOn script state state') : AgreeOn script state.leave state'.leave :=
  { agree with depth := congrArg (· - 1) agree.depth }

theorem atLimit_iff (agree : AgreeOn script state state') : state.AtLimit ↔ state'.AtLimit := by
  unfold State.AtLimit
  rw [agree.depth, agree.maxDepth]

end AgreeOn

/-- Runs from configurations that agree on the names of a script, as one run that follows another.
Nothing stops the second one. -/
def agreeingRuns (host : Host H) (unhooked : host.hook = none) (script : List (Statement H))
    (language : InLanguage script) (subject subject' : Subject)
    (fields : SameFields script subject subject') : Following H where
  leader := host
  follower := host
  leaderSubject := subject
  followerSubject := subject'
  related := fun state state' => AgreeOn script state state' ∧ CallsBuiltins script state
  knows := (· ∈ operandsOfBlock script)
  admits := (· ∈ partsOfBlock script)
  shows := fun _ => true
  stops := fun _ => False
  cuts := fun _ => False
  descriptions := rfl
  field := fields
  read := fun start => start.1.vars
  lookup := fun start => start.1.functions
  depth := fun start => start.1.depth
  limit := fun start => start.1.atLimit_iff.mp
  room := fun start limit => .inl ⟨start.1.atLimit_iff.mpr limit, start.1.maxDepth⟩
  print := fun start line => ⟨start.1.print line, start.2⟩
  showing := fun start line => .inl (start.1.showing line)
  warn := fun start message => ⟨start.1.warn message, start.2⟩
  enter := fun start => ⟨start.1.enter, start.2⟩
  leave := fun start => ⟨start.1.leave, start.2⟩
  call := by
    intro state state' start name arguments function known present
    obtain ⟨builtin, impossible⟩ := start.2 name arguments known _ present
    cases impossible
  resolve := fun operand known => nomatch language.operands _ known
  execute := fun statement known => nomatch language.statements _ known
  hook := by
    intro state state' start
    unfold Host.beforeStatement
    rw [unhooked]
    exact .inl (.ok () start)
  showsHook := fun _ => rfl

/-- **A script sees only what it names.** Let a script of the language call built-in functions, and
let two subjects and two states agree on the names that occur in the script. Its runs end in the
same way, with the same failure if they fail, in states that still agree; in particular they have
written and shown the same. -/
theorem run_of_agreeOn (host : Host H) (unhooked : host.hook = none)
    (script : List (Statement H)) (language : InLanguage script) (subject subject' : Subject)
    (fields : SameFields script subject subject') (state state' : State H)
    (agree : AgreeOn script state state') (builtin : CallsBuiltins script state) :
    Matched (AgreeOn script) (run host script subject state) (run host script subject' state') := by
  have matched := (agreeingRuns host unhooked script language subject subject' fields).run_matched
    (fun _ => id) (fun _ => id) script (fun _ => id) (fun _ => id) ⟨agree, builtin⟩
  exact matched.mono And.left

/-- A script that compares a field with a variable and prints another field. -/
def greeting : List (Statement sampleExtension) :=
  [.cond [⟨.field "role", "==", some (.var "wanted")⟩] "and"
    [.call "print" [.literal (.string "hello "), .field "name"], .verdict true] []]

/-- The script runs in the same way on a dictionary without a name among few variables, and on an
object whose name holds nothing among other variables and functions. -/
theorem run_of_agreeOn_greeting :
    let subject : Subject := .mapping [(.string "role", .string "admin"), (.int 7, .bool true)]
    let subject' : Subject := .object [("age", .int 3), ("role", .string "admin"), ("name", .none)]
    let state : State sampleExtension :=
      { sampleState [] 0 5 with
        vars := [("wanted", .string "admin")], functions := Callable.builtins }
    let state' : State sampleExtension :=
      { sampleState [("stop", .refuse "no")] 0 5 with
        vars := [("other", .null), ("wanted", .string "admin")]
        functions := [("stop", .host (.refuse "no")), ("print", .builtin .print)] }
    SameFields greeting subject subject' ∧ AgreeOn greeting state state' ∧
      ∃ final, run (sampleHost none) greeting subject' state' = .ok (.terminate true) final ∧
        final.output = ["hello null"] := by
  intro subject subject' state state'
  have occurring : operandsOfBlock greeting =
      [.field "role", .var "wanted", .call "print" [.literal (.string "hello "), .field "name"],
        .literal (.string "hello "), .field "name"] := rfl
  have language : InLanguage greeting := by
    constructor
    · rw [occurring]
      decide
    · decide
  have fields : SameFields greeting subject subject' := by
    intro name occurs
    rw [occurring] at occurs
    simp only [List.mem_cons, reduceCtorEq, Operand.field.injEq, List.not_mem_nil, or_false,
      false_or] at occurs
    rcases occurs with rfl | rfl
    · rfl
    · rfl
  have agree : AgreeOn greeting state state' := by
    refine ⟨?_, ?_, rfl, rfl, rfl, rfl, rfl⟩
    · intro name occurs
      rw [occurring] at occurs
      simp only [List.mem_cons, reduceCtorEq, Operand.var.injEq, List.not_mem_nil, or_false,
        false_or] at occurs
      subst occurs
      rfl
    · intro name arguments occurs
      rw [occurring] at occurs
      simp only [List.mem_cons, reduceCtorEq, Operand.call.injEq, List.not_mem_nil, or_false,
        false_or] at occurs
      obtain ⟨rfl, _⟩ := occurs
      rfl
  have builtin : CallsBuiltins greeting state := by
    intro name arguments occurs function present
    rw [occurring] at occurs
    simp only [List.mem_cons, reduceCtorEq, Operand.call.injEq, List.not_mem_nil, or_false,
      false_or] at occurs
    obtain ⟨rfl, _⟩ := occurs
    cases present
    exact ⟨.print, rfl⟩
  have first : run (sampleHost none) greeting subject state =
      .ok (.terminate true) { state with output := ["hello null"] } := by
    rfl
  have matched := run_of_agreeOn (sampleHost none) rfl greeting language subject subject' fields
    state state' agree builtin
  rw [first] at matched
  generalize second : run (sampleHost none) greeting subject' state' = result at matched
  cases matched with
  | ok value finals => exact ⟨fields, agree, _, rfl, finals.output.symm⟩

end FilterScript
