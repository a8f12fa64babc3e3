import FilterScript.Proofs.Narrowing
import FilterScript.Proofs.Orderly
import FilterScript.Proofs.SampleHost

/-! # A run meets well-formed values only

Whatever the constructors accept becomes a well-formed value. A run that starts with well-formed
variables under a well-behaved host never leaves these values (`run_meets_wellFormed`): its
variables are well formed at every moment, and so is everything that it resolves, compares or passes
to a function. The built-in functions need no assumption but one on lengths, without which `len` and
`print` could count past the end of `int`.
-/

namespace FilterScript

variable {H : Extension}

/-- What the constructors of values accept becomes a well-formed value. -/
structure Value.BuiltWellFormed : Prop where
  /-- A whole number of an integer kind. -/
  integer : ∀ kind n value, ofIntOfKind kind n = .ok value → value.WellFormed
  /-- A double of a float kind. -/
  float : ∀ kind x value, ofDoubleOfKind kind x = .ok value → value.WellFormed
  /-- A whole number of a float kind. -/
  floatOfInteger : ∀ kind n value, ofIntOfFloatKind kind n = .ok value → value.WellFormed
  /-- An array of well-formed values. -/
  array : ∀ elements, AllWellFormed elements → (Value.array elements).WellFormed
  /-- A map of well-formed values. -/
  map : ∀ pairs, EntriesWellFormed pairs → (ofPairs pairs).WellFormed
  /-- A host value in which all values of scripts are well formed. -/
  native : ∀ native value, native.WellFormed → ofNative native = .ok value → value.WellFormed
  /-- A single-precision payload stays as it is when it is shown as a double and rounded again. -/
  single : ∀ x : Single, (x.convert .double).convert .single = x

/-- Whatever constructor a value comes from, it is well formed. -/
theorem Value.builtWellFormed : Value.BuiltWellFormed where
  integer _ _ _ := ofIntOfKind_wellFormed
  float _ _ _ := ofDoubleOfKind_wellFormed
  floatOfInteger _ _ _ := ofIntOfFloatKind_wellFormed
  array elements valid := by
    simp only [WellFormed]
    exact valid
  map _ := ofPairs_wellFormed
  native native _ := ofNative_wellFormed native
  single := Binary.convert_convert

/-- A call of a built-in function fails for no range, if what it counts is less than `2 ^ 63`. -/
theorem Builtin.call_not_isOutOfRange {builtin : Builtin} {arguments : List Value}
    {state final : State H} {failure : Failure} (few : arguments.length < 2 ^ 63)
    (short : ∀ argument ∈ arguments, count argument < 2 ^ 63)
    (fails : (builtin.call arguments : Eval H Value) state = .error failure final) :
    ¬ failure.IsOutOfRange := by
  rcases Builtin.call_eq_error fails with ⟨_, refused⟩ | refused
  · obtain ⟨message, _, _, rfl⟩ := State.showing_eq_error refused
    rintro ⟨error, n, typeName, impossible, _⟩
    cases impossible
  · exact not_isOutOfRange few short refused

/-- What a run does with values and what it leaves is well formed, and its built-in functions fail
for no range. -/
structure RunWellFormed (host : Host H) (subject : Subject) (script : List (Statement H))
    (state : State H) : Prop where
  /-- What is resolved and what is compared is well formed. -/
  uses : ∀ use ∈ usesOfRun host subject script state, use.WellFormed
  /-- Variables and arguments are well formed at every moment. -/
  moments : ∀ moment ∈ journalOfRun host subject script state, moment.WellFormed
  /-- Variables are well formed at the end, also that of a run that fails. -/
  final : ((run host script subject).final state).WellFormed
  /-- No call of a built-in function fails for a range, if its arguments are short enough. -/
  inRange : ∀ moment ∈ journalOfRun host subject script state, ∀ builtin arguments,
    moment.event = .call (.builtin builtin) arguments → arguments.length < 2 ^ 63 →
      (∀ argument ∈ arguments, Builtin.count argument < 2 ^ 63) → ∀ failure final,
        (builtin.call arguments : Eval H Value) moment.seen = .error failure final →
          ¬ failure.IsOutOfRange

/-- **Values stay well formed.** What constructors accept becomes well formed, and a run of a
well-behaved host on a well-formed subject and well-formed literals, started with well-formed
variables, meets well-formed values only. -/
theorem run_meets_wellFormed {host : Host H} (behaved : host.WellBehaved)
    {script : List (Statement H)}
    (literals : ∀ operand ∈ operandsOfBlock script, operand.WellFormed)
    {subject : Subject} (fields : subject.WellFormed) {state : State H}
    (start : state.WellFormed) :
    Value.BuiltWellFormed ∧ RunWellFormed host subject script state := by
  have entered : state.enter.WellFormed := start
  have block := executeAll_orderly behaved fields 1 script literals entered
  have orderly : (run host script subject).Orderly (fun _ => True)
      (usesOfRun host subject script state) (journalOfRun host subject script state) state :=
    .nested start block
  refine ⟨Value.builtWellFormed, orderly.uses, orderly.moments, ?_, ?_⟩
  · unfold Eval.final
    cases result : run host script subject state with
    | ok outcome final => exact (orderly.ok outcome final result).1
    | error failure final => exact orderly.error failure final result
  · intro moment _ builtin arguments _ few short failure final fails
    exact Builtin.call_not_isOutOfRange few short fails

/-- What the values of the host are asked for cannot be left out. A value that was made without its
constructor passes through the conversion of host values as it is, so a field that holds it is not
resolved to a well-formed value. And a call of `len` fails for a range if its argument does, which
is then refused before the function is called. -/
theorem handmade_value_is_met :
    let handmade : Value := .integer .int8 300
    let subject : Subject := .mapping [(.string "size", .value handmade)]
    let state : State sampleExtension :=
      { sampleState [] 0 5 with functions := Callable.builtins }
    Value.ofNative (.value handmade) = .ok handmade ∧ ¬ handmade.WellFormed ∧
      (∃ use ∈ usesOfRun (sampleHost none) subject [.call "len" [.field "size"]] state,
        ¬ use.WellFormed) ∧
      ∃ trail last, run (sampleHost none) [.call "len" [.literal (.int (2 ^ 64))]] subject state =
        .error (.script ⟨.outOfRange (2 ^ 64) "int", trail⟩) last := by
  intro handmade subject state
  have outside : ¬ handmade.WellFormed := by
    simp only [handmade, Value.WellFormed]
    decide
  have first : (usesOfRun (sampleHost none) subject [.call "len" [.field "size"]] state)[0]? =
      some (.resolved (.field "size") handmade) := rfl
  exact ⟨rfl, outside, ⟨_, List.mem_of_getElem? first, outside⟩, _, _, rfl⟩

/-- The small host gives back what it is given and writes nothing else. -/
theorem sampleHost_wellBehaved : (sampleHost (some (pure ()))).WellBehaved where
  call := by
    intro function arguments right
    cases function with
    | assign =>
        match arguments with
        | [] | [_] => exact .pure trivial
        | name :: held :: _ =>
            refine .bind (.modify fun start => ?_) fun _ _ => .pure right.2.1
            exact start.setVariable name.render right.2.1
    | define name function => exact .bind (.modify fun start => start) fun _ _ => .pure trivial
    | refuse message => exact .throw _
  resolve := fun operand => operand.elim
  execute := fun statement => statement.elim
  hook := by
    intro hook hooked
    cases hooked
    exact .pure trivial

/-- A script that writes a variable, compares a field with it, and asks for a length. -/
def assigningScript : List (Statement sampleExtension) :=
  [.call "assign" [.literal (.string "limit"), .literal (.int 7)],
    .cond [⟨.field "size", "<", some (.var "limit")⟩] "and"
      [.call "len" [.var "limit"], .verdict true] []]

/-- The run of the script compares the variable that it has written in the middle of the run. -/
theorem run_meets_wellFormed_assigningScript :
    let host := sampleHost (some (pure ()))
    let subject : Subject := .mapping [(.string "size", .float (Binary.ofInt 9))]
    let state : State sampleExtension :=
      { sampleState [] 0 5 with
        functions := ("assign", .host .assign) :: Callable.builtins }
    RunWellFormed host subject assigningScript state ∧
      .compared (.float64 (Binary.ofInt 9)) "<" (.integer .int 7) ∈
        usesOfRun host subject assigningScript state ∧
      ((run host assigningScript subject).final state).vars = [("limit", .integer .int 7)] := by
  intro host subject state
  have literals : ∀ operand ∈ operandsOfBlock assigningScript, operand.WellFormed := by
    simp only [assigningScript, operandsOfBlock, Statement.operands, Operand.parts,
      partsOfOperands, List.flatMap_cons, Test.operands, List.flatMap_nil, List.append_nil,
      List.cons_append, List.nil_append, List.forall_mem_cons, Operand.WellFormed,
      Native.WellFormed, List.not_mem_nil, IsEmpty.forall_iff, implies_true, and_self]
  have fields : subject.WellFormed := by
    intro name native present
    simp only [subject, Subject.field?, Table.get?_cons] at present
    by_cases named : NativeKey.string name = .string "size"
    · simp only [named, ↓reduceIte, Option.some.injEq] at present
      subst present
      simp only [Native.WellFormed]
    · simp only [named, ↓reduceIte] at present
      cases present
  have start : state.WellFormed := trivial
  have law := run_meets_wellFormed sampleHost_wellBehaved literals fields start
  have sixth : (usesOfRun host subject assigningScript state)[5]? =
      some (.compared (.float64 (Binary.ofInt 9)) "<" (.integer .int 7)) := by
    rfl
  exact ⟨law.2, List.mem_of_getElem? sixth, rfl⟩

end FilterScript
