import FilterScript.Proofs.Blindness
import FilterScript.Proofs.Replay
import FilterScript.Proofs.TestRow

/-! # The order of tests

A test of the language that calls built-in functions leaves nothing behind but lines, and lines are
nothing that a test looks at. So a test that does not fail has the same truth wherever it stands in
a row of such tests, and the row has the same truth in any order (`Test.combine_perm`). This is said
of tests that do not fail: a test that fails is not reached in every order.
-/

namespace FilterScript

variable {H : Extension}

/-! ## Tests have nothing to do with the hook -/

/-- The host without its hook. -/
def Host.unhooked (host : Host H) : Host H := { host with hook := none }

section

variable {host : Host H} {subject : Subject}

/-- No function asks for the hook. -/
theorem Callable.call_unhooked (function : Callable H) (arguments : List Value) :
    function.call host.unhooked arguments = function.call host arguments := by
  cases function with
  | builtin function => rfl
  | host function => rfl

mutual

/-- No operand asks for the hook. -/
theorem Operand.resolve_unhooked : (operand : Operand H) →
    operand.resolve host.unhooked subject = operand.resolve host subject
  | .literal _ | .field _ | .var _ | .bare _ => by
      simp only [Operand.resolve]
  | .call name arguments => by
      simp only [Operand.resolve, resolveAll_unhooked arguments, Callable.call_unhooked]
  | .host operand => by
      simp only [Operand.resolve, Host.unhooked]

/-- No argument asks for the hook. -/
theorem resolveAll_unhooked : (operands : List (Operand H)) →
    resolveAll host.unhooked subject operands = resolveAll host subject operands
  | [] => by
      simp only [resolveAll]
  | operand :: rest => by
      simp only [resolveAll, operand.resolve_unhooked, resolveAll_unhooked rest]

end

theorem Test.eval_unhooked (test : Test H) :
    test.eval host.unhooked subject = test.eval host subject := by
  unfold eval
  simp only [Operand.resolve_unhooked]

end

/-! ## Tests that leave nothing to the host -/

/-- The functions that tests name are built-in functions, as far as there are any. -/
def Test.CallBuiltins (tests : List (Test H)) (state : State H) : Prop :=
  ∀ name arguments, .call name arguments ∈ tests.flatMap Test.operands →
    ∀ function, state.functions.get? name = some function → ∃ builtin, function = .builtin builtin

theorem operandsOfBlock_cond (tests : List (Test H)) (combinator : String) :
    operandsOfBlock [.cond tests combinator [] []] = tests.flatMap Test.operands := by
  simp only [operandsOfBlock, Statement.operands, List.append_nil]

/-- Whatever the host does, it does not matter to a test that leaves nothing to it. -/
theorem Test.eval_silent {host : Host H} {subject : Subject} {tests : List (Test H)}
    (language : ∀ part ∈ tests.flatMap Test.operands, part.isLanguage = true) {state : State H}
    (builtin : CallBuiltins tests state) {test : Test H} (member : test ∈ tests) :
    test.eval host subject state = test.eval host.silent subject state := by
  have inLanguage : InLanguage [Statement.cond tests "and" [] []] := by
    constructor
    · rw [operandsOfBlock_cond]
      exact language
    · simp only [partsOfBlock, Statement.parts, List.append_nil, List.mem_singleton, forall_eq]
      rfl
  have calls : CallsBuiltins [Statement.cond tests "and" [] []] state := by
    unfold CallsBuiltins
    rw [operandsOfBlock_cond]
    exact builtin
  have known : ∀ part ∈ test.operands,
      part ∈ operandsOfBlock [Statement.cond tests "and" [] []] := by
    intro part occurs
    rw [operandsOfBlock_cond]
    exact List.mem_flatMap_of_mem member occurs
  let following := silencedRuns host.unhooked rfl _ inLanguage subject
  have start : following.related state state := ⟨rfl, calls⟩
  have follows : following.Follows Following.Nowhere (test.eval host.unhooked subject state)
      (test.eval host.silent subject state) (test.journal host.unhooked subject 0 state)
      (test.journal host.silent subject 0 state) := following.test test known start
  rcases follows.matched_or_stopped (Following.not_cutOff fun _ => id) with
    ⟨ends, _⟩ | ⟨_, _, nowhere, _⟩
  · have same : test.eval host.unhooked subject state = test.eval host.silent subject state :=
      (ends.mono And.left).eq
    rw [← same, test.eval_unhooked]
  · exact nowhere.elim

/-- Lines that have been written before are nothing that a test looks at. -/
theorem unseen_sameWriting (host : Host H) (first second : State H) :
    Unseen host.silent (SameWriting first second) where
  read := by
    intro state state' same name
    unfold State.variableValue
    rw [(lockstep_sameWriting host first second).read same]
  lookup := (lockstep_sameWriting host first second).lookup
  print := (lockstep_sameWriting host first second).print
  showing := (lockstep_sameWriting host first second).showing
  warn := (lockstep_sameWriting host first second).warn
  behaves := host.silent_respects _

namespace Test

variable {host : Host H} {subject : Subject} {tests : List (Test H)} {state : State H}

/-- A test that does not fail has the same truth when other lines have been written before it, and
leaves more lines alone. -/
theorem eval_written (language : ∀ part ∈ tests.flatMap operands, part.isLanguage = true)
    (builtin : CallBuiltins tests state) {test : Test H} (member : test ∈ tests) {truth : Bool}
    {last : State H} (alone : test.eval host subject state = .ok truth last)
    (lines : List String) (text : String) :
    ∃ more rest, test.eval host subject (state.written lines text) =
      .ok truth (state.written more rest) := by
  have builtin' : CallBuiltins tests (state.written lines text) := builtin
  rw [eval_silent language builtin member] at alone
  rw [eval_silent language builtin' member]
  have left : OnlyWritten (state.written lines text)
      ((test.eval host.silent subject).final (state.written lines text)) :=
    test.eval_keeps steady_onlyWritten (host.silent_keeps steady_onlyWritten.refl) _
  have matched : Matched (SameWriting state (state.written lines text))
      (test.eval host.silent subject state)
      (test.eval host.silent subject (state.written lines text)) :=
    test.eval_inStep (unseen_sameWriting host _ _) _ _ (.start state lines text)
  rw [alone] at matched
  generalize ended : test.eval host.silent subject (state.written lines text) = result at matched
  cases matched with
  | ok _ finals =>
      rw [Eval.final_of_ok ended] at left
      obtain ⟨more, rest, rfl⟩ := left
      exact ⟨lines ++ more, text ++ rest, by rw [State.written_written]⟩

/-- The truth of a test that is evaluated alone. -/
def truthIn (host : Host H) (subject : Subject) (state : State H) (test : Test H) : Bool :=
  match test.eval host subject state with
  | .ok truth _ => truth
  | .error _ _ => false

/-- Every test is evaluated alone without a failure. -/
def NoneFails (host : Host H) (subject : Subject) (tests : List (Test H)) (state : State H) :
    Prop :=
  ∀ test ∈ tests, ∃ truth last, test.eval host subject state = .ok truth last

/-- Some of the tests, in any order and however often, form a row in which each has the truth that
it has alone. -/
theorem exists_row_of_noneFails
    (language : ∀ part ∈ tests.flatMap operands, part.isLanguage = true)
    (builtin : CallBuiltins tests state) (alone : NoneFails host subject tests state)
    (frames : Nat) {row : List (Test H)} (subset : row ⊆ tests) (lines : List String)
    (text : String) :
    ∃ journal last, Row host subject frames (state.written lines text)
      (row.map fun test => (test, test.truthIn host subject state)) journal last := by
  induction row generalizing lines text with
  | nil => exact ⟨_, _, .nil _⟩
  | cons test rest ih =>
      obtain ⟨here, others⟩ := List.cons_subset.mp subset
      obtain ⟨truth, last, succeeds⟩ := alone test here
      have same : test.truthIn host subject state = truth := by
        simp only [truthIn, succeeds]
      obtain ⟨more, shown, first⟩ := eval_written language builtin here succeeds lines text
      obtain ⟨journal, final, later⟩ := ih others more shown
      rw [List.map_cons, same]
      exact ⟨_, final, .cons first later⟩

/-- Under `and`, a row of tests is true if they all are. -/
theorem Row.exists_evalAll {frames : Nat} {last : State H} {rows : List (Test H × Bool)}
    {journal : List (Moment H)} (row : Row host subject frames state rows journal last) :
    ∃ final, Test.evalAll host subject (rows.map Prod.fst) state =
      .ok (rows.all Prod.snd) final := by
  induction row with
  | nil state => exact ⟨state, rfl⟩
  | @cons test truth rows _ between _ _ first _ ih =>
      simp only [List.map_cons, Test.evalAll]
      rw [Eval.bind_of_ok first]
      cases truth with
      | true => exact ih
      | false => exact ⟨between, rfl⟩

/-- Tests that do not fail alone do not fail together, and their truth is that of all or of any of
them alone. -/
theorem combine_of_noneFails
    (language : ∀ part ∈ tests.flatMap operands, part.isLanguage = true)
    (builtin : CallBuiltins tests state) (alone : NoneFails host subject tests state)
    {row : List (Test H)} (subset : row ⊆ tests) :
    (∃ last, combine host subject "and" row state =
      .ok (row.all (truthIn host subject state)) last) ∧
    ∃ last, combine host subject "or" row state =
      .ok (row.any (truthIn host subject state)) last := by
  obtain ⟨journal, last, evaluated⟩ := exists_row_of_noneFails language builtin alone 0 subset [] ""
  rw [State.written_nil] at evaluated
  obtain ⟨final, together⟩ := evaluated.exists_evalAll
  have either := evaluated.evalAny
  simp only [List.map_map, Function.comp_def, List.map_id', List.all_map] at together
  simp only [List.map_map, Function.comp_def, List.map_id', List.any_map] at either
  exact ⟨⟨final, together⟩, ⟨last, either⟩⟩

/-- **The order of tests does not matter to tests that do not fail.** Let tests of the language call
built-in functions, and let none of them fail when it is evaluated alone. In any order they have the
same truth under `and` and the same truth under `or`, and do not fail. -/
theorem combine_perm (host : Host H) (subject : Subject) (state : State H)
    (tests tests' : List (Test H)) (order : tests.Perm tests')
    (language : ∀ part ∈ tests.flatMap operands, part.isLanguage = true)
    (builtin : CallBuiltins tests state) (alone : NoneFails host subject tests state) :
    ∀ combinator ∈ ["and", "or"], ∃ truth last last',
      combine host subject combinator tests state = .ok truth last ∧
        combine host subject combinator tests' state = .ok truth last' := by
  obtain ⟨⟨all, together⟩, any, either⟩ :=
    combine_of_noneFails language builtin alone (List.Subset.refl tests)
  obtain ⟨⟨all', together'⟩, any', either'⟩ :=
    combine_of_noneFails language builtin alone order.symm.subset
  rw [← order.all_eq] at together'
  rw [← order.any_eq] at either'
  intro combinator member
  simp only [List.mem_cons, List.not_mem_nil, or_false] at member
  rcases member with rfl | rfl
  · exact ⟨_, all, all', together, together'⟩
  · exact ⟨_, any, any', either, either'⟩

/-- Tests that print a line, give a warning for an object, and compare the kind of a value. -/
def writingTests : List (Test sampleExtension) :=
  [⟨.call "print" [.literal (.string "seen "), .field "name"], "==", some (.literal (.int 2))⟩,
    ⟨.field "owner", "", none⟩,
    ⟨.call "type" [.call "print" [.field "name"]], "!=", some (.var "kind")⟩]

/-- In reverse the tests are true and false as in the order given, with other lines written. -/
theorem combine_perm_writingTests :
    let subject : Subject :=
      .mapping [(.string "name", .string "box"), (.string "owner", .object "Person" "someone")]
    let state : State sampleExtension :=
      { sampleState [] 1 5 with functions := Callable.builtins, vars := [("kind", .string "map")] }
    let host := sampleHost none
    CallBuiltins writingTests state ∧ NoneFails host subject writingTests state ∧
      (∃ last, combine host subject "and" writingTests state = .ok false last ∧
        last.output = ["seen box", "[evalfilter] Warning: unexpected type Person in truth test"]) ∧
      (∃ last, combine host subject "and" writingTests.reverse state = .ok false last) ∧
      ∃ last, combine host subject "or" writingTests.reverse state = .ok true last := by
  intro subject state host
  have builtin : CallBuiltins writingTests state := fun _ _ _ _ => Callable.builtin_of_builtins
  have alone : NoneFails host subject writingTests state := by
    intro test member
    simp only [writingTests, List.mem_cons, List.not_mem_nil, or_false] at member
    rcases member with rfl | rfl | rfl
    · exact ⟨true, _, rfl⟩
    · exact ⟨false, _, rfl⟩
    · exact ⟨true, _, rfl⟩
  have law := combine_perm host subject state writingTests writingTests.reverse
    (List.reverse_perm _).symm (by decide) builtin alone
  have all : combine host subject "and" writingTests state = .ok false { state with output :=
      ["seen box", "[evalfilter] Warning: unexpected type Person in truth test"] } := rfl
  have any : combine host subject "or" writingTests state = .ok true { state with output :=
      ["seen box", "[evalfilter] Warning: unexpected type Person in truth test", "box"] } := rfl
  obtain ⟨_, _, last, given, reversed⟩ := law "and" (by decide)
  obtain ⟨_, _, last', given', reversed'⟩ := law "or" (by decide)
  rw [all] at given
  rw [any] at given'
  cases given
  cases given'
  exact ⟨builtin, alone, ⟨_, all, rfl⟩, ⟨last, reversed⟩, last', reversed'⟩

end Test

end FilterScript
