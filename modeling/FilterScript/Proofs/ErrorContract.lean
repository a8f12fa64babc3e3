import FilterScript.Proofs.SampleHost
import FilterScript.Proofs.Soundness
import Mathlib.Algebra.Group.Int.Defs

/-! # The error contract

A script of the language that calls built-in functions ends with an outcome or with an error of the
script (`run_error_contract`). In particular values are compared only as the language provides for
it. This is said by putting other comparisons in the place of the one of the language: a run is the
same under every comparison that gives the same answers where there is a right value or the empty
operator.

The contract has its limits: a pattern may be refused in a way that is no error of a script, a text
that cannot be encoded cannot be shown, and a whole number that no constructor of values makes may
be too large to be compared as a double. -/

namespace FilterScript

variable {H : Extension}

/-! ## Runs under another comparison -/

/-- Whether values are related by an operator. The right value may be absent. -/
abbrev Comparison := Value → Option Value → String → Except Failure Bool

/-- The value of an operand that may be absent. -/
def resolveOptional (host : Host H) (subject : Subject) : Option (Operand H) → Eval H (Option Value)
  | none => return none
  | some operand => do return some (← operand.resolve host subject)

namespace Test

/-- The failure of a comparison, which says what was compared if there were two values. -/
def comparisonFailure (left : Value) (right : Option Value) (op : String) (failure : Failure) :
    Failure :=
  match right with
  | some right => failure.addContext (relationContext left right op)
  | none => failure

/-- The truth of a test under a comparison. The comparison is asked for the truth of a value, too,
and gets a right value if the operator is not empty and the test has a right operand. -/
def evalWith (compare : Comparison) (host : Host H) (subject : Subject) (test : Test H) :
    Eval H Bool := do
  if test.op ≠ "" ∧ test.right.isNone then
    Eval.fail (missingRight test.op)
  else
    let left ← test.left.resolve host subject
    let right ← if test.op = "" then pure none else resolveOptional host subject test.right
    match left.relateWarning? test.op with
    | some warning => modify (·.warn warning)
    | none => pure ()
    Eval.ofExcept ((compare left right test.op).mapError (comparisonFailure left right test.op))

/-- Every test is true under a comparison. -/
def evalAllWith (compare : Comparison) (host : Host H) (subject : Subject) :
    List (Test H) → Eval H Bool
  | [] => return true
  | test :: rest => do
    if ← test.evalWith compare host subject then evalAllWith compare host subject rest
    else return false

/-- Some test is true under a comparison. -/
def evalAnyWith (compare : Comparison) (host : Host H) (subject : Subject) :
    List (Test H) → Eval H Bool
  | [] => return false
  | test :: rest => do
    let found ← test.evalWith compare host subject
    let others ← evalAnyWith compare host subject rest
    return found || others

/-- The truth of tests under a combinator and a comparison. -/
def combineWith (compare : Comparison) (host : Host H) (subject : Subject) (combinator : String)
    (tests : List (Test H)) : Eval H Bool :=
  if combinator = "and" then evalAllWith compare host subject tests
  else if combinator = "or" then evalAnyWith compare host subject tests
  else Eval.fail (.unknownCombinator combinator)

end Test

mutual

/-- The outcome of a statement under a comparison. -/
def Statement.executeWith (compare : Comparison) (host : Host H) (subject : Subject) :
    Statement H → Eval H Outcome
  | .cond tests combinator whenTrue whenFalse => do
    if ← Test.combineWith compare host subject combinator tests then
      Eval.nested (executeAllWith compare host subject whenTrue)
    else
      Eval.nested (executeAllWith compare host subject whenFalse)
  | .verdict value => (Statement.verdict value).execute host subject
  | .call name arguments => (Statement.call name arguments).execute host subject
  | .inert className => (Statement.inert className).execute host subject
  | .host statement => (Statement.host statement).execute host subject

/-- The outcome of statements in order under a comparison. -/
def executeAllWith (compare : Comparison) (host : Host H) (subject : Subject) :
    List (Statement H) → Eval H Outcome
  | [] => return .proceed
  | statement :: rest => do
    host.beforeStatement
    let outcome ← Eval.describing (statement.describe host.descriptions)
      (statement.executeWith compare host subject)
    if outcome.terminated then return outcome
    executeAllWith compare host subject rest

end

/-- The outcome of a script under a comparison. -/
def runWith (compare : Comparison) (host : Host H) (script : List (Statement H))
    (subject : Subject) : Eval H Outcome :=
  Eval.nested (executeAllWith compare host subject script)

/-- The comparison answers as the language does for values of the given sort, as long as there is a
right value or the operator is empty. -/
def Comparison.AgreesOn (compare : Comparison) (values : Value → Prop) : Prop :=
  ∀ left right op, values left → (∀ value, right = some value → values value) →
    (op ≠ "" → right ≠ none) → compare left right op = left.relate right op

section

variable {values : Value → Prop} {compare : Comparison} {host : Host H} {subject : Subject}

namespace Test

/-- A test has the same result under every comparison that agrees with the one of the language. -/
theorem evalWith_eq (agrees : compare.AgreesOn values)
    (returns : Builtin.Returns H.characterNamed? values) (test : Test H)
    (known : ∀ part ∈ test.operands, part.Supplied values subject)
    {state : State H} (supplies : Supplies values state) :
    test.evalWith compare host subject state = test.eval host subject state := by
  unfold operands at known
  rw [List.forall_mem_append] at known
  have left : (test.left.resolve host subject).SoundIn values values state
      (test.left.journal host subject 0 state) :=
    test.left.resolve_sound returns 0 known.1 supplies
  unfold evalWith eval
  by_cases single : test.op = ""
  · simp only [single, ↓reduceIte, ne_eq, not_true_eq_false, false_and]
    refine Eval.bind_congr rfl fun value between resolved => ?_
    obtain ⟨_, valid⟩ := left.ok value between resolved
    have answer : compare value none "" = .ok value.truthy :=
      agrees value none "" valid nofun (fun other => (other rfl).elim)
    rw [Eval.bind_of_ok (Eval.pure_apply none between), answer]
    rfl
  · cases present : test.right with
    | none =>
        simp only [single, ne_eq, not_false_eq_true, Option.isNone_none, and_self, ↓reduceIte]
    | some right =>
        rw [present] at known
        simp only [single, ne_eq, not_false_eq_true, Option.isNone_some, Bool.false_eq_true,
          and_false, ↓reduceIte]
        refine Eval.bind_congr rfl fun leftValue between resolved => ?_
        obtain ⟨ready, leftValid⟩ := left.ok leftValue between resolved
        have sound : (right.resolve host subject).SoundIn values values between
            (right.journal host subject 0 between) :=
          right.resolve_sound returns 0 known.2 ready
        cases resolvedRight : right.resolve host subject between with
        | error failure last =>
            have fails : resolveOptional host subject (some right) between =
                .error failure last := Eval.bind_of_error resolvedRight
            rw [Eval.bind_of_error fails, Eval.bind_of_error resolvedRight]
        | ok rightValue last =>
            have gives : resolveOptional host subject (some right) between =
                .ok (some rightValue) last := Eval.bind_of_ok resolvedRight
            have answer : compare leftValue (some rightValue) test.op =
                leftValue.relate (some rightValue) test.op := by
              refine agrees leftValue (some rightValue) test.op leftValid ?_ (fun _ => nofun)
              intro value same
              cases same
              exact (sound.ok rightValue last resolvedRight).2
            have silent : leftValue.relateWarning? test.op = none := by
              simp only [Value.relateWarning?, single, ↓reduceIte]
            rw [Eval.bind_of_ok gives, Eval.bind_of_ok resolvedRight, silent, answer]
            rfl

/-- Tests that are all to be true have the same result under every comparison that agrees. -/
theorem evalAllWith_eq (agrees : compare.AgreesOn values)
    (returns : Builtin.Returns H.characterNamed? values) (tests : List (Test H))
    (known : ∀ part ∈ tests.flatMap operands, part.Supplied values subject)
    {state : State H} (supplies : Supplies values state) :
    evalAllWith compare host subject tests state = evalAll host subject tests state := by
  induction tests generalizing state with
  | nil => rfl
  | cons test rest ih =>
      rw [List.flatMap_cons, List.forall_mem_append] at known
      have sound : (test.eval host subject).SoundIn values (fun _ => True) state
          (test.journal host subject 0 state) := test.eval_sound returns 0 known.1 supplies
      unfold evalAllWith evalAll
      refine Eval.bind_congr (test.evalWith_eq agrees returns known.1 supplies) ?_
      intro found between evaluated
      cases found with
      | true => exact ih known.2 (sound.ok true between evaluated).1
      | false => rfl

/-- Tests of which some is to be true have the same result under every comparison that agrees. -/
theorem evalAnyWith_eq (agrees : compare.AgreesOn values)
    (returns : Builtin.Returns H.characterNamed? values) (tests : List (Test H))
    (known : ∀ part ∈ tests.flatMap operands, part.Supplied values subject)
    {state : State H} (supplies : Supplies values state) :
    evalAnyWith compare host subject tests state = evalAny host subject tests state := by
  induction tests generalizing state with
  | nil => rfl
  | cons test rest ih =>
      rw [List.flatMap_cons, List.forall_mem_append] at known
      have sound : (test.eval host subject).SoundIn values (fun _ => True) state
          (test.journal host subject 0 state) := test.eval_sound returns 0 known.1 supplies
      unfold evalAnyWith evalAny
      refine Eval.bind_congr (test.evalWith_eq agrees returns known.1 supplies) ?_
      intro found between evaluated
      exact Eval.bind_congr (ih known.2 (sound.ok found between evaluated).1) fun _ _ _ => rfl

/-- Under every combinator tests have the same result under every comparison that agrees. -/
theorem combineWith_eq (agrees : compare.AgreesOn values)
    (returns : Builtin.Returns H.characterNamed? values) (combinator : String)
    (tests : List (Test H)) (known : ∀ part ∈ tests.flatMap operands, part.Supplied values subject)
    {state : State H} (supplies : Supplies values state) :
    combineWith compare host subject combinator tests state =
      combine host subject combinator tests state := by
  unfold combineWith combine
  split
  · exact evalAllWith_eq agrees returns tests known supplies
  · split
    · exact evalAnyWith_eq agrees returns tests known supplies
    · rfl

end Test

mutual

/-- A statement does the same under every comparison that agrees. -/
theorem Statement.executeWith_eq (agrees : compare.AgreesOn values)
    (returns : Builtin.Returns H.characterNamed? values) (unhooked : host.hook = none) :
    (statement : Statement H) →
      (∀ part ∈ statement.operands, part.Supplied values subject) →
        (∀ part ∈ statement.parts, part.isLanguage = true) →
          {state : State H} → Supplies values state →
            statement.executeWith compare host subject state =
              statement.execute host subject state
  | .cond tests combinator whenTrue whenFalse, known, language, state, supplies => by
      simp only [Statement.operands, List.forall_mem_append] at known
      simp only [Statement.parts, List.forall_mem_cons, List.forall_mem_append] at language
      have sound : (Test.combine host subject combinator tests).SoundIn values (fun _ => True) state
          (Test.journalOfCombined host subject 0 combinator tests state) :=
        Test.combine_sound returns 0 combinator tests known.1 supplies
      simp only [Statement.executeWith, Statement.execute]
      refine Eval.bind_congr (Test.combineWith_eq agrees returns combinator tests known.1 supplies)
        ?_
      intro found between chosen
      obtain ⟨ready, _⟩ := sound.ok found between chosen
      have entered : Supplies values between.enter := ⟨ready.functions, ready.vars⟩
      cases found with
      | true =>
          exact Eval.nested_congr (executeAllWith_eq agrees returns unhooked whenTrue known.2.1
            language.2.1 entered)
      | false =>
          exact Eval.nested_congr (executeAllWith_eq agrees returns unhooked whenFalse known.2.2
            language.2.2 entered)
  | .verdict _, _, _, _, _ | .call _ _, _, _, _, _ | .inert _, _, _, _, _
  | .host _, _, _, _, _ => by
      simp only [Statement.executeWith]

/-- A block does the same under every comparison that agrees. -/
theorem executeAllWith_eq (agrees : compare.AgreesOn values)
    (returns : Builtin.Returns H.characterNamed? values) (unhooked : host.hook = none) :
    (block : List (Statement H)) →
      (∀ part ∈ operandsOfBlock block, part.Supplied values subject) →
        (∀ part ∈ partsOfBlock block, part.isLanguage = true) →
          {state : State H} → Supplies values state →
            executeAllWith compare host subject block state =
              executeAll host subject block state
  | [], _, _, _, _ => by
      simp only [executeAllWith, executeAll]
  | statement :: rest, known, language, state, supplies => by
      simp only [operandsOfBlock, List.forall_mem_append] at known
      simp only [partsOfBlock, List.forall_mem_append] at language
      simp only [executeAllWith, executeAll]
      refine Eval.bind_congr rfl fun _ between begun => ?_
      rw [Host.beforeStatement_of_unhooked unhooked] at begun
      cases begun
      have sound : (statement.execute host subject).SoundIn values (fun _ => True) state
          (statement.journal host subject 0 state) :=
        statement.execute_sound unhooked returns 0 known.1 language.1 supplies
      refine Eval.bind_congr (Eval.describing_congr
        (statement.executeWith_eq agrees returns unhooked known.1 language.1 supplies)) ?_
      intro outcome next done
      cases outcome with
      | terminate verdict => rfl
      | proceed =>
          have ready := (sound.ok .proceed next (Eval.ok_of_describing done)).1
          exact executeAllWith_eq agrees returns unhooked rest known.2 language.2 ready

end

/-- A run is the same under every comparison that agrees. -/
theorem runWith_eq (agrees : compare.AgreesOn values)
    (returns : Builtin.Returns H.characterNamed? values) (unhooked : host.hook = none)
    (script : List (Statement H))
    (known : ∀ part ∈ operandsOfBlock script, part.Supplied values subject)
    (language : ∀ part ∈ partsOfBlock script, part.isLanguage = true) {state : State H}
    (supplies : Supplies values state) :
    runWith compare host script subject state = run host script subject state := by
  have entered : Supplies values state.enter := ⟨supplies.functions, supplies.vars⟩
  exact Eval.nested_congr
    (executeAllWith_eq agrees returns unhooked script known language entered)

end

/-! ## The contract -/

/-- The text is a pattern or is refused for being malformed. -/
def Pattern.Readable (characterNamed? : String → Option Char) (text : String) : Prop :=
  ∀ error, Pattern.ofText characterNamed? text.toList = .error error →
    ∃ fault position, error = .malformed fault position

/-- Whatever is called at a moment of a journal keeps within the contract: a search has a readable
pattern, and a text that is printed can be encoded unless nothing is shown. -/
structure Moment.WithinContract (moment : Moment H) : Prop where
  pattern : ∀ value text, moment.event = .call (.builtin .search) [value, text] →
    Pattern.Readable H.characterNamed? text.render
  shown : ∀ arguments, moment.event = .call (.builtin .print) arguments →
    moment.seen.quiet = true ∨ H.unencodable? (String.join (arguments.map Value.render)) = none

/-- Within the contract a sound failure is an error of the script. -/
theorem Failure.AccountedFor.exists_script {failure : Failure} {journal : List (Moment H)}
    (accounted : failure.AccountedFor Value.Convertible journal)
    (within : ∀ moment ∈ journal, moment.WithinContract) : ∃ error, failure = .script error := by
  cases accounted with
  | script error => exact ⟨error, rfl⟩
  | @pattern _ moment value text happens called refused =>
      rcases Builtin.patternOf_eq_error refused with ⟨cause, rfl⟩ | ⟨error, read, other⟩
      · exact ⟨_, rfl⟩
      · obtain ⟨fault, position, malformed⟩ :=
          (within moment happens).pattern value text called error read
        exact (other fault position malformed).elim
  | @shown _ moment arguments happens called refused =>
      obtain ⟨message, unencodable, loud, _⟩ := State.showing_eq_error refused
      rcases (within moment happens).shown arguments called with quiet | encodable
      · rw [quiet] at loud
        cases loud
      · rw [encodable] at unencodable
        cases unencodable
  | number given large => exact (large given).elim

/-- What a script of the language takes from outside is of a sort that its literals and the fields
of the subject have. -/
theorem InLanguage.supplied {script : List (Statement H)} (language : InLanguage script)
    {values : Value → Prop} {subject : Subject}
    (literals : ∀ native, .literal native ∈ operandsOfBlock script →
      ∀ value, Value.ofNative native = .ok value → values value)
    (fields : ∀ name value, Value.ofNative ((subject.field? name).getD .none) = .ok value →
      values value) :
    ∀ part ∈ operandsOfBlock script, part.Supplied values subject := by
  intro part member
  cases part with
  | literal native => exact literals native member
  | field name => exact fields name
  | var name | call name arguments => trivial
  | bare line | host operand => cases language.operands _ member

/-- **The error contract.** Let a script of the language call built-in functions alone, without a
hook. It never asks for a relation without a right value. Let moreover its patterns be readable, let
what it prints be encodable where it is shown, and let none of the values that it is given be too
large for a double. Then its run ends with an outcome or with an error of the script. -/
theorem run_error_contract (host : Host H) (unhooked : host.hook = none)
    (script : List (Statement H)) (language : InLanguage script) (subject : Subject)
    (state : State H)
    (builtins : ∀ name function, state.functions.get? name = some function →
      ∃ builtin, function = .builtin builtin) :
    (∀ compare : Comparison, compare.AgreesOn (fun _ => True) →
      runWith compare host script subject state = run host script subject state) ∧
    ((∀ moment ∈ journalOfRun host subject script state, moment.WithinContract) →
      (∀ native, .literal native ∈ operandsOfBlock script →
        ∀ value, Value.ofNative native = .ok value → value.Convertible) →
      (∀ name value, Value.ofNative ((subject.field? name).getD .none) = .ok value →
        value.Convertible) →
      (∀ name, (state.variableValue name).Convertible) →
        (∃ outcome final, run host script subject state = .ok outcome final) ∨
          ∃ error final, run host script subject state = .error (.script error) final) ∧
    ∀ value : Value, value.WellFormed → value.Convertible := by
  refine ⟨?_, ?_, fun _ => Value.WellFormed.convertible⟩
  · intro compare agrees
    have known : ∀ part ∈ operandsOfBlock script, part.Supplied (fun _ => True) subject :=
      language.supplied (fun _ _ _ _ => trivial) fun _ _ _ => trivial
    exact runWith_eq agrees (fun _ _ _ _ => trivial) unhooked script known language.statements
      ⟨builtins, fun _ => trivial⟩
  · intro within literals fields vars
    have known : ∀ part ∈ operandsOfBlock script, part.Supplied Value.Convertible subject :=
      language.supplied literals fields
    have returns : Builtin.Returns H.characterNamed? Value.Convertible :=
      fun _ _ _ computed => (Builtin.compute_wellFormed computed).convertible
    have supplies : Supplies Value.Convertible state := ⟨builtins, vars⟩
    have sound := run_sound unhooked returns script known language.statements supplies
    cases result : run host script subject state with
    | ok outcome final => exact .inl ⟨outcome, final, rfl⟩
    | error failure final =>
        obtain ⟨error, rfl⟩ := (sound.error failure final result).exists_script within
        exact .inr ⟨error, final, rfl⟩

/-- The script that compares a variable with one that is not set. -/
def limitTest : List (Statement tellingExtension) :=
  [.cond [⟨.var "n", ">", some (.var "limit")⟩] "and" [] []]

/-- A variable that is too large for a double ends a script that compares it. -/
theorem run_limitTest_of_tooLarge {value : Value}
    (tooLarge : value.number = .error .integerTooLarge) :
    ∃ last, run tellingHost limitTest .absent
      (tellingState [("n", value)] Callable.builtins false) = .error .integerTooLarge last := by
  have compared (state : State tellingExtension) :
      (Eval.ofExcept ((value.relate (some .null) ">").mapError
        (Failure.addContext (Test.relationContext value .null ">"))) : Eval tellingExtension Bool)
          state = .error .integerTooLarge state := by
    have related : value.relate (some .null) ">" = .error .integerTooLarge := by
      simp only [Value.relate, Operator.ofSymbol?, tooLarge, String.reduceEq, ↓reduceIte]
      rfl
    rw [related]
    rfl
  let start := tellingState [("n", value)] Callable.builtins false
  have room : ¬ start.AtLimit := show ¬ (5 : Int) < 0 + 1 by decide
  have tested : Test.combine tellingHost .absent "and" [⟨.var "n", ">", some (.var "limit")⟩]
      start.enter = .error .integerTooLarge start.enter :=
    Eval.bind_of_error (compared start.enter)
  have inside : executeAll tellingHost .absent limitTest start.enter =
      .error .integerTooLarge start.enter := by
    have executed : Statement.execute tellingHost .absent
        (.cond [⟨.var "n", ">", some (.var "limit")⟩] "and" [] []) start.enter =
          .error .integerTooLarge start.enter := by
      unfold Statement.execute
      exact Eval.bind_of_error tested
    unfold limitTest executeAll
    rw [Eval.bind_of_ok (Host.beforeStatement_of_unhooked rfl _)]
    exact Eval.bind_of_error (Eval.describing_of_error executed)
  exact ⟨_, Eval.nested_of_error room inside⟩

/-- The conditions cannot be left out. Printing fails if a text cannot be encoded where it is to be
shown, and comparing fails if a variable is too large for a double. -/
theorem run_fails_outside_contract :
    (∃ last, run tellingHost [.call "print" [.literal (.string "caf\u00e9")]] .absent
      (tellingState [] Callable.builtins false) =
        .error (.unencodable "ordinal not in range(128)") last) ∧
    ∃ last, run tellingHost limitTest .absent
      (tellingState [("n", .integer .int (2 ^ 1024))] Callable.builtins false) =
        .error .integerTooLarge last := by
  refine ⟨⟨_, rfl⟩, run_limitTest_of_tooLarge ?_⟩
  have infinite : (Binary.ofInt (2 ^ 1024) : Double) = .infinity false := by decide +kernel
  have isSigned : IntKind.int.isSigned = true := rfl
  rw [Value.number, if_pos isSigned, Value.doubleOfInt, infinite]
  rfl

/-- The functions of every script are built in. -/
theorem Callable.builtin_of_builtins {name : String} {function : Callable H}
    (present : Callable.builtins.get? name = some function) :
    ∃ builtin, function = .builtin builtin := by
  unfold Table.get? at present
  obtain ⟨front, back, split, _⟩ := List.lookup_eq_some_iff.mp present
  have member : (name, function) ∈ Callable.builtins := by
    rw [split]
    exact List.mem_append_right _ List.mem_cons_self
  obtain ⟨builtin, _, same⟩ := List.mem_map.mp member
  cases same
  exact ⟨builtin, rfl⟩

/-- The comparison that fails without a right value, unless the operator is empty. -/
def Comparison.demanding : Comparison := fun left right op =>
  if op ≠ "" ∧ right = none then .error .absentOperand else left.relate right op

/-- A script that asks for the truth of a field and then searches for a malformed pattern. -/
def malformedSearch : List (Statement sampleExtension) :=
  [.cond [⟨.field "age", "", none⟩] "and" [] [],
    .cond [⟨.call "match" [.field "name", .literal (.string "(")], "", none⟩] "and"
      [.verdict true] []]

/-- The malformed pattern is an error of the script, and only values with a right one are
related. -/
theorem run_error_contract_malformedSearch :
    let state : State sampleExtension :=
      { sampleState [] 0 5 with functions := Callable.builtins }
    let subject : Subject := .mapping [(.string "name", .string "abc")]
    ((∃ outcome final, run (sampleHost none) malformedSearch subject state = .ok outcome final) ∨
      ∃ error final, run (sampleHost none) malformedSearch subject state =
        .error (.script error) final) ∧
      runWith .demanding (sampleHost none) malformedSearch subject state =
        run (sampleHost none) malformedSearch subject state := by
  intro state subject
  have language : InLanguage malformedSearch := ⟨by decide, by decide⟩
  have events : (journalOfRun (sampleHost none) subject malformedSearch state).map Moment.event =
      [.statement (malformedSearch.head (by decide)),
        .statement (malformedSearch.getLast (by decide)), .lookup "match",
        .call (.builtin .search) [.string "abc", .string "("]] := by
    rfl
  have within : ∀ moment ∈ journalOfRun (sampleHost none) subject malformedSearch state,
      moment.WithinContract := by
    intro moment member
    refine ⟨?_, fun _ _ => .inr rfl⟩
    intro value text called
    have occurs := List.mem_map_of_mem (f := Moment.event) member
    rw [events, called] at occurs
    simp only [List.mem_cons, reduceCtorEq, Event.call.injEq, List.cons.injEq, true_and, and_true,
      List.not_mem_nil, or_false, false_or] at occurs
    obtain ⟨rfl, rfl⟩ := occurs
    intro error refused
    cases refused
    exact ⟨_, _, rfl⟩
  obtain ⟨demands, ends, convertible⟩ := run_error_contract (sampleHost none) rfl malformedSearch
    language subject state fun _ _ => Callable.builtin_of_builtins
  have texts (text : String) : (Value.string text).Convertible := nofun
  refine ⟨ends within ?_ ?_ fun _ => nofun, demands .demanding ?_⟩
  · intro native occurs value read
    have parts : operandsOfBlock malformedSearch = [.field "age", .call "match"
        [.field "name", .literal (.string "(")], .field "name", .literal (.string "(")] := rfl
    rw [parts] at occurs
    simp only [List.mem_cons, reduceCtorEq, Operand.literal.injEq, List.not_mem_nil, or_false,
      false_or] at occurs
    subst occurs
    cases read
    exact texts _
  · intro name value read
    simp only [subject, Subject.field?, Table.get?_cons] at read
    by_cases named : NativeKey.string name = .string "name"
    · simp only [named, ↓reduceIte, Option.getD_some, Value.ofNative, Except.ok.injEq] at read
      subst read
      exact texts _
    · simp only [named, ↓reduceIte] at read
      cases read
      exact nofun
  · intro left right op _ _ present
    have admitted : ¬ (op ≠ "" ∧ right = none) := fun absent => present absent.1 absent.2
    simp only [Comparison.demanding, admitted, ↓reduceIte]

end FilterScript
