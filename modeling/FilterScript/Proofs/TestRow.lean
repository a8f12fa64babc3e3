import FilterScript.Proofs.Journal
import FilterScript.Proofs.OriginTrail
import FilterScript.Proofs.SampleHost

/-! # Tests in a row

Tests are evaluated one after the other, each in the state that the one before it has left. How far
this goes is a matter of the combinator: under `and` up to the first test that is false or fails,
under `or` up to the first that fails, and under any other combinator not at all. What a combinator
makes of its tests is said by a row of tests that have truths, and by one more test that may end the
row (`Test.combine_evaluates`).
-/

namespace FilterScript

variable {H : Extension}

namespace Test

/-- Tests are evaluated in a row and have the given truths. -/
abbrev Row (host : Host H) (subject : Subject) (frames : Nat) :
    State H → List (Test H × Bool) → List (Moment H) → State H → Prop :=
  FilterScript.Row (Test.eval host subject) (Test.journal host subject frames)

/-- After a row of tests one more test is evaluated, which ends in the given way. -/
abbrev RowThen (host : Host H) (subject : Subject) (frames : Nat) (state : State H)
    (rows : List (Test H × Bool)) (test : Test H) (journal : List (Moment H))
    (result : EStateM.Result Failure (State H) Bool) : Prop :=
  FilterScript.RowThen (Test.eval host subject) (Test.journal host subject frames) state rows test
    journal result

section

variable {host : Host H} {subject : Subject} {frames : Nat} {state between last : State H}
  {rows : List (Test H × Bool)} {journal : List (Moment H)}

/-! ## Tests that are all to be true -/

/-- True tests in front of others leave it to these. -/
theorem Row.evalAll_append (row : Row host subject frames state rows journal between)
    (found : ∀ row ∈ rows, row.2 = true) (rest : List (Test H)) :
    evalAll host subject (rows.map Prod.fst ++ rest) state = evalAll host subject rest between ∧
      journalOfAll host subject frames (rows.map Prod.fst ++ rest) state =
        journal ++ journalOfAll host subject frames rest between := by
  induction row with
  | nil state => exact ⟨rfl, rfl⟩
  | cons first later ih =>
      obtain ⟨rfl, others⟩ := List.forall_mem_cons.mp found
      obtain ⟨result, happened⟩ := ih others
      simp only [List.map_cons, List.cons_append, evalAll, journalOfAll]
      rw [Eval.bind_of_ok first, Eval.onward_of_ok first, List.append_assoc, ← happened]
      exact ⟨result, rfl⟩

/-- A row of true tests is all of them evaluated, and all hold. -/
theorem Row.evalAll {tests : List (Test H)}
    (row : Row host subject frames state (tests.map (·, true)) journal last) :
    Test.evalAll host subject tests state = .ok true last ∧
      journalOfAll host subject frames tests state = journal := by
  have found : ∀ row ∈ tests.map (·, true), row.2 = true := by
    simp only [List.forall_mem_map, implies_true]
  have law := row.evalAll_append found []
  simp only [List.map_map, Function.comp_def, List.map_id', List.append_nil, journalOfAll] at law
  exact law

/-- The first test that is not true decides tests that all have to hold. -/
theorem RowThen.evalAll {front rest : List (Test H)} {test : Test H}
    {result : EStateM.Result Failure (State H) Bool}
    (ends : RowThen host subject frames state (front.map (·, true)) test journal result)
    (stops : ∀ last, result ≠ .ok true last) :
    Test.evalAll host subject (front ++ test :: rest) state = result ∧
      journalOfAll host subject frames (front ++ test :: rest) state = journal := by
  obtain ⟨happened, between, row, evaluated, rfl⟩ := ends
  have found : ∀ row ∈ front.map (·, true), row.2 = true := by
    simp only [List.forall_mem_map, implies_true]
  have law := Row.evalAll_append row found (test :: rest)
  simp only [List.map_map, Function.comp_def, List.map_id'] at law
  rw [law.1, law.2]
  simp only [Test.evalAll, journalOfAll]
  cases result with
  | error failure last =>
      rw [Eval.bind_of_error evaluated, Eval.onward_of_error evaluated, List.append_nil]
      exact ⟨rfl, rfl⟩
  | ok truth last =>
      cases truth with
      | true => exact (stops last rfl).elim
      | false =>
          rw [Eval.bind_of_ok evaluated, Eval.onward_of_ok evaluated]
          simp only [Bool.false_eq_true, ↓reduceIte, List.append_nil, Eval.pure_apply, and_self]

/-- Tests are all true, or one of them is the first that is not. -/
theorem row_or_first_not_true (host : Host H) (subject : Subject) (frames : Nat)
    (tests : List (Test H)) (state : State H) :
    (∃ journal last, Row host subject frames state (tests.map (·, true)) journal last) ∨
      ∃ front test rest journal result, tests = front ++ test :: rest ∧
        RowThen host subject frames state (front.map (·, true)) test journal result ∧
          ∀ last, result ≠ .ok true last := by
  obtain ⟨rows, rest, journal, between, rfl, row, found, stops⟩ :=
    exists_row (Test.eval host subject) (Test.journal host subject frames) id tests state
  have allTrue : rows = (rows.map Prod.fst).map (·, true) := by
    rw [List.map_map]
    exact (List.map_id'' (fun _ => rfl) rows).symm.trans
      (List.map_congr_left fun row member => Prod.ext rfl (found row member))
  cases rest with
  | nil =>
      left
      rw [List.append_nil]
      exact ⟨journal, between, allTrue ▸ row⟩
  | cons test rest =>
      right
      refine ⟨_, test, rest, _, _, rfl, ⟨journal, between, allTrue ▸ row, rfl, rfl⟩, ?_⟩
      intro last succeeds
      exact absurd (stops test rfl true last succeeds) Bool.true_eq_false.mp

/-- All of some tests hold exactly if they are a row of true ones. -/
theorem evalAll_eq_true_iff {tests : List (Test H)} :
    Test.evalAll host subject tests state = .ok true last ↔
      Row host subject frames state (tests.map (·, true))
        (journalOfAll host subject frames tests state) last := by
  constructor
  · intro succeeds
    rcases row_or_first_not_true host subject frames tests state with
      ⟨journal, final, row⟩ | ⟨front, test, rest, journal, result, rfl, ends, stops⟩
    · obtain ⟨result, happened⟩ := row.evalAll
      rw [result] at succeeds
      cases succeeds
      rw [happened]
      exact row
    · exact (stops last ((ends.evalAll stops).1.symm.trans succeeds)).elim
  · exact fun row => row.evalAll.1

/-- Whatever else tests end in that are all to be true, the first one that is not ends in it. -/
theorem evalAll_eq_iff_of_stops {tests : List (Test H)}
    {result : EStateM.Result Failure (State H) Bool} (stops : ∀ last, result ≠ .ok true last) :
    Test.evalAll host subject tests state = result ↔
      ∃ front test rest, tests = front ++ test :: rest ∧
        RowThen host subject frames state (front.map (·, true)) test
          (journalOfAll host subject frames tests state) result := by
  constructor
  · intro ended
    rcases row_or_first_not_true host subject frames tests state with
      ⟨journal, final, row⟩ | ⟨front, test, rest, journal, other, rfl, ends, others⟩
    · exact (stops final (ended.symm.trans row.evalAll.1)).elim
    · obtain ⟨same, happened⟩ := ends.evalAll others
      rw [same] at ended
      subst ended
      refine ⟨front, test, rest, rfl, ?_⟩
      rw [happened]
      exact ends
  · rintro ⟨front, test, rest, rfl, ends⟩
    exact (ends.evalAll stops).1

/-! ## Tests of which some is to be true -/

/-- What happens during tests in front of others happens before what happens during these. -/
theorem Row.journalOfAny_append (row : Row host subject frames state rows journal between)
    (rest : List (Test H)) :
    journalOfAny host subject frames (rows.map Prod.fst ++ rest) state =
      journal ++ journalOfAny host subject frames rest between := by
  induction row with
  | nil state => rfl
  | cons first later ih =>
      simp only [List.map_cons, List.cons_append, journalOfAny]
      rw [Eval.onward_of_ok first, List.append_assoc, ← ih]

/-- Looking for a true test has the journal of the whole row. -/
theorem Row.journalOfAny (row : Row host subject frames state rows journal last) :
    Test.journalOfAny host subject frames (rows.map Prod.fst) state = journal := by
  have law := row.journalOfAny_append []
  simp only [List.append_nil, Test.journalOfAny] at law
  exact law

/-- Looking for a true test evaluates the whole row and finds whether there is one. -/
theorem Row.evalAny (row : Row host subject frames state rows journal last) :
    Test.evalAny host subject (rows.map Prod.fst) state = .ok (rows.any Prod.snd) last := by
  induction row with
  | nil state => rfl
  | cons first later ih =>
      simp only [List.map_cons, Test.evalAny]
      rw [Eval.bind_of_ok first, Eval.bind_of_ok ih]
      rfl

/-- The first error ends the search for a true test. -/
theorem RowThen.evalAny {test : Test H} {failure : Failure}
    (ends : RowThen host subject frames state rows test journal (.error failure last))
    (rest : List (Test H)) :
    Test.evalAny host subject (rows.map Prod.fst ++ test :: rest) state = .error failure last ∧
      journalOfAny host subject frames (rows.map Prod.fst ++ test :: rest) state = journal := by
  obtain ⟨happened, between, row, fails, rfl⟩ := ends
  constructor
  · exact evalAny_eq_error_iff.mpr ⟨_, test, rest, _, between, rfl, Row.evalAny row, fails⟩
  · rw [Row.journalOfAny_append row, journalOfAny, Eval.onward_of_error fails, List.append_nil]

/-- The search succeeds exactly if all the tests are a row, and finds whether one of them is true.
-/
theorem evalAny_eq_ok_iff {tests : List (Test H)} {found : Bool} :
    Test.evalAny host subject tests state = .ok found last ↔
      ∃ rows, tests = rows.map Prod.fst ∧ found = rows.any Prod.snd ∧
        Row host subject frames state rows
          (journalOfAny host subject frames tests state) last := by
  constructor
  · intro succeeds
    rcases row_or_first_failure (Test.eval host subject) (Test.journal host subject frames) tests
      state with
      ⟨rows, journal, final, rfl, row⟩ | ⟨rows, test, rest, journal, failure, final, rfl, ends⟩
    · rw [Row.evalAny row] at succeeds
      cases succeeds
      refine ⟨rows, rfl, rfl, ?_⟩
      rw [Row.journalOfAny row]
      exact row
    · rw [(RowThen.evalAny ends rest).1] at succeeds
      cases succeeds
  · rintro ⟨rows, rfl, rfl, row⟩
    exact row.evalAny

/-- What tests of which some is to be true fail in, the first one that fails has failed in. -/
theorem evalAny_eq_error_iff_rowThen {tests : List (Test H)} {failure : Failure} :
    Test.evalAny host subject tests state = .error failure last ↔
      ∃ rows test rest, tests = rows.map Prod.fst ++ test :: rest ∧
        RowThen host subject frames state rows test
          (journalOfAny host subject frames tests state) (.error failure last) := by
  constructor
  · intro fails
    rcases row_or_first_failure (Test.eval host subject) (Test.journal host subject frames) tests
      state with
      ⟨rows, journal, final, rfl, row⟩ | ⟨rows, test, rest, journal, other, final, rfl, ends⟩
    · rw [Row.evalAny row] at fails
      cases fails
    · obtain ⟨same, happened⟩ := RowThen.evalAny ends rest
      rw [same] at fails
      cases fails
      refine ⟨rows, test, rest, rfl, ?_⟩
      rw [happened]
      exact ends
  · rintro ⟨rows, test, rest, rfl, ends⟩
    exact (ends.evalAny rest).1

end

/-- **What a combinator makes of tests.** Under `and` the tests are evaluated in order up to the
first that is not true: the result is true if and only if they all are, and otherwise it is what
that test ends in. Under `or` they are evaluated in order up to the first that fails, which is what
the result then is, whatever was true before; if none fails, the result is true if and only if one
of them is. Under another combinator none is evaluated. In each case nothing happens but what
happens during the tests that are evaluated, and the state is the one that the last of them has
left. -/
theorem combine_evaluates (host : Host H) (subject : Subject) (frames : Nat)
    (tests : List (Test H)) (state : State H) :
    let journal := fun combinator => journalOfCombined host subject frames combinator tests state
    let row := Row host subject frames state
    let rowThen := RowThen host subject frames state
    (∀ last, combine host subject "and" tests state = .ok true last ↔
      row (tests.map (·, true)) (journal "and") last) ∧
    (∀ last, combine host subject "and" tests state = .ok false last ↔
      ∃ front test rest, tests = front ++ test :: rest ∧
        rowThen (front.map (·, true)) test (journal "and") (.ok false last)) ∧
    (∀ failure last, combine host subject "and" tests state = .error failure last ↔
      ∃ front test rest, tests = front ++ test :: rest ∧
        rowThen (front.map (·, true)) test (journal "and") (.error failure last)) ∧
    (∀ found last, combine host subject "or" tests state = .ok found last ↔
      ∃ rows, tests = rows.map Prod.fst ∧ found = rows.any Prod.snd ∧
        row rows (journal "or") last) ∧
    (∀ failure last, combine host subject "or" tests state = .error failure last ↔
      ∃ rows test rest, tests = rows.map Prod.fst ++ test :: rest ∧
        rowThen rows test (journal "or") (.error failure last)) ∧
    ∀ combinator, combinator ≠ "and" → combinator ≠ "or" →
      combine host subject combinator tests state =
          .error (.ofCause (.unknownCombinator combinator)) state ∧
        journal combinator = [] := by
  intro journal row rowThen
  refine ⟨fun last => evalAll_eq_true_iff, fun last => evalAll_eq_iff_of_stops nofun,
    fun failure last => evalAll_eq_iff_of_stops nofun, fun found last => evalAny_eq_ok_iff,
    fun failure last => evalAny_eq_error_iff_rowThen, ?_⟩
  intro combinator notAnd notOr
  simp only [journal, combine, journalOfCombined, notAnd, notOr, ↓reduceIte, Eval.fail_apply,
    and_self]

/-- Tests that set a variable, compare it, set it once more, and call a function that there is
not. -/
def settingTests : List (Test sampleExtension) :=
  [⟨.call "set" [.literal (.string "seen"), .literal (.string "yes")], "", none⟩,
    ⟨.var "seen", "==", some (.literal (.string "yes"))⟩,
    ⟨.call "set" [.literal (.string "seen"), .literal (.string "")], "", none⟩,
    ⟨.call "nope" [], "", none⟩]

/-- Under `and` the third test ends the row, and under `or` the last one does. -/
theorem combine_evaluates_settingTests :
    let host := sampleHost none
    let state := sampleState [("set", .assign)] 1 4
    let last := state.setVariable "seen" (.string "")
    combine host .absent "and" settingTests state = .ok false last ∧
      combine host .absent "or" settingTests state =
        .error (.ofCause (.unknownFunction "nope")) last ∧
      "xor" ≠ "and" ∧ "xor" ≠ "or" ∧
      combine host .absent "xor" settingTests state =
        .error (.ofCause (.unknownCombinator "xor")) state := by
  intro host state last
  obtain ⟨_, allFalse, _, _, anyFails, unknown⟩ :=
    combine_evaluates host .absent 1 settingTests state
  have notAnd : "xor" ≠ "and" := by decide
  have notOr : "xor" ≠ "or" := by decide
  refine ⟨(allFalse last).mpr ?_, (anyFails _ last).mpr ?_, notAnd, notOr,
    (unknown "xor" notAnd notOr).1⟩
  · exact ⟨settingTests.take 2, _, settingTests.drop 3, rfl, _, _,
      .cons rfl (.cons rfl (.nil _)), rfl, rfl⟩
  · exact ⟨[(_, true), (_, true), (_, false)], _, [], rfl, _, _,
      .cons rfl (.cons rfl (.cons rfl (.nil _))), rfl, rfl⟩

end Test

end FilterScript
