import FilterScript.Proofs.TestRow
import FilterScript.Proofs.TextRelations
import FilterScript.Proofs.Written

/-! # Tests that are negated

A relation of two texts has a negation, which is a relation of texts as well. A test of such a
relation never fails by itself: its operands are resolved, and what it says about them is said by
the relation alone. So a row of such tests stays a row when each is negated, with the same moments
and the opposite truths. Under `and` the negated tests are evaluated up to the first that is false,
which is the first of the tests that is true; under `or` the tests are evaluated beyond that
(`Test.combine_negated`).
-/

namespace FilterScript

variable {H : Extension}

/-- The symbol of the negated relation. Symbols that name no relation of texts have none and are
left as they are. -/
def Operator.negateSymbol : String → String
  | "==" => "!="
  | "!=" => "=="
  | "~=" => "!~"
  | "!~" => "~="
  | symbol => symbol

namespace Test

/-- The test with the negated relation. -/
def negate (test : Test H) : Test H :=
  { test with op := Operator.negateSymbol test.op }

/-- A test that relates the texts of two operands. -/
structure RelatesTexts (test : Test H) : Prop where
  symbol : test.op ∈ ["==", "!=", "~=", "!~"]
  right : test.right.isSome = true

section

variable {host : Host H} {subject : Subject} {frames : Nat} {state between last final : State H}

/-! ## A single test -/

/-- The symbol of a test that relates texts names a relation, and the negated symbol its
negation. -/
theorem RelatesTexts.exists_relation {test : Test H} (relates : test.RelatesTexts) :
    ∃ relation, Operator.ofSymbol? test.op = some (.texts relation) ∧
      Operator.ofSymbol? test.negate.op = some (.texts relation.negate) := by
  obtain ⟨left, symbol, right⟩ := test
  have named : symbol ∈ ["==", "!=", "~=", "!~"] := relates.symbol
  simp only [List.mem_cons, List.not_mem_nil, or_false] at named
  rcases named with rfl | rfl | rfl | rfl
  · exact ⟨.equal, rfl, rfl⟩
  · exact ⟨.unequal, rfl, rfl⟩
  · exact ⟨.contains, rfl, rfl⟩
  · exact ⟨.lacks, rfl, rfl⟩

/-- A test that relates texts gives what the relation says about its operands. -/
theorem eval_of_texts {test : Test H} {right : Operand H} {relation : TextRelation}
    (two : test.right = some right)
    (named : Operator.ofSymbol? test.op = some (.texts relation)) :
    test.eval host subject = do
      let leftValue ← test.left.resolve host subject
      let rightValue ← right.resolve host subject
      return relation.holds leftValue.render rightValue.render := by
  unfold eval
  simp only [two, Operator.ne_empty_of_ofSymbol? named, ↓reduceIte,
    Value.relate_of_textRelation _ _ named]
  rfl

/-- The moments of a test that relates texts are those of its operands. -/
theorem journal_of_texts {test : Test H} {right : Operand H} {relation : TextRelation}
    (two : test.right = some right)
    (named : Operator.ofSymbol? test.op = some (.texts relation)) :
    test.journal host subject frames =
      fun state => test.left.journal host subject frames state ++
        (test.left.resolve host subject).onward
          (fun _ => right.journal host subject frames) state := by
  funext state
  unfold journal
  simp only [two, Operator.ne_empty_of_ofSymbol? named, ↓reduceIte]

/-- A negated test gives the opposite. -/
theorem RelatesTexts.eval_negate {test : Test H} (relates : test.RelatesTexts) :
    test.negate.eval host subject = not <$> test.eval host subject := by
  obtain ⟨right, two⟩ := Option.isSome_iff_exists.mp relates.right
  obtain ⟨relation, named, negated⟩ := relates.exists_relation
  have same : test.negate.right = some right := two
  rw [eval_of_texts two named, eval_of_texts same negated]
  simp only [map_bind, map_pure, TextRelation.holds_negate]
  rfl

/-- Nothing else happens during a negated test. -/
theorem RelatesTexts.journal_negate {test : Test H} (relates : test.RelatesTexts) :
    test.negate.journal host subject frames = test.journal host subject frames := by
  obtain ⟨right, two⟩ := Option.isSome_iff_exists.mp relates.right
  obtain ⟨relation, named, negated⟩ := relates.exists_relation
  have same : test.negate.right = some right := two
  rw [journal_of_texts two named, journal_of_texts same negated]
  rfl

/-! ## Tests in a row -/

/-- Negated tests are a row where the tests are, with the opposite truths. -/
theorem Row.negate {rows : List (Test H × Bool)} {journal : List (Moment H)}
    (row : Row host subject frames state rows journal last)
    (relate : ∀ row ∈ rows, row.1.RelatesTexts) :
    Row host subject frames state (rows.map fun row => (row.1.negate, !row.2)) journal last := by
  induction row with
  | nil state => exact .nil state
  | @cons test truth rows state between last journal first later ih =>
      obtain ⟨relates, others⟩ := List.forall_mem_cons.mp relate
      have opposite : test.negate.eval host subject state = .ok (!truth) between := by
        rw [relates.eval_negate, ← bind_pure_comp, Eval.bind_of_ok first]
        rfl
      rw [← relates.journal_negate]
      exact .cons opposite (ih others)

/-- The journal of a row leads from its first state to its last. -/
theorem Row.connects {rows : List (Test H × Bool)} {journal : List (Moment H)}
    (row : Row host subject frames state rows journal last) :
    Connects host subject state journal last := by
  rw [← row.journalOfAny, ← Eval.final_of_ok row.evalAny]
  exact journalOfAny_connects frames _ state

/-- Where all tests of a row are evaluated, under `and` those are that come first: up to the one
that is false, if there is one, and otherwise all of them as well. -/
theorem Row.exists_rest {rows : List (Test H × Bool)} {journal : List (Moment H)}
    (row : Row host subject frames state rows journal final) :
    ∃ last rest, Test.evalAll host subject (rows.map Prod.fst) state =
        .ok (rows.all Prod.snd) last ∧
      journal = journalOfAll host subject frames (rows.map Prod.fst) state ++ rest ∧
      Connects host subject last rest final ∧
      (rows.all Prod.snd = true → rest = [] ∧ last = final) := by
  induction row with
  | nil state => exact ⟨state, [], rfl, rfl, .refl state, fun _ => ⟨rfl, rfl⟩⟩
  | @cons test truth rows state between final journal first later ih =>
      simp only [List.map_cons, Test.evalAll, journalOfAll, List.all_cons]
      rw [Eval.bind_of_ok first, Eval.onward_of_ok first]
      cases truth with
      | true =>
          obtain ⟨last, rest, result, happened, onward, complete⟩ := ih
          refine ⟨last, rest, result, ?_, onward, complete⟩
          rw [happened]
          exact (List.append_assoc _ _ _).symm
      | false =>
          -- The row ends here under `and`; what the later tests do is the rest.
          refine ⟨between, journal, rfl, ?_, Row.connects later, ?_⟩
          · exact congrArg (· ++ journal) (List.append_nil _).symm
          · exact fun complete => (Bool.false_ne_true complete).elim

end

/-- **Negated tests.** Let tests relate texts. If under `or` they have a truth, the negated tests
have the opposite one under `and`. Everything that happens during these happens during those as
well, at first and in the same order, and so with the output if the host only adds lines. If none of
the tests is true, nothing else happens during them. -/
theorem combine_negated (host : Host H) (subject : Subject) (frames : Nat) {tests : List (Test H)}
    (relate : ∀ test ∈ tests, test.RelatesTexts) {state final : State H} {found : Bool}
    (ends : combine host subject "or" tests state = .ok found final) :
    let journal := journalOfCombined host subject frames "and" (tests.map negate) state
    ∃ last rest, combine host subject "and" (tests.map negate) state = .ok (!found) last ∧
      journalOfCombined host subject frames "or" tests state = journal ++ rest ∧
      Connects host subject state journal last ∧ Connects host subject last rest final ∧
      (found = false → rest = [] ∧ last = final) ∧
      (host.Keeps Extends →
        last.output = state.output ++ journal.flatMap (Moment.lines host subject) ∧
          final.output = last.output ++ rest.flatMap (Moment.lines host subject)) := by
  obtain ⟨rows, rfl, rfl, row⟩ := evalAny_eq_ok_iff.mp ends
  have negated := row.negate fun row member => relate row.1 (List.mem_map_of_mem member)
  have sameTests : (rows.map Prod.fst).map negate =
      (rows.map fun row => (row.1.negate, !row.2)).map Prod.fst := by
    simp only [List.map_map, Function.comp_def]
  have opposite : (rows.map fun row => (row.1.negate, !row.2)).all Prod.snd =
      !rows.any Prod.snd := by
    rw [List.all_map]
    exact List.not_any_eq_all_not.symm
  rw [sameTests]
  intro journal
  obtain ⟨last, rest, result, happened, onward, complete⟩ := negated.exists_rest
  rw [opposite] at result complete
  have before : Connects host subject state journal last := by
    rw [← Eval.final_of_ok result]
    exact journalOfAll_connects frames _ state
  refine ⟨last, rest, result, happened, before, onward, ?_, ?_⟩
  · intro nothing
    exact complete (congrArg not nothing)
  · exact fun grows => ⟨before.output_eq grows, onward.output_eq grows⟩

/-- Tests that print and set a variable. The second of them is true. -/
def printingTests : List (Test sampleExtension) :=
  [⟨.call "print" [.literal (.string "one")], "!=", some (.literal (.string "1"))⟩,
    ⟨.call "set" [.literal (.string "seen"), .literal (.string "yes")], "~=",
      some (.literal (.string "e"))⟩,
    ⟨.call "print" [.literal (.string "two")], "==", some (.var "seen")⟩]

/-- The negated tests stop at the second and leave the last line unwritten. -/
theorem combine_negated_printingTests :
    let host := sampleHost (some (pure ()))
    let state := (sampleState [("set", .assign)] 1 4).addFunction "print" (.builtin .print)
    (∀ test ∈ printingTests, test.RelatesTexts) ∧
      ∃ last final, combine host .absent "or" printingTests state = .ok true final ∧
        combine host .absent "and" (printingTests.map negate) state = .ok false last ∧
        last.output = ["one"] ∧ final.output = ["one", "two"] := by
  intro host state
  have relate : ∀ test ∈ printingTests, test.RelatesTexts := by
    intro test member
    simp only [printingTests, List.mem_cons, List.not_mem_nil, or_false] at member
    rcases member with rfl | rfl | rfl
    · exact ⟨by decide, rfl⟩
    · exact ⟨by decide, rfl⟩
    · exact ⟨by decide, rfl⟩
  have ends : combine host .absent "or" printingTests state = .ok true _ := rfl
  have grows : host.Keeps Extends := sampleHost_keeps (fun _ => List.prefix_refl _)
    (fun _ _ _ => List.prefix_refl _) (fun _ _ _ => List.prefix_refl _)
  obtain ⟨last, rest, opposite, _, _, _, _, written⟩ := combine_negated host .absent 1 relate ends
  exact ⟨relate, last, _, ends, opposite, (written grows).1.trans rfl, rfl⟩

end Test

end FilterScript
