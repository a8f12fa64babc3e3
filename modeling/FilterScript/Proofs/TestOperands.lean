import FilterScript.Proofs.Journal
import FilterScript.Proofs.NumericOrder
import FilterScript.Proofs.SampleHost
import FilterScript.Proofs.TextRelations

/-! # The operands of a test

A test resolves the operands that its operator is about, the left one first and each of them once,
and fails for what one of them fails for, for its operator, or for the values that it compares
(`Test.eval_resolves`). The operator is looked at in two places: before the operands are resolved if
the right one is missing, and after it otherwise. Both know the same operators.
-/

namespace FilterScript

variable {H : Extension}

/-! ## Relations by their symbols -/

namespace Value

/-- The symbols of all relations. -/
def relationSymbols : List String := textSymbols ++ orderSymbols

variable {left right : Value} {symbol : String}

/-- There are operators of these symbols and of no others. -/
theorem isSome_ofSymbol?_iff : (Operator.ofSymbol? symbol).isSome ↔ symbol ∈ relationSymbols := by
  constructor
  · intro known
    unfold Operator.ofSymbol? at known
    split at known
    case h_9 => cases known
    all_goals decide
  · intro member
    rcases List.mem_append.mp member with text | order
    · obtain ⟨relation, named⟩ := exists_textRelation_of_mem text
      rw [named, Option.isSome_some]
    · obtain ⟨relation, named⟩ := exists_relation_of_mem order
      rw [named, Option.isSome_some]

theorem ofSymbol?_eq_none (unknown : symbol ∉ relationSymbols) :
    Operator.ofSymbol? symbol = none := by
  rw [← Option.not_isSome_iff_eq_none, isSome_ofSymbol?_iff]
  exact unknown

/-- A relation of an unknown symbol is refused, whatever the values are. -/
theorem relate_of_unknown (nonempty : symbol ≠ "") (unknown : symbol ∉ relationSymbols) :
    left.relate (some right) symbol = .error (.ofCause (.unknownOperator symbol)) := by
  simp only [relate, nonempty, ↓reduceIte, ofSymbol?_eq_none unknown]

/-- Two values can be compared by their numbers if they have some. -/
theorem relate_order_of_hasNumber (member : symbol ∈ orderSymbols) (numeric : left.HasNumber)
    (numeric' : right.HasNumber) (convertible : left.Convertible)
    (convertible' : right.Convertible) :
    ∃ truth, left.relate (some right) symbol = .ok truth := by
  obtain ⟨relation, named⟩ := exists_relation_of_mem member
  obtain ⟨x, reads⟩ := numeric.exists_number convertible
  obtain ⟨y, reads'⟩ := numeric'.exists_number convertible'
  exact ⟨_, relate_numbers reads reads' named⟩

/-- Otherwise the first of them that has none is refused. -/
theorem relate_order_refuses (member : symbol ∈ orderSymbols) (convertible : left.Convertible)
    (other : ¬ (left.HasNumber ∧ right.HasNumber)) :
    ∃ refused ∈ [left, right], ¬ refused.HasNumber ∧ left.relate (some right) symbol =
      .error (.ofCause (.notNumeric refused.render refused.typeName)) := by
  obtain ⟨relation, named⟩ := exists_relation_of_mem member
  by_cases numeric : left.HasNumber
  · have without : ¬ right.HasNumber := fun numeric' => other ⟨numeric, numeric'⟩
    have refused := number_of_not_hasNumber without
    exact ⟨right, by simp, without, relate_refuses_right named numeric convertible refused⟩
  · exact ⟨left, by simp, numeric, relate_refuses_left named (number_of_not_hasNumber numeric)⟩

/-- A value that is too large for a double is not compared by its number. -/
theorem relate_order_of_tooLarge (member : symbol ∈ orderSymbols)
    (tooLarge : ¬ left.Convertible ∨ ¬ right.Convertible) :
    ∃ failure, left.relate (some right) symbol = .error failure := by
  obtain ⟨relation, named⟩ := exists_relation_of_mem member
  by_cases convertible : left.Convertible
  · have refused := number_of_not_convertible (tooLarge.resolve_left (not_not_intro convertible))
    by_cases numeric : left.HasNumber
    · exact ⟨_, relate_refuses_right named numeric convertible refused⟩
    · exact ⟨_, relate_refuses_left named (number_of_not_hasNumber numeric)⟩
  · exact ⟨_, relate_refuses_left named (number_of_not_convertible convertible)⟩

end Value

namespace Test

/-- What comes of comparing two values; an error says which they were. -/
def compared (left right : Value) (op : String) : Except Failure Bool :=
  (left.relate (some right) op).mapError (Failure.addContext (relationContext left right op))

section

variable {left right : Value} {op : String}

theorem compared_of_ok {truth : Bool} (related : left.relate (some right) op = .ok truth) :
    compared left right op = .ok truth := by
  rw [compared, related]
  rfl

/-- Two values that cannot be compared are refused. -/
theorem exists_compared_of_error {failure : Failure}
    (refused : left.relate (some right) op = .error failure) :
    ∃ failure, compared left right op = .error failure := by
  rw [compared, refused]
  exact ⟨_, rfl⟩

/-- The error says first what was wrong and then which values were compared. -/
theorem compared_of_cause {cause : Cause}
    (refused : left.relate (some right) op = .error (.ofCause cause)) :
    compared left right op = .error (.script ⟨cause, [relationContext left right op]⟩) := by
  rw [compared, refused]
  rfl

end

variable (host : Host H) (subject : Subject) (frames : Nat) {test : Test H} (state : State H)

/-- A test without an operator asks its operand for its truth. -/
theorem eval_of_single (single : test.op = "") :
    test.eval host subject state = (test.left.resolve host subject >>= truth) state ∧
      test.journal host subject frames state = test.left.journal host subject frames state ++
        (test.left.resolve host subject).onward (journalOfTruth frames) state := by
  simp only [eval, journal, single, ↓reduceIte, and_self]

/-- Asking a value for its truth writes a line if there is something to be said about it. -/
theorem truth_apply (value : Value) (state : State H) :
    (truth value : Eval H Bool) state =
      .ok value.truthy (value.truthWarning?.elim state state.warn) := by
  unfold truth
  cases value.truthWarning? <;> rfl

/-- A test that lacks the second operand fails before anything happens. -/
theorem eval_of_unpaired (relates : test.op ≠ "") (unpaired : test.right = none) :
    test.eval host subject state = .error (.ofCause (missingRight test.op)) state ∧
      test.journal host subject frames state = [] := by
  simp only [eval, journal, relates, unpaired, ↓reduceIte, Eval.fail_apply, and_self]

/-- A test with two operands resolves both, the left one first, and compares the values. -/
theorem eval_of_paired {right : Operand H} (relates : test.op ≠ "")
    (paired : test.right = some right) :
    test.eval host subject state = (test.left.resolve host subject >>= fun left =>
        right.resolve host subject >>= fun right =>
          Eval.ofExcept (compared left right test.op)) state ∧
      test.journal host subject frames state = test.left.journal host subject frames state ++
        (test.left.resolve host subject).onward
          (fun _ => right.journal host subject frames) state := by
  simp only [eval, journal, relates, paired, ↓reduceIte, compared, and_self]

/-- **What a test resolves, and what it fails for.** Under the empty operator the left operand is
resolved and nothing else, and the test fails if that does. Under another operator a test without a
right operand fails before anything is resolved. Otherwise the left operand is resolved and then the
right one; if one of them fails, the test fails for what it has failed for, and for nothing more. If
both have values, the test fails for an operator that there is not, whatever the values are; it does
not fail under a relation of texts; and under a relation of numbers it fails if and only if one of
the values is no text and no signed integer, or is a number too large for a double. -/
theorem eval_resolves (host : Host H) (subject : Subject) (frames : Nat) (test : Test H)
    (state : State H) :
    let evaluated := test.eval host subject state
    let journal := test.journal host subject frames state
    let left := test.left.resolve host subject
    let leftJournal := test.left.journal host subject frames state
    (test.op = "" →
      (∀ failure last, left state = .error failure last →
        evaluated = .error failure last ∧ journal = leftJournal) ∧
      ∀ value between, left state = .ok value between →
        evaluated = .ok value.truthy (value.truthWarning?.elim between between.warn) ∧
          journal = leftJournal ++ journalOfTruth frames value between) ∧
    (test.op ≠ "" → test.right = none →
      journal = [] ∧ evaluated = .error (.ofCause
        (if test.op ∈ Value.relationSymbols then .missingOperand test.op
          else .unknownOperator test.op)) state) ∧
    ∀ right, test.op ≠ "" → test.right = some right →
      (∀ failure last, left state = .error failure last →
        evaluated = .error failure last ∧ journal = leftJournal) ∧
      ∀ value between, left state = .ok value between →
        journal = leftJournal ++ right.journal host subject frames between ∧
        (∀ failure last, right.resolve host subject between = .error failure last →
          evaluated = .error failure last) ∧
        ∀ value' last, right.resolve host subject between = .ok value' last →
          (test.op ∉ Value.relationSymbols → evaluated = .error
            (.script ⟨.unknownOperator test.op, [relationContext value value' test.op]⟩) last) ∧
          (test.op ∈ Value.textSymbols → ∃ truth, evaluated = .ok truth last) ∧
          (test.op ∈ Value.orderSymbols →
            (value.Convertible → value'.Convertible →
              (value.HasNumber → value'.HasNumber → ∃ truth, evaluated = .ok truth last) ∧
              (¬ (value.HasNumber ∧ value'.HasNumber) → ∃ refused ∈ [value, value'],
                ¬ refused.HasNumber ∧ evaluated = .error
                  (.script ⟨.notNumeric refused.render refused.typeName,
                    [relationContext value value' test.op]⟩) last)) ∧
            (¬ value.Convertible ∨ ¬ value'.Convertible →
              ∃ failure, evaluated = .error failure last)) := by
  intro evaluated journal left leftJournal
  refine ⟨fun single => ?_, fun relates unpaired => ?_, fun right relates paired => ?_⟩
  · obtain ⟨does, happens⟩ := eval_of_single host subject frames state single
    constructor
    · intro failure last fails
      exact ⟨does.trans (Eval.bind_of_error fails),
        happens.trans (by rw [Eval.onward_of_error fails, List.append_nil])⟩
    · intro value between resolves
      exact ⟨does.trans ((Eval.bind_of_ok resolves).trans (truth_apply value between)),
        happens.trans (by rw [Eval.onward_of_ok resolves])⟩
  · obtain ⟨does, happens⟩ := eval_of_unpaired host subject frames state relates unpaired
    refine ⟨happens, does.trans ?_⟩
    simp only [missingRight, Value.isSome_ofSymbol?_iff]
  · obtain ⟨does, happens⟩ := eval_of_paired host subject frames state relates paired
    constructor
    · intro failure last fails
      exact ⟨does.trans (Eval.bind_of_error fails),
        happens.trans (by rw [Eval.onward_of_error fails, List.append_nil])⟩
    · intro value between resolves
      have onward := does.trans (Eval.bind_of_ok resolves)
      refine ⟨happens.trans (by rw [Eval.onward_of_ok resolves]), fun failure last fails =>
        onward.trans (Eval.bind_of_error fails), fun value' last resolves' => ?_⟩
      have ends : evaluated = Eval.ofExcept (compared value value' test.op) last :=
        onward.trans (Eval.bind_of_ok resolves')
      refine ⟨fun unknown => ?_, fun texts => ?_, fun order =>
        ⟨fun convertible convertible' => ⟨fun numeric numeric' => ?_, fun other => ?_⟩,
          fun tooLarge => ?_⟩⟩
      · rw [ends, compared_of_cause (Value.relate_of_unknown relates unknown),
          Eval.ofExcept_error]
      · obtain ⟨truth, related⟩ := Value.relate_texts value value' texts
        exact ⟨truth, by rw [ends, compared_of_ok related, Eval.ofExcept_ok]⟩
      · obtain ⟨truth, related⟩ :=
          Value.relate_order_of_hasNumber order numeric numeric' convertible convertible'
        exact ⟨truth, by rw [ends, compared_of_ok related, Eval.ofExcept_ok]⟩
      · obtain ⟨refused, member, without, refuses⟩ :=
          Value.relate_order_refuses order convertible other
        refine ⟨refused, member, without, ?_⟩
        rw [ends, compared_of_cause refuses, Eval.ofExcept_error]
      · obtain ⟨_, refused⟩ := Value.relate_order_of_tooLarge order tooLarge
        obtain ⟨failure, refuses⟩ := exists_compared_of_error refused
        exact ⟨failure, by rw [ends, refuses, Eval.ofExcept_error]⟩

/-- A test that sets a variable to a text and compares this text. -/
def comparing (op : String) (right : Option (Operand sampleExtension)) : Test sampleExtension :=
  ⟨.call "set" [.literal (.string "seen"), .literal (.string "yes")], op, right⟩

/-- Each way for such a test to end, with a right operand that is a truth value, that is a call of
a function that there is not, or that is missing. -/
theorem eval_resolves_comparing :
    let eval := fun op right state =>
      (comparing op right).eval (sampleHost none) .absent state
    let state := sampleState [("set", .assign)] 1 4
    let last := state.setVariable "seen" (.string "yes")
    let yes : Operand sampleExtension := .literal (.bool true)
    let nope : Operand sampleExtension := .call "nope" []
    let entry := relationContext (.string "yes") (.boolean true)
    eval "" (some nope) state = .ok true last ∧
      eval "<>" none state = .error (.ofCause (.unknownOperator "<>")) state ∧
      eval ">=" none state = .error (.ofCause (.missingOperand ">=")) state ∧
      eval "==" (some nope) state = .error (.ofCause (.unknownFunction "nope")) last ∧
      eval "<>" (some yes) state = .error (.script ⟨.unknownOperator "<>", [entry "<>"]⟩) last ∧
      (∃ truth, eval "!~" (some yes) state = .ok truth last) ∧
      eval ">=" (some yes) state =
        .error (.script ⟨.notNumeric "true" "boolean", [entry ">="]⟩) last := by
  intro eval state last yes nope entry
  have law := fun op right =>
    eval_resolves (sampleHost none) .absent 1 (comparing op right) state
  have set : (Operand.call "set" [.literal (.string "seen"), .literal (.string "yes")]).resolve
      (sampleHost none) .absent state = .ok (.string "yes") last := rfl
  have paired := fun op relates =>
    (((law op (some yes)).2.2 yes relates rfl).2 _ _ set).2.2 (.boolean true) last rfl
  refine ⟨?_, ?_, ?_, ?_, ?_, ?_, ?_⟩
  · exact (((law "" (some nope)).1 rfl).2 _ _ set).1
  · exact ((law "<>" none).2.1 (by decide) rfl).2
  · exact ((law ">=" none).2.1 (by decide) rfl).2
  · exact (((law "==" (some nope)).2.2 nope (by decide) rfl).2 _ _ set).2.1 _ _ rfl
  · exact (paired "<>" (by decide)).1 (by decide)
  · exact (paired "!~" (by decide)).2.1 (by decide)
  · obtain ⟨refused, member, without, ends⟩ :=
      (((paired ">=" (by decide)).2.2 (by decide)).1 nofun nofun).2 fun numeric => numeric.2
    simp only [List.mem_cons, List.not_mem_nil, or_false] at member
    rcases member with rfl | rfl
    · exact (without trivial).elim
    · exact ends

end Test

end FilterScript
