import FilterScript.Proofs.Inlining

/-! # Conditions inside each other

A condition with several tests under `and` amounts to conditions of one test each, every one of them
standing alone in the branch of the one before, with the other branch repeated at each. The flat
machine does not even tell them apart: it leaves the tests at the first that is not true, and goes
on with the same branch (`runFlat_nestedConditions`). So the two forms end alike where nothing
hinders them (`nestedConditions_endsAlike`). They do differ in the depth at which the branches run
and in the trail of an error, which names each of the inner conditions.
-/

namespace FilterScript

variable {H : Extension} {host : Host H} {subject : Subject}

/-- Conditions of one test each, each of them inside the one before. -/
def Statement.nestedConditions (first : Test H) :
    List (Test H) → (whenTrue whenFalse : List (Statement H)) → Statement H
  | [], whenTrue, whenFalse => .cond [first] "and" whenTrue whenFalse
  | second :: rest, whenTrue, whenFalse =>
    .cond [first] "and" [nestedConditions second rest whenTrue whenFalse] whenFalse

/-! ## The flat machine -/

/-- To the flat machine conditions inside each other are one condition. -/
theorem runFlat_nestedConditions (first : Test H) (rest : List (Test H))
    (whenTrue whenFalse later : List (Statement H)) :
    runFlat host subject (.nestedConditions first rest whenTrue whenFalse :: later) =
      runFlat host subject (.cond (first :: rest) "and" whenTrue whenFalse :: later) := by
  -- The first test alone decides whether the others are reached, in both forms.
  induction rest generalizing first with
  | nil => rfl
  | cons second rest ih =>
      rw [Statement.nestedConditions, runFlat, List.singleton_append, ih, runFlat, runFlat]
      simp only [Test.combine, ↓reduceIte, Test.evalAll, bind_assoc]
      refine bind_congr fun found => ?_
      cases found with
      | true => simp only [↓reduceIte, pure_bind, bind_assoc]
      | false => simp only [Bool.false_eq_true, ↓reduceIte, pure_bind]

/-- What the flat machine does not tell apart, it does not tell apart behind other statements. -/
theorem runFlat_append_congr {rest rest' : List (Statement H)}
    (same : runFlat host subject rest = runFlat host subject rest') (front : List (Statement H)) :
    runFlat host subject (front ++ rest) = runFlat host subject (front ++ rest') := by
  induction front using runFlat.induct with
  | case1 => exact same
  | case2 tests combinator whenTrue whenFalse others ihTrue ihFalse =>
      simp only [List.append_assoc] at ihTrue ihFalse
      simp only [List.cons_append]
      rw [runFlat, runFlat, ihTrue, ihFalse]
  | case3 verdict others =>
      simp only [List.cons_append]
      rw [runFlat, runFlat]
  | case4 name arguments others ih =>
      simp only [List.cons_append]
      rw [runFlat, runFlat, ih]
  | case5 className others =>
      simp only [List.cons_append]
      rw [runFlat, runFlat]
  | case6 statement others ih =>
      simp only [List.cons_append]
      rw [runFlat, runFlat, ih]

/-! ## Both forms -/

/-- A statement that nothing hinders ends as it does on the flat machine. -/
theorem Statement.Unhindered.endsAlike (unhooked : host.hook = none)
    (blind : host.Respects State.Alike) {statement : Statement H} {state : State H}
    (unhindered : statement.Unhindered host subject state) :
    EndsAlike (statement.execute host subject state) (runFlat host subject [statement] state) :=
  (statement.continues unhooked blind (.refl state) unhindered []).endsAlike

/-- **Conditions inside each other.** Let there be no hook, and let nobody look at the depth. A
condition whose tests are all to be true ends as conditions of one test each inside each other do,
up to the trail of an error and the depth, if nothing hinders either. So does a script in which it
stands. -/
theorem nestedConditions_endsAlike (host : Host H) (unhooked : host.hook = none)
    (blind : host.Respects State.Alike) (subject : Subject) (first : Test H) (rest : List (Test H))
    (whenTrue whenFalse : List (Statement H)) :
    let flat : Statement H := .cond (first :: rest) "and" whenTrue whenFalse
    let nested : Statement H := .nestedConditions first rest whenTrue whenFalse
    (∀ state, flat.Unhindered host subject state → nested.Unhindered host subject state →
      EndsAlike (flat.execute host subject state) (nested.execute host subject state)) ∧
    ∀ before after state,
      Unhindered host subject (before ++ flat :: after) state →
      Unhindered host subject (before ++ nested :: after) state →
        EndsAlike (run host (before ++ flat :: after) subject state)
          (run host (before ++ nested :: after) subject state) := by
  intro flat nested
  have same (later : List (Statement H)) :
      runFlat host subject (nested :: later) = runFlat host subject (flat :: later) :=
    runFlat_nestedConditions first rest whenTrue whenFalse later
  constructor
  · intro state unhindered unhindered'
    have onFlat := unhindered.endsAlike unhooked blind
    have onNested := unhindered'.endsAlike unhooked blind
    rw [same] at onNested
    exact onFlat.trans onNested.symm
  · intro before after state unhindered unhindered'
    have onFlat := run_endsAlike_flat unhooked blind unhindered
    have onNested := run_endsAlike_flat unhooked blind unhindered'
    rw [runFlat_append_congr (same after) before] at onNested
    exact onFlat.trans onNested.symm

/-- A test that sets a variable and is true. -/
def settingTest : Test sampleExtension :=
  ⟨.call "set" [.literal (.string "seen"), .literal (.string "yes")], "", none⟩

/-- A test of the variable that is false. -/
def comparingTest : Test sampleExtension :=
  ⟨.var "seen", "==", some (.literal (.string "no"))⟩

/-- A test that calls a function that there is not. -/
def unknownTest : Test sampleExtension :=
  ⟨.call "nope" [], "", none⟩

/-- If the second test is false, its condition runs the branch, and the run ends there; if it fails,
the error takes the description of its condition with it in the one form and not in the other. -/
theorem nestedConditions_endsAlike_settingTest :
    let host := sampleHost none
    let state := sampleState [("set", .assign)] 1 4
    let last := state.setVariable "seen" (.string "yes")
    let whenFalse : List (Statement sampleExtension) := [.verdict false]
    let flat (second : Test sampleExtension) : Statement sampleExtension :=
      .cond [settingTest, second] "and" [] whenFalse
    let nested (second : Test sampleExtension) : Statement sampleExtension :=
      .nestedConditions settingTest [second] [] whenFalse
    let error : ScriptError := .ofCause (.unknownFunction "nope")
    EndsAlike (run host [flat comparingTest] .absent state)
        (run host [nested comparingTest] .absent state) ∧
      run host [nested comparingTest] .absent state = .ok (.terminate false) last ∧
      EndsAlike ((flat unknownTest).execute host .absent state)
        ((nested unknownTest).execute host .absent state) ∧
      (flat unknownTest).execute host .absent state = .error (.script error) last ∧
      (nested unknownTest).execute host .absent state =
        .error (.script (error.addContext "if (nope())")) last := by
  intro host state last whenFalse flat nested error
  have law (second : Test sampleExtension) := nestedConditions_endsAlike host rfl
    sampleHost_respects_alike .absent settingTest [second] [] whenFalse
  have flatEnds : run host [flat comparingTest] .absent state = .ok (.terminate false) last := rfl
  have nestedEnds : run host [nested comparingTest] .absent state = .ok (.terminate false) last :=
    rfl
  have innerFails : Unhindered host .absent [.cond [unknownTest] "and" [] whenFalse] last := by
    refine Unhindered.single rfl (by decide) (Statement.Unhindered.of_tests_fail rfl) ?_
      ⟨"if (nope())", rfl⟩
    intro last exhausts
    cases exhausts
  refine ⟨?_, nestedEnds, ?_, rfl, rfl⟩
  · exact (law comparingTest).2 [] [] state (Unhindered.of_ok flatEnds)
      (Unhindered.of_ok nestedEnds)
  · exact (law unknownTest).1 state (Statement.Unhindered.of_tests_fail rfl)
      (Statement.Unhindered.of_chosen rfl innerFails)

end FilterScript
