import FilterScript.Proofs.Journal
import FilterScript.Proofs.SampleHost

/-! # The order of calls

A call looks its function up, then resolves its arguments from left to right, each in the state that
the one before it has left, and then calls the function that it has found, whatever the arguments
have made of the name meanwhile (`Operand.call_evaluates`). The calls inside an operand form a
forest, a call above those among its arguments. When nothing fails, their functions are looked up in
the order in which the forest is read from the top, and called in the order in which it is read from
the bottom.
-/

namespace FilterScript

variable {H : Extension} {α β : Type}

/-! ## Forests of calls -/

/-- Calls side by side, each with a label and with the calls among its arguments. -/
inductive CallForest (α : Type) where
  | nil
  | node (label : α) (inner rest : CallForest α)

namespace CallForest

/-- The labels in order, each before those inside it. -/
def preorder : CallForest α → List α
  | .nil => []
  | .node label inner rest => label :: (inner.preorder ++ rest.preorder)

/-- The labels in order, each behind those inside it. -/
def postorder : CallForest α → List α
  | .nil => []
  | .node label inner rest => inner.postorder ++ label :: rest.postorder

/-- The forest with other labels. -/
def map (change : α → β) : CallForest α → CallForest β
  | .nil => .nil
  | .node label inner rest => .node (change label) (inner.map change) (rest.map change)

/-- The calls of one forest beside those of another. -/
def append : CallForest α → CallForest α → CallForest α
  | .nil, other => other
  | .node label inner rest, other => .node label inner (rest.append other)

/-- The calls of two forests in a row are read from the top one forest after the other. -/
theorem preorder_append (forest other : CallForest α) :
    (forest.append other).preorder = forest.preorder ++ other.preorder := by
  induction forest with
  | nil => rfl
  | node label inner rest _ ih =>
      simp only [append, preorder, ih, List.cons_append, List.append_assoc]

/-- The calls of two forests in a row are read from the bottom one forest after the other. -/
theorem postorder_append (forest other : CallForest α) :
    (forest.append other).postorder = forest.postorder ++ other.postorder := by
  induction forest with
  | nil => rfl
  | node label inner rest _ ih =>
      simp only [append, postorder, ih, List.cons_append, List.append_assoc]

/-- Labels are changed forest by forest. -/
theorem map_append (change : α → β) (forest other : CallForest α) :
    (forest.append other).map change = (forest.map change).append (other.map change) := by
  induction forest with
  | nil => rfl
  | node label inner rest _ ih => simp only [append, map, ih]

end CallForest

mutual

/-- The names in the calls of an operand. -/
def Operand.calls : Operand H → CallForest String
  | .call name arguments => .node name (callsOfOperands arguments) .nil
  | .literal _ | .field _ | .var _ | .bare _ | .host _ => .nil

/-- The names in the calls of operands, from left to right. -/
def callsOfOperands : List (Operand H) → CallForest String
  | [] => .nil
  | operand :: rest => operand.calls.append (callsOfOperands rest)

end

/-! ## Operands in a row -/

namespace Operand

/-- Operands are resolved in a row to the given values. -/
abbrev Row (host : Host H) (subject : Subject) (frames : Nat) :
    State H → List (Operand H × Value) → List (Moment H) → State H → Prop :=
  FilterScript.Row (Operand.resolve host subject) (Operand.journal host subject frames)

section

variable {host : Host H} {subject : Subject} {frames : Nat} {state between last : State H}
  {rows : List (Operand H × Value)} {journal : List (Moment H)}

/-- The operands of a row are resolved to its values, and nothing happens but what happens in the
row. -/
theorem Row.resolveAll (row : Row host subject frames state rows journal last) :
    FilterScript.resolveAll host subject (rows.map Prod.fst) state =
        .ok (rows.map Prod.snd) last ∧
      journalOfOperands host subject frames (rows.map Prod.fst) state = journal := by
  induction row with
  | nil state => exact ⟨rfl, rfl⟩
  | cons first later ih =>
      simp only [List.map_cons, FilterScript.resolveAll, journalOfOperands]
      rw [Eval.bind_of_ok first, Eval.bind_of_ok ih.1, Eval.onward_of_ok first, ih.2]
      exact ⟨rfl, rfl⟩

/-- Operands behind a row are not resolved if the one that comes next fails. -/
theorem Row.resolveAll_of_error {operand : Operand H} {failure : Failure}
    (row : Row host subject frames state rows journal between)
    (fails : operand.resolve host subject between = .error failure last)
    (rest : List (Operand H)) :
    FilterScript.resolveAll host subject (rows.map Prod.fst ++ operand :: rest) state =
        .error failure last ∧
      journalOfOperands host subject frames (rows.map Prod.fst ++ operand :: rest) state =
        journal ++ operand.journal host subject frames between := by
  induction row with
  | nil state =>
      simp only [List.map_nil, List.nil_append, FilterScript.resolveAll, journalOfOperands]
      rw [Eval.bind_of_error fails, Eval.onward_of_error fails, List.append_nil]
      exact ⟨rfl, rfl⟩
  | cons first later ih =>
      obtain ⟨result, happened⟩ := ih fails
      simp only [List.map_cons, List.cons_append, FilterScript.resolveAll, journalOfOperands]
      rw [Eval.bind_of_ok first, Eval.bind_of_error result, Eval.onward_of_ok first, happened,
        List.append_assoc]
      exact ⟨rfl, rfl⟩

end

end Operand

/-! ## A call -/

namespace Operand

section

variable {host : Host H} {subject : Subject} (frames : Nat) {state called : State H}
  {name : String} {arguments : List (Operand H)} {function : Callable H}

/-- A call of a function that there is not fails after the lookup, and no argument is resolved. -/
theorem call_of_unknown (host : Host H) (subject : Subject) (arguments : List (Operand H))
    (absent : state.functions.get? name = none) :
    (Operand.call name arguments).resolve host subject state =
        .error (.ofCause (.unknownFunction name)) state ∧
      (Operand.call name arguments).journal host subject frames state =
        [⟨.lookup name, frames, state⟩] := by
  simp only [resolve, journal]
  rw [Eval.bind_of_ok (Eval.get_apply _), absent]
  exact ⟨rfl, rfl⟩

/-- A function that is found is called with the values of its arguments, after they are resolved. -/
theorem call_of_resolved {values : List Value}
    (found : state.functions.get? name = some function)
    (resolved : resolveAll host subject arguments state = .ok values called) :
    (Operand.call name arguments).resolve host subject state =
        function.call host values called ∧
      (Operand.call name arguments).journal host subject frames state =
        ⟨.lookup name, frames, state⟩ ::
          (journalOfOperands host subject frames arguments state ++
            [⟨.call function values, frames, called⟩]) := by
  simp only [resolve, journal]
  rw [Eval.bind_of_ok (Eval.get_apply _), found]
  simp only
  rw [Eval.bind_of_ok resolved, Eval.onward_of_ok resolved]
  exact ⟨rfl, rfl⟩

/-- A function that is found is not called if one of its arguments fails. -/
theorem call_of_failing {failure : Failure}
    (found : state.functions.get? name = some function)
    (fails : resolveAll host subject arguments state = .error failure called) :
    (Operand.call name arguments).resolve host subject state = .error failure called ∧
      (Operand.call name arguments).journal host subject frames state =
        ⟨.lookup name, frames, state⟩ ::
          journalOfOperands host subject frames arguments state := by
  simp only [resolve, journal]
  rw [Eval.bind_of_ok (Eval.get_apply _), found]
  simp only
  rw [Eval.bind_of_error fails, Eval.onward_of_error fails, List.append_nil]
  exact ⟨rfl, rfl⟩

end

end Operand

/-! ## The calls of an operand -/

/-- A call that is made: the function that is found under the name in one state, and the values that
it is called with in another. -/
structure Invocation (H : Extension) where
  name : String
  function : Callable H
  found : State H
  arguments : List Value
  called : State H

namespace Invocation

/-- The moment at which the function is looked up. -/
def lookup (frames : Nat) (invocation : Invocation H) : Moment H :=
  ⟨.lookup invocation.name, frames, invocation.found⟩

/-- The moment at which the function is called. -/
def call (frames : Nat) (invocation : Invocation H) : Moment H :=
  ⟨.call invocation.function invocation.arguments, frames, invocation.called⟩

end Invocation

namespace Event

/-- A function is looked up. -/
def isLookup : Event H → Bool
  | .lookup _ => true
  | _ => false

/-- A function is called. -/
def isCall : Event H → Bool
  | .call _ _ => true
  | _ => false

end Event

/-- The functions of the forest are found under their names, looked up in the order in which it is
read from the top, and called in the order in which it is read from the bottom; no others are. -/
structure Visits (frames : Nat) (journal : List (Moment H)) (forest : CallForest (Invocation H)) :
    Prop where
  found : ∀ invocation ∈ forest.preorder,
    invocation.found.functions.get? invocation.name = some invocation.function
  lookups : journal.filter (·.event.isLookup) = forest.preorder.map (Invocation.lookup frames)
  calls : journal.filter (·.event.isCall) = forest.postorder.map (Invocation.call frames)

namespace Visits

variable {frames : Nat} {journal more : List (Moment H)} {forest other : CallForest (Invocation H)}

theorem nil : Visits frames ([] : List (Moment H)) .nil := ⟨List.forall_mem_nil _, rfl, rfl⟩

/-- Two journals visit the calls of two forests side by side. -/
theorem append (first : Visits frames journal forest) (second : Visits frames more other) :
    Visits frames (journal ++ more) (forest.append other) where
  found := by
    rw [CallForest.preorder_append, List.forall_mem_append]
    exact ⟨first.found, second.found⟩
  lookups := by
    rw [List.filter_append, first.lookups, second.lookups, CallForest.preorder_append,
      List.map_append]
  calls := by
    rw [List.filter_append, first.calls, second.calls, CallForest.postorder_append,
      List.map_append]

/-- A call is looked up before the calls among its arguments and called after them. -/
theorem node {name : String} {function : Callable H} {state called : State H}
    {values : List Value} (found : state.functions.get? name = some function)
    (inside : Visits frames journal forest) :
    Visits frames (⟨.lookup name, frames, state⟩ ::
        (journal ++ [⟨.call function values, frames, called⟩]))
      (.node ⟨name, function, state, values, called⟩ forest .nil) where
  found := by
    simp only [CallForest.preorder, List.append_nil]
    exact List.forall_mem_cons.mpr ⟨found, inside.found⟩
  lookups := by
    rw [List.filter_cons_of_pos rfl, List.filter_append, inside.lookups]
    simp only [CallForest.preorder, List.append_nil]
    exact congrArg _ (List.append_nil _)
  calls := by
    rw [List.filter_cons_of_neg (by exact Bool.false_ne_true), List.filter_append, inside.calls]
    simp only [CallForest.postorder, List.map_append]
    rfl

end Visits

section

variable {host : Host H} {subject : Subject} {frames : Nat}

mutual

/-- When an operand has a value, its journal visits the calls in it. -/
theorem Operand.exists_visits :
    (operand : Operand H) → (state : State H) → {value : Value} → {last : State H} →
      operand.resolve host subject state = .ok value last →
        ∃ forest, forest.map Invocation.name = operand.calls ∧
          Visits frames (operand.journal host subject frames state) forest
  | .call name arguments, state, value, last, succeeds => by
      cases found : state.functions.get? name with
      | none =>
          rw [(Operand.call_of_unknown frames host subject arguments found).1] at succeeds
          cases succeeds
      | some function =>
          cases resolved : resolveAll host subject arguments state with
          | error failure called =>
              rw [(Operand.call_of_failing frames found resolved).1] at succeeds
              cases succeeds
          | ok values called =>
              obtain ⟨forest, names, visits⟩ := exists_visitsOfAll arguments state resolved
              refine ⟨.node ⟨name, function, state, values, called⟩ forest .nil, ?_, ?_⟩
              · simp only [CallForest.map, Operand.calls, names]
              · rw [(Operand.call_of_resolved frames found resolved).2]
                exact visits.node found
  | .literal _, _, _, _, _ | .field _, _, _, _, _ | .bare _, _, _, _, _ => by
      refine ⟨.nil, by simp only [Operand.calls, CallForest.map], ?_⟩
      simp only [Operand.journal]
      exact .nil
  | .var _, _, _, _, _ | .host _, _, _, _, _ => by
      refine ⟨.nil, by simp only [Operand.calls, CallForest.map], ?_⟩
      simp only [Operand.journal]
      exact ⟨List.forall_mem_nil _, rfl, rfl⟩

/-- When operands have values, their journal visits the calls in all of them. -/
theorem exists_visitsOfAll :
    (operands : List (Operand H)) → (state : State H) → {values : List Value} →
      {last : State H} → resolveAll host subject operands state = .ok values last →
        ∃ forest, forest.map Invocation.name = callsOfOperands operands ∧
          Visits frames (journalOfOperands host subject frames operands state) forest
  | [], _, _, _, _ => by
      refine ⟨.nil, by simp only [callsOfOperands, CallForest.map], ?_⟩
      simp only [journalOfOperands]
      exact .nil
  | operand :: rest, state, values, last, succeeds => by
      simp only [resolveAll] at succeeds
      obtain ⟨value, between, first, later⟩ := Eval.bind_eq_ok_iff.mp succeeds
      obtain ⟨others, final, resolved, -⟩ := Eval.bind_eq_ok_iff.mp later
      obtain ⟨forest, names, visits⟩ := operand.exists_visits state first
      obtain ⟨more, namesOfRest, visitsOfRest⟩ := exists_visitsOfAll rest between resolved
      refine ⟨forest.append more, ?_, ?_⟩
      · simp only [CallForest.map_append, names, namesOfRest, callsOfOperands]
      · simp only [journalOfOperands]
        rw [Eval.onward_of_ok first]
        exact visits.append visitsOfRest

end

end

namespace Operand

/-- **How a call is evaluated.** The function is looked up first; if there is none of the name, the
call fails for that, and no argument is resolved. Otherwise the arguments are resolved in order. If
they all have values, the function that was found is called with these, in the state that the last
of them has left, and the call ends in what that ends in; if one fails, the call fails for the same,
and neither are the arguments behind it resolved nor is the function called. Nothing else happens,
and everything that happens finds the state that was left before it. If the call succeeds, the
functions of all calls in it are looked up in the order in which the calls are read from the top,
and called in the order in which they are read from the bottom. -/
theorem call_evaluates (host : Host H) (subject : Subject) (frames : Nat) (name : String)
    (arguments : List (Operand H)) (state : State H) :
    let call := Operand.call name arguments
    let result := call.resolve host subject state
    let journal := call.journal host subject frames state
    let lookup : Moment H := ⟨.lookup name, frames, state⟩
    let row := Row host subject frames state
    (state.functions.get? name = none →
      result = .error (.ofCause (.unknownFunction name)) state ∧ journal = [lookup]) ∧
    (∀ function, state.functions.get? name = some function →
      (∀ rows during called, arguments = rows.map Prod.fst → row rows during called →
        result = function.call host (rows.map Prod.snd) called ∧
          journal = lookup :: (during ++
            [⟨.call function (rows.map Prod.snd), frames, called⟩])) ∧
      (∀ rows argument rest during between failure last,
        arguments = rows.map Prod.fst ++ argument :: rest → row rows during between →
          argument.resolve host subject between = .error failure last →
            result = .error failure last ∧
              journal = lookup :: (during ++ argument.journal host subject frames between)) ∧
      ((∃ rows during called, arguments = rows.map Prod.fst ∧ row rows during called) ∨
        ∃ rows argument rest during between failure last,
          arguments = rows.map Prod.fst ++ argument :: rest ∧ row rows during between ∧
            argument.resolve host subject between = .error failure last)) ∧
    Connects host subject state journal ((call.resolve host subject).final state) ∧
    (∀ value last, result = .ok value last → ∃ forest,
      forest.map Invocation.name = call.calls ∧ Visits frames journal forest) := by
  intro call result journal lookup row
  refine ⟨call_of_unknown frames host subject arguments, fun function found => ⟨?_, ?_, ?_⟩,
    call.journal_connects frames state, fun value last => exists_visits call state⟩
  · rintro rows during called rfl row
    obtain ⟨resolved, happened⟩ := row.resolveAll
    have law := call_of_resolved frames found resolved
    rw [happened] at law
    exact law
  · rintro rows argument rest during between failure last rfl row fails
    obtain ⟨failed, happened⟩ := row.resolveAll_of_error fails rest
    have law := call_of_failing frames found failed
    rw [happened] at law
    exact law
  · rcases row_or_first_failure (Operand.resolve host subject)
      (Operand.journal host subject frames) arguments state with ⟨rows, during, called, all, row⟩ |
      ⟨rows, argument, rest, _, failure, last, split, during, between, row, fails, _⟩
    · exact .inl ⟨rows, during, called, all, row⟩
    · exact .inr ⟨rows, argument, rest, during, between, failure, last, split, row, fails⟩

/-- A function that is replaced while its arguments are resolved is called nevertheless. -/
theorem call_evaluates_replaced :
    let host := sampleHost none
    let state := sampleState [("set", .assign), ("swap", .define "set" (.refuse "no"))] 1 4
    let swapped := state.addFunction "set" (.host (.refuse "no"))
    let swap : Operand sampleExtension := .call "swap" []
    let yes : Operand sampleExtension := .literal (.string "yes")
    let nope : Operand sampleExtension := .call "nope" [swap]
    let set := Operand.call "set" [swap, yes]
    nope.resolve host .absent state = .error (.ofCause (.unknownFunction "nope")) state ∧
      (Operand.call "set" [swap, nope, swap]).resolve host .absent state =
        .error (.ofCause (.unknownFunction "nope")) swapped ∧
      set.resolve host .absent state =
        .ok (.string "yes") (swapped.setVariable "true" (.string "yes")) ∧
      ∃ forest, forest.map Invocation.name = .node "set" (.node "swap" .nil .nil) .nil ∧
        Visits 1 (set.journal host .absent 1 state) forest := by
  intro host state swapped swap yes nope set
  have law := call_evaluates host .absent 1
  have first : swap.resolve host .absent state = .ok (.boolean true) swapped := rfl
  have second : yes.resolve host .absent swapped = .ok (.string "yes") swapped := rfl
  have fails : nope.resolve host .absent swapped =
      .error (.ofCause (.unknownFunction "nope")) swapped := ((law "nope" [swap] swapped).1 rfl).1
  have succeeds : set.resolve host .absent state =
      .ok (.string "yes") (swapped.setVariable "true" (.string "yes")) :=
    (((law "set" [swap, yes] state).2.1 (.host .assign) rfl).1
      [(swap, .boolean true), (yes, .string "yes")] _ swapped rfl
      (.cons first (.cons second (.nil _)))).1
  refine ⟨((law "nope" [swap] state).1 rfl).1, ?_, succeeds, ?_⟩
  · exact (((law "set" [swap, nope, swap] state).2.1 (.host .assign) rfl).2.1
      [(swap, .boolean true)] nope [swap] _ swapped _ swapped rfl
      (.cons first (.nil _)) fails).1
  · obtain ⟨forest, names, visits⟩ := (law "set" [swap, yes] state).2.2.2 _ _ succeeds
    refine ⟨forest, names.trans ?_, visits⟩
    simp only [calls, callsOfOperands, CallForest.append, swap, yes]

end Operand

end FilterScript
