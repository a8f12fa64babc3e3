import FilterScript.Proofs.Trail

/-! # Errors that are masked

The description of a statement shows the literals in its tests and arguments, and to show a literal
its value is needed. The value is refused if somewhere in the literal there is a whole number that
neither an `int` nor a `uint64` holds. Such a misfit need not have been looked at before: it may
stand in a test that was never evaluated.

An error that leaves statements without misfits is kept, and only its trail grows. An error that
leaves a statement with a misfit is lost: what goes on is the refusal of the first misfit
(`run_error_kept_or_masked`).
-/

namespace FilterScript

variable {H : Extension} {α β : Type}

/-! ## Misfits -/

/-- A whole number is held by an `int` or by a `uint64`. -/
def Fits (n : Int) : Prop := IntKind.int.low ≤ n ∧ n ≤ IntKind.uint64.high

instance (n : Int) : Decidable (Fits n) := inferInstanceAs (Decidable (_ ∧ _))

mutual

/-- The whole numbers in a host value that do not fit, in order. -/
def Native.misfits : Native → List Int
  | .int n => if Fits n then [] else [n]
  | .list items | .tuple items => misfitsOfItems items
  | .mapping entries => misfitsOfEntries entries
  | .none | .bool _ | .float _ | .string _ | .object _ _ | .value _ => []

def misfitsOfItems : List Native → List Int
  | [] => []
  | item :: rest => item.misfits ++ misfitsOfItems rest

def misfitsOfEntries : List (NativeKey × Native) → List Int
  | [] => []
  | (_, item) :: rest => item.misfits ++ misfitsOfEntries rest

end

mutual

/-- The misfits that the description of an operand shows. -/
def Operand.misfits : Operand H → List Int
  | .literal value => value.misfits
  | .call _ arguments => misfitsOfOperands arguments
  | .field _ | .var _ | .bare _ | .host _ => []

def misfitsOfOperands : List (Operand H) → List Int
  | [] => []
  | operand :: rest => operand.misfits ++ misfitsOfOperands rest

end

/-- The misfits that the description of a test shows. -/
def Test.misfits (test : Test H) : List Int :=
  test.left.misfits ++
    if test.op = "" then []
    else
      match test.right with
      | some right => right.misfits
      | none => []

/-- The misfits that the description of a statement shows. -/
def Statement.misfits : Statement H → List Int
  | .cond tests _ _ _ => tests.flatMap Test.misfits
  | .call name arguments => (Operand.call name arguments).misfits
  | .verdict _ | .inert _ | .host _ => []

/-! ## The first misfit is refused -/

/-- The result is given if there are no misfits, and otherwise the first of them is refused. -/
def RefusesFirst (result : Except Cause α) : List Int → Prop
  | [] => ∃ value, result = .ok value
  | n :: _ => result = .error (.outOfRange n IntKind.int.name)

namespace RefusesFirst

theorem ok (value : α) : RefusesFirst (.ok value : Except Cause α) [] := ⟨value, rfl⟩

/-- What needs two results in order refuses the first misfit of both. -/
theorem bind {result : Except Cause α} {next : α → Except Cause β} {front back : List Int}
    (first : RefusesFirst result front) (second : ∀ value, RefusesFirst (next value) back) :
    RefusesFirst (result >>= next) (front ++ back) := by
  cases front with
  | nil =>
      obtain ⟨value, rfl⟩ := first
      exact second value
  | cons n others =>
      have refused : result = .error (.outOfRange n IntKind.int.name) := first
      rw [refused]
      rfl

/-- Changing the result does not change what is refused. -/
theorem map {result : Except Cause α} {misfits : List Int} (first : RefusesFirst result misfits)
    (change : α → β) :
    RefusesFirst (result >>= fun value => pure (change value)) misfits := by
  rw [← List.append_nil misfits]
  exact first.bind fun value => ok (change value)

/-- What is done item by item refuses the first misfit of the first item that has one. -/
theorem mapM {ι : Type} {step : ι → Except Cause α} {misfits : ι → List Int}
    (each : ∀ item, RefusesFirst (step item) (misfits item)) (items : List ι) :
    RefusesFirst (items.mapM step) (items.flatMap misfits) := by
  induction items with
  | nil => exact ok []
  | cons item rest ih =>
      rw [List.mapM_cons, List.flatMap_cons]
      exact (each item).bind fun value => ih.map (value :: ·)

end RefusesFirst

/-- A whole number is refused exactly if it does not fit. -/
theorem Value.ofNativeInt_refusesFirst (n : Int) :
    RefusesFirst (Value.ofNativeInt n) (if Fits n then [] else [n]) := by
  have low : IntKind.int.low = -9223372036854775808 := by decide
  have high : IntKind.int.high = 9223372036854775807 := by decide
  have unsignedLow : IntKind.uint64.low = 0 := by decide
  have unsignedHigh : IntKind.uint64.high = 18446744073709551615 := by decide
  unfold Value.ofNativeInt Value.ofInt
  by_cases beyond : IntKind.int.high < n ∧ n ≤ IntKind.uint64.high
  · have holds : IntKind.uint64.Holds n := by
      unfold IntKind.Holds
      omega
    have fits : Fits n := by
      unfold Fits
      omega
    simp only [beyond, and_self, holds, fits, ↓reduceIte]
    exact .ok _
  · simp only [beyond, ↓reduceIte]
    by_cases holds : IntKind.int.Holds n
    · have fits : Fits n := by
        unfold IntKind.Holds at holds
        unfold Fits
        omega
      simp only [holds, fits, ↓reduceIte]
      exact .ok _
    · have misfit : ¬ Fits n := by
        unfold IntKind.Holds at holds
        unfold Fits
        omega
      simp only [holds, misfit, ↓reduceIte]
      rfl

mutual

/-- The value of a host value is refused for the first whole number that does not fit. -/
theorem Value.ofNative_refusesFirst : (native : Native) →
    RefusesFirst (Value.ofNative native) native.misfits
  | .int n => by
      simp only [Value.ofNative, Native.misfits]
      exact ofNativeInt_refusesFirst n
  | .list items | .tuple items => by
      simp only [Value.ofNative, Native.misfits]
      exact (ofNatives_refusesFirst items).map Value.array
  | .mapping entries => by
      simp only [Value.ofNative, Native.misfits]
      exact (ofNativeEntries_refusesFirst entries).map ofPairs
  | .none | .bool _ | .float _ | .string _ | .object _ _ | .value _ => by
      simp only [Value.ofNative, Native.misfits]
      exact .ok _

theorem Value.ofNatives_refusesFirst : (items : List Native) →
    RefusesFirst (Value.ofNatives items) (misfitsOfItems items)
  | [] => by
      simp only [Value.ofNatives, misfitsOfItems]
      exact .ok _
  | item :: rest => by
      simp only [Value.ofNatives, misfitsOfItems]
      exact (ofNative_refusesFirst item).bind fun value =>
        (ofNatives_refusesFirst rest).map (value :: ·)

theorem Value.ofNativeEntries_refusesFirst : (entries : List (NativeKey × Native)) →
    RefusesFirst (Value.ofNativeEntries entries) (misfitsOfEntries entries)
  | [] => by
      simp only [Value.ofNativeEntries, misfitsOfEntries]
      exact .ok _
  | (key, item) :: rest => by
      simp only [Value.ofNativeEntries, misfitsOfEntries]
      exact (ofNative_refusesFirst item).bind fun value =>
        (ofNativeEntries_refusesFirst rest).map ((key.text, value) :: ·)

end

section

variable (descriptions : Descriptions H)

mutual

/-- An operand is described unless it has a misfit, and then refused for the first. -/
theorem Operand.describe_refusesFirst : (operand : Operand H) →
    RefusesFirst (operand.describe descriptions) operand.misfits
  | .literal value => by
      simp only [Operand.describe, Operand.misfits]
      exact (Value.ofNative_refusesFirst value).map fun value => Text.quoted value.render
  | .call name arguments => by
      simp only [Operand.describe, Operand.misfits]
      exact (describeOperands_refusesFirst arguments).map fun texts =>
        name ++ "(" ++ ", ".intercalate texts ++ ")"
  | .field _ | .var _ | .bare _ | .host _ => by
      simp only [Operand.describe, Operand.misfits]
      exact .ok _

/-- Operands are described unless one has a misfit, and then refused for the first. -/
theorem describeOperands_refusesFirst : (operands : List (Operand H)) →
    RefusesFirst (describeOperands descriptions operands) (misfitsOfOperands operands)
  | [] => by
      simp only [describeOperands, misfitsOfOperands]
      exact .ok _
  | operand :: rest => by
      simp only [describeOperands, misfitsOfOperands]
      exact (operand.describe_refusesFirst).bind fun text =>
        (describeOperands_refusesFirst rest).map (text :: ·)

end

/-- A test is described unless it has a misfit, and then refused for the first. -/
theorem Test.describe_refusesFirst (test : Test H) :
    RefusesFirst (test.describe descriptions) test.misfits := by
  unfold Test.describe Test.misfits
  refine (test.left.describe_refusesFirst descriptions).bind fun left => ?_
  by_cases single : test.op = ""
  · simp only [single, ↓reduceIte]
    exact .ok left
  · simp only [single, ↓reduceIte]
    cases test.right with
    | none => exact .ok _
    | some right =>
        exact (right.describe_refusesFirst descriptions).map fun right =>
          left ++ " " ++ test.op ++ " " ++ right

/-- **What a description refuses.** The description of a statement is given if the statement shows
no misfit, and otherwise the first misfit is refused. -/
theorem Statement.describe_refusesFirst (statement : Statement H) :
    RefusesFirst (statement.describe descriptions) statement.misfits := by
  cases statement with
  | cond tests combinator whenTrue whenFalse =>
      simp only [Statement.describe, Statement.misfits]
      exact (RefusesFirst.mapM (Test.describe_refusesFirst descriptions) tests).map fun texts =>
        "if (" ++ (" " ++ combinator ++ " ").intercalate texts ++ ")"
  | call name arguments => exact (Operand.call name arguments).describe_refusesFirst descriptions
  | verdict value => exact .ok _
  | inert className => exact .ok _
  | host statement => exact .ok _

end

/-! ## What a misfit does to an error -/

variable {host : Host H} {subject : Subject} {script : List (Statement H)} {state last : State H}
  {path outer inner : List (Statement H)} {origin : Origin H} {raised : ScriptError}

/-- Statements without misfits all have descriptions. -/
theorem described_of_fitting (descriptions : Descriptions H)
    (fitting : ∀ statement ∈ path, statement.misfits = []) :
    ∃ texts : List String, path.map (·.describe descriptions) = texts.map .ok := by
  refine described_of_forall fun statement member => ?_
  have refuses := statement.describe_refusesFirst descriptions
  rw [fitting statement member] at refuses
  exact refuses

/-- Either no statement shows a misfit, or there is a first one that does. -/
theorem fitting_or_first_misfit (path : List (Statement H)) :
    (∀ statement ∈ path, statement.misfits = []) ∨
      ∃ outer statement inner n others, path = outer ++ statement :: inner ∧
        (∀ other ∈ outer, other.misfits = []) ∧ statement.misfits = n :: others := by
  induction path with
  | nil =>
      left
      intro statement member
      cases member
  | cons statement inner ih =>
      cases here : statement.misfits with
      | cons n others =>
          right
          exact ⟨[], statement, inner, n, others, rfl, List.forall_mem_nil _, here⟩
      | nil =>
          rcases ih with fitting | ⟨outer, other, rest, n, others, rfl, fitting, misfit⟩
          · left
            exact List.forall_mem_cons.mpr ⟨here, fitting⟩
          · right
            exact ⟨statement :: outer, other, rest, n, others, rfl,
              List.forall_mem_cons.mpr ⟨here, fitting⟩, misfit⟩

/-- An error that leaves statements inside others leaves the inner ones first. -/
theorem ScriptError.leaveAll_append (descriptions : Descriptions H) (error : ScriptError) :
    error.leaveAll descriptions (outer ++ inner) =
      (error.leaveAll descriptions inner).leaveAll descriptions outer := by
  induction outer with
  | nil => rfl
  | cons statement rest ih => rw [List.cons_append, leaveAll, leaveAll, ih]

/-- An error that leaves a statement with a misfit becomes the refusal of the misfit, whatever it
was. -/
theorem ScriptError.leave_of_misfit (descriptions : Descriptions H) (error : ScriptError)
    {statement : Statement H} {n : Int} {others : List Int}
    (misfit : statement.misfits = n :: others) :
    error.leave (statement.describe descriptions) = .ofCause (.outOfRange n IntKind.int.name) := by
  have refuses := statement.describe_refusesFirst descriptions
  rw [misfit] at refuses
  have refused : statement.describe descriptions = .error (.outOfRange n IntKind.int.name) :=
    refuses
  rw [refused]
  rfl

/-- An error whose path has no misfits keeps its cause and takes along every description. -/
theorem RunRaises.kept
    (raises : RunRaises host subject script state path origin raised last)
    (fitting : ∀ statement ∈ path, statement.misfits = []) :
    ∃ texts : List String, path.map (·.describe host.descriptions) = texts.map .ok ∧
      run host script subject state =
        .error (.script ⟨raised.cause, raised.trail ++ origin.entry ++ texts.reverse⟩) last := by
  obtain ⟨texts, described⟩ := described_of_fitting host.descriptions fitting
  exact ⟨texts, described, raises.run_eq_of_described described⟩

/-- At the innermost statement without misfits around it the error is replaced, and goes on from
there as another error does. -/
theorem RunRaises.masked {statement : Statement H} {n : Int} {others : List Int}
    (raises : RunRaises host subject script state (outer ++ statement :: inner) origin raised last)
    (fitting : ∀ other ∈ outer, other.misfits = []) (misfit : statement.misfits = n :: others) :
    ∃ texts : List String, outer.map (·.describe host.descriptions) = texts.map .ok ∧
      run host script subject state =
        .error (.script ⟨.outOfRange n IntKind.int.name, texts.reverse⟩) last := by
  obtain ⟨texts, described⟩ := described_of_fitting host.descriptions fitting
  refine ⟨texts, described, ?_⟩
  -- Whatever has come out of the inner statements is replaced at the one with the misfit.
  rw [raises.run_eq, ScriptError.leaveAll_append, ScriptError.leaveAll,
    ScriptError.leave_of_misfit _ _ misfit, ScriptError.leaveAll_of_described _ described]
  rfl

/-- **Errors are kept or masked.** Let an error be raised while the statements of a path are being
executed. If none of them shows a misfit, the error leaves the run with its cause, and its trail
only grows. Otherwise what leaves the run is the refusal of the first misfit of the outermost
statement that shows one, with the descriptions of the statements around that one. So an error for
any cause but such a refusal is kept exactly when no statement of the path shows a misfit. -/
theorem run_error_kept_or_masked (host : Host H) (subject : Subject) (script : List (Statement H))
    (state last : State H) (path : List (Statement H)) (origin : Origin H) (raised : ScriptError)
    (raises : RunRaises host subject script state path origin raised last) :
    ((∀ statement ∈ path, statement.misfits = []) →
      ∃ texts : List String, path.map (·.describe host.descriptions) = texts.map .ok ∧
        run host script subject state =
          .error (.script ⟨raised.cause, raised.trail ++ origin.entry ++ texts.reverse⟩) last) ∧
    (∀ outer statement inner n others, path = outer ++ statement :: inner →
      (∀ other ∈ outer, other.misfits = []) → statement.misfits = n :: others →
        ∃ texts : List String, outer.map (·.describe host.descriptions) = texts.map .ok ∧
          run host script subject state =
            .error (.script ⟨.outOfRange n IntKind.int.name, texts.reverse⟩) last) ∧
    ((∀ n, raised.cause ≠ .outOfRange n IntKind.int.name) →
      ((∃ trail, run host script subject state = .error (.script ⟨raised.cause, trail⟩) last) ↔
        ∀ statement ∈ path, statement.misfits = [])) := by
  refine ⟨raises.kept, ?_, ?_⟩
  · rintro outer statement inner n others rfl fitting misfit
    exact raises.masked fitting misfit
  · intro other
    constructor
    · rintro ⟨trail, leaves⟩
      rcases fitting_or_first_misfit path with
        fitting | ⟨outer, statement, inner, n, others, rfl, fitting, misfit⟩
      · exact fitting
      · obtain ⟨texts, _, masked⟩ := raises.masked fitting misfit
        rw [masked] at leaves
        simp only [EStateM.Result.error.injEq, Failure.script.injEq, ScriptError.mk.injEq]
          at leaves
        exact (other n leaves.1.1.symm).elim
    · intro fitting
      obtain ⟨texts, _, kept⟩ := raises.kept fitting
      exact ⟨_, kept⟩

/-- A condition that calls a function that there is not after one test, and has a misfit in a test
that is not evaluated. -/
def maskingCall : Statement sampleExtension :=
  .cond [⟨.literal (.bool false), "", none⟩, ⟨.literal (.int 18446744073709551616), "", none⟩] "and"
    [] [.call "nope" []]

/-- The call of an unknown function fails before the statement around it is described. -/
theorem maskingCall_raises :
    RunRaises (sampleHost none) .absent [maskingCall] (sampleState [] 0 5)
      [maskingCall, .call "nope" []] (.unknownFunction "nope") (.ofCause (.unknownFunction "nope"))
      (sampleState [] 0 5) := by
  have chosen : Test.combine (sampleHost none) .absent "and"
      [⟨.literal (.bool false), "", none⟩, ⟨.literal (.int 18446744073709551616), "", none⟩]
      (sampleState [] 1 5) = .ok false (sampleState [] 1 5) := rfl
  have call : (Statement.call "nope" []).Raises (sampleHost none) .absent (sampleState [] 2 5) []
      (.unknownFunction "nope") (.ofCause (.unknownFunction "nope")) (sampleState [] 2 5) :=
    .call (.unknown rfl)
  have branch : maskingCall.Raises (sampleHost none) .absent (sampleState [] 1 5)
      [.call "nope" []] (.unknownFunction "nope") (.ofCause (.unknownFunction "nope"))
      (sampleState [] 1 5) :=
    .branch chosen (.block (by decide) (.statement rfl call))
  exact .block (by decide) (.statement rfl branch)

/-- The error of the call is masked by the condition around it. -/
theorem run_error_masked_maskingCall :
    run (sampleHost none) [maskingCall] .absent (sampleState [] 0 5) =
        .error (.script ⟨.outOfRange 18446744073709551616 "int", []⟩) (sampleState [] 0 5) ∧
      ¬ ∃ trail, run (sampleHost none) [maskingCall] .absent (sampleState [] 0 5) =
        .error (.script ⟨.unknownFunction "nope", trail⟩) (sampleState [] 0 5) := by
  have law := run_error_kept_or_masked (sampleHost none) .absent [maskingCall] (sampleState [] 0 5)
    (sampleState [] 0 5) _ _ _ maskingCall_raises
  have misfit : maskingCall.misfits = [18446744073709551616] := by decide
  constructor
  · obtain ⟨texts, described, masked⟩ :=
      law.2.1 [] maskingCall _ _ _ rfl (List.forall_mem_nil _) misfit
    obtain rfl := List.map_eq_nil_iff.mp described.symm
    exact masked
  · intro kept
    have fitting := (law.2.2 fun n same => nomatch same).mp kept maskingCall List.mem_cons_self
    rw [misfit] at fitting
    cases fitting

/-- Errors are not always kept. -/
theorem not_run_error_kept :
    ¬ ∀ (script : List (Statement sampleExtension)) (state last : State sampleExtension) path origin
      raised, RunRaises (sampleHost none) .absent script state path origin raised last →
        ∃ trail, run (sampleHost none) script .absent state =
          .error (.script ⟨raised.cause, trail⟩) last := by
  intro kept
  obtain ⟨trail, leaves⟩ := kept _ _ _ _ _ _ maskingCall_raises
  have lost : run (sampleHost none) [maskingCall] .absent (sampleState [] 0 5) =
      .error (.script ⟨.outOfRange 18446744073709551616 "int", []⟩) (sampleState [] 0 5) := by
    rfl
  rw [lost] at leaves
  cases leaves

end FilterScript
