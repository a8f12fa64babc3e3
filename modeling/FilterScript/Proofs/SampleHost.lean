import FilterScript.Proofs.Frame
import FilterScript.Proofs.InStep
import FilterScript.Script.Interpreter

/-! # Small hosts

A host whose functions write a variable, add a function or fail. It keeps no state of its own, has
no operands and no statements, and serves where a statement about all hosts is to be seen at one.
Beside it stands a host that shows texts by itself, with room for the characters of ASCII alone
where lines are shown. -/

namespace FilterScript

/-- The functions of the host. -/
inductive SampleFunction where
  /-- Writes the second argument to the variable that the first one names, and gives it back. -/
  | assign
  /-- Adds a function. -/
  | define (name : String) (function : SampleFunction)
  /-- Fails with a message. -/
  | refuse (message : String)

/-- What the host adds to the language. -/
def sampleExtension : Extension where
  Function := SampleFunction
  Operand := Empty
  Statement := Empty
  World := Unit

/-- What the functions of the host do. -/
def SampleFunction.call : SampleFunction → List Value → Eval sampleExtension Value
  | .assign, name :: value :: _ => do
    modify (·.setVariable name.render value)
    return value
  | .assign, _ => return .null
  | .define name function, _ => do
    modify (·.addFunction name (.host function))
    return .boolean true
  | .refuse message, _ => Eval.fail (.general message)

/-- The host, with a hook or without one. -/
def sampleHost (hook : Option (Eval sampleExtension Unit)) : Host sampleExtension where
  descriptions := ⟨Empty.elim, Empty.elim⟩
  call := SampleFunction.call
  resolve := fun operand _ => operand.elim
  execute := fun statement _ => statement.elim
  hook := hook

/-- The functions of the host read nothing of the state, so they respect what writing variables and
functions respects. -/
theorem sampleHost_respects (hook : Option (Eval sampleExtension Unit))
    {related : State sampleExtension → State sampleExtension → Prop}
    (setVariable : ∀ {state state'}, related state state' → ∀ name value,
      related (state.setVariable name value) (state'.setVariable name value))
    (addFunction : ∀ {state state'}, related state state' → ∀ name function,
      related (state.addFunction name function) (state'.addFunction name function)) :
    (sampleHost hook).Respects related where
  call := by
    intro function arguments
    cases function with
    | assign =>
        match arguments with
        | [] | [_] => exact .pure _
        | name :: value :: _ =>
            refine .bind (.modify_of ?_) fun _ => .pure _
            intro state state' same
            exact setVariable same name.render value
    | define name function =>
        refine .bind (.modify_of ?_) fun _ => .pure _
        intro state state' same
        exact addFunction same name (.host function)
    | refuse message => exact .throw _
  resolve := fun operand => operand.elim
  execute := fun statement => statement.elim

/-- The functions of the host do nothing but write variables and functions, so the host keeps what
that keeps. -/
theorem sampleHost_keeps {kept : State sampleExtension → State sampleExtension → Prop}
    (refl : ∀ state, kept state state)
    (setVariable : ∀ state name value, kept state (state.setVariable name value))
    (addFunction : ∀ state name function, kept state (state.addFunction name function)) :
    (sampleHost (some (pure ()))).Keeps kept where
  call := by
    intro function arguments state
    cases function with
    | assign =>
        match arguments with
        | [] | [_] => exact refl state
        | name :: value :: _ => exact setVariable state name.render value
    | define name function => exact addFunction state name (.host function)
    | refuse message => exact refl state
  resolve := fun operand => operand.elim
  execute := fun statement => statement.elim
  hook := by
    intro hook hooked state
    cases hooked
    exact refl state

/-- The state of a run that knows the given functions, at the given depth below the given limit. -/
def sampleState (functions : List (String × SampleFunction)) (depth limit : Int) :
    State sampleExtension where
  vars := []
  functions := functions.map fun entry => (entry.1, .host entry.2)
  maxDepth := limit
  quiet := true
  depth := depth
  output := []
  shown := ""
  world := ()

/-- What a host adds that shows a text by itself, where only characters of ASCII can be shown. -/
def tellingExtension : Extension where
  Function := Unit
  Operand := Empty
  Statement := Empty
  World := Unit
  unencodable? := fun line =>
    if line.toList.all fun c => c.toNat < 128 then none else some "ordinal not in range(128)"

/-- The host that shows a text by itself. -/
def tellingHost : Host tellingExtension where
  descriptions := ⟨Empty.elim, Empty.elim⟩
  call := fun _ _ => do
    modify fun state => { state with shown := state.shown ++ "told\n" }
    return .null
  resolve := fun operand _ => operand.elim
  execute := fun statement _ => statement.elim
  hook := none

/-- The state of a run that knows the given variables and functions, and may be quiet. -/
def tellingState (vars : Table Value) (functions : Table (Callable tellingExtension))
    (quiet : Bool) : State tellingExtension where
  vars := vars
  functions := functions
  maxDepth := 5
  quiet := quiet
  depth := 0
  output := []
  shown := ""
  world := ()

end FilterScript
