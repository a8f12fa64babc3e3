import FilterScript.Script.Eval

/-! # Interpreters

An interpreter keeps a script with the variables, functions and settings that a host has set for it,
and runs it on one subject after another. Every run starts from a state of its own, so what a run
writes is gone when it ends; only its output lines stay to be read, until the next run.
-/

namespace FilterScript

/-- Settings of an interpreter. -/
structure Settings where
  maxDepth : Int
  quiet : Bool
  /-- The verdict of a script that ends without one. -/
  fallback : Bool
  deriving DecidableEq, Repr

/-- Settings that nobody has changed. -/
def Settings.standard : Settings := ⟨100, false, false⟩

/-- A script with its settings and tables, and the output of its latest run. -/
structure Interpreter (H : Extension) where
  script : List (Statement H)
  settings : Settings
  vars : Table Value
  functions : Table (Callable H)
  output : List String

namespace Interpreter

variable {H : Extension}

/-- An interpreter without variables and with the built-in functions. -/
def ofScript (script : List (Statement H)) (settings : Settings) : Interpreter H :=
  ⟨script, settings, [], Callable.builtins, []⟩

/-- The interpreter with a variable written. -/
def setVariable (interpreter : Interpreter H) (name : String) (value : Value) : Interpreter H :=
  { interpreter with vars := interpreter.vars.set name value }

/-- The interpreter with a function added. -/
def addFunction (interpreter : Interpreter H) (name : String) (function : H.Function) :
    Interpreter H :=
  { interpreter with functions := interpreter.functions.set name (.host function) }

/-- The state in which a run starts. -/
def initial (interpreter : Interpreter H) (world : H.World) : State H where
  vars := interpreter.vars
  functions := interpreter.functions
  maxDepth := interpreter.settings.maxDepth
  quiet := interpreter.settings.quiet
  depth := 0
  output := []
  shown := ""
  world := world

/-- Runs the script and keeps its output. -/
def execute (interpreter : Interpreter H) (host : Host H) (subject : Subject) (world : H.World) :
    EStateM.Result Failure (State H) Outcome × Interpreter H :=
  match run host interpreter.script subject (interpreter.initial world) with
  | .ok outcome final => (.ok outcome final, { interpreter with output := final.output })
  | .error failure final => (.error failure final, { interpreter with output := final.output })

/-- The verdict that an outcome amounts to. -/
def verdict (interpreter : Interpreter H) (outcome : Outcome) : Bool :=
  outcome.verdict?.getD interpreter.settings.fallback

end Interpreter

end FilterScript
