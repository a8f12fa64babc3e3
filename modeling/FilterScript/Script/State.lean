import FilterScript.Script.Builtin
import FilterScript.Script.Syntax

/-! # The state of an evaluation

Variables, functions, limits and everything that has been written, together with whatever the host
keeps. The state survives a failure, so that what happened before the failure can be seen.
-/

namespace FilterScript

/-- A function that a script can call. -/
inductive Callable (H : Extension) where
  | builtin (function : Builtin)
  | host (function : H.Function)

/-- The state of an evaluation. -/
structure State (H : Extension) where
  vars : Table Value
  functions : Table (Callable H)
  /-- How deep blocks may be nested. -/
  maxDepth : Int
  /-- Nothing is shown when lines are printed. -/
  quiet : Bool
  /-- How deep the block being executed is nested. -/
  depth : Int
  /-- Lines printed and warnings given, in order. -/
  output : List String
  /-- What printing has shown. -/
  shown : String
  world : H.World

/-- An evaluation: from a state to a result or a failure, and in either case a state. -/
abbrev Eval (H : Extension) := EStateM Failure (State H)

/-- The subject of a script: nothing, a dictionary with its entries, or an object with its
attributes. -/
inductive Subject where
  | absent
  | mapping (entries : Table Native NativeKey)
  | object (attributes : Table Native)

/-- The host value of a field of a subject, if it has the field. -/
def Subject.field? : Subject → String → Option Native
  | .absent, _ => none
  | .mapping entries, name => entries.get? (.string name)
  | .object attributes, name => attributes.get? name

/-- How a host does its part: calling its functions, resolving its operands and executing its
statements, describing them, and a hook before every statement. -/
structure Host (H : Extension) where
  descriptions : Descriptions H
  call : H.Function → List Value → Eval H Value
  resolve : H.Operand → Subject → Eval H Value
  execute : H.Statement → Subject → Eval H Outcome
  hook : Option (Eval H Unit)

/-- The functions of every script. -/
def Callable.builtins {H : Extension} : Table (Callable H) :=
  Builtin.all.map fun function => (function.name, .builtin function)

namespace State

variable {H : Extension}

/-- The value of a variable; one that is not set is null. -/
def variableValue (state : State H) (name : String) : Value :=
  (state.vars.get? name).getD .null

/-- The state with a variable written. -/
def setVariable (state : State H) (name : String) (value : Value) : State H :=
  { state with vars := state.vars.set name value }

/-- The state with a function added. -/
def addFunction (state : State H) (name : String) (function : Callable H) : State H :=
  { state with functions := state.functions.set name function }

/-- The state with a warning given. -/
def warn (state : State H) (message : String) : State H :=
  { state with output := state.output ++ ["[evalfilter] Warning: " ++ message] }

/-- The line can be shown. When the state is quiet it need not be encoded. -/
def showing (state : State H) (line : String) : Except Failure Unit :=
  match H.unencodable? line with
  | some message => if state.quiet then .ok () else .error (.unencodable message)
  | none => .ok ()

/-- The state with a line printed. It is shown unless the state is quiet or it cannot be encoded. -/
def print (state : State H) (line : String) : State H :=
  { state with
    output := state.output ++ [line]
    shown := if state.quiet || (H.unencodable? line).isSome then state.shown
      else state.shown ++ line ++ "\n" }

end State

end FilterScript
