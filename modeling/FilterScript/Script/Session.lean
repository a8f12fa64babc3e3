import FilterScript.Script.Interpreter

/-! # Sessions

A host uses an interpreter by one command after the other: it sets variables, adds functions,
changes settings and runs the script. What the host keeps for itself is handed from one run to the
next; the interpreter hands nothing on but what the host has set.
-/

namespace FilterScript

variable {H : Extension}

/-- A setting with its new value. -/
inductive Flag where
  | maxDepth (depth : Int)
  | quiet (quiet : Bool)
  | fallback (verdict : Bool)
  deriving DecidableEq, Repr

/-- Settings with one of them changed. -/
def Settings.change (settings : Settings) : Flag → Settings
  | .maxDepth depth => { settings with maxDepth := depth }
  | .quiet quiet => { settings with quiet := quiet }
  | .fallback verdict => { settings with fallback := verdict }

/-- The interpreter with a setting changed. -/
def Interpreter.change (interpreter : Interpreter H) (flag : Flag) : Interpreter H :=
  { interpreter with settings := interpreter.settings.change flag }

/-- What a host asks of an interpreter. A run is asked for its verdict or for its bare outcome. -/
inductive Command (H : Extension) where
  | setVariable (name : String) (value : Native)
  | addFunction (name : String) (function : H.Function)
  | change (flag : Flag)
  | run (subject : Subject)
  | execute (subject : Subject)

/-- The command does not start a run. -/
def Command.configures : Command H → Bool
  | .setVariable _ _ | .addFunction _ _ | .change _ => true
  | .run _ | .execute _ => false

/-- What an interpreter replies. -/
inductive Reply where
  | done
  | verdict (verdict : Bool)
  | outcome (outcome : Outcome)
  | failed (failure : Failure)
  deriving DecidableEq, Repr

/-- A reply with what printing has shown on the way to it. -/
structure Response where
  reply : Reply
  shown : String
  deriving DecidableEq, Repr

/-- An interpreter in use by a host. -/
structure Session (H : Extension) where
  interpreter : Interpreter H
  world : H.World

namespace Session

/-- The session of a new interpreter. -/
def ofScript (script : List (Statement H)) (settings : Settings) (world : H.World) : Session H :=
  ⟨.ofScript script settings, world⟩

/-- Runs the script of the interpreter and replies to its outcome. -/
def start (host : Host H) (session : Session H) (subject : Subject) (reply : Outcome → Reply) :
    Response × Session H :=
  match session.interpreter.execute host subject session.world with
  | (.ok outcome final, interpreter) =>
    (⟨reply outcome, final.shown⟩, ⟨interpreter, final.world⟩)
  | (.error failure final, interpreter) =>
    (⟨.failed failure, final.shown⟩, ⟨interpreter, final.world⟩)

/-- Performs a command. A host value that is refused sets no variable. -/
def perform (host : Host H) (session : Session H) : Command H → Response × Session H
  | .setVariable name native =>
    match Value.ofNative native with
    | .ok value =>
      (⟨.done, ""⟩, { session with interpreter := session.interpreter.setVariable name value })
    | .error cause => (⟨.failed (.ofCause cause), ""⟩, session)
  | .addFunction name function =>
    (⟨.done, ""⟩, { session with interpreter := session.interpreter.addFunction name function })
  | .change flag => (⟨.done, ""⟩, { session with interpreter := session.interpreter.change flag })
  | .run subject =>
    session.start host subject fun outcome => .verdict (session.interpreter.verdict outcome)
  | .execute subject => session.start host subject .outcome

/-- The session after commands, one after the other. -/
def performAll (host : Host H) (session : Session H) : List (Command H) → Session H
  | [] => session
  | command :: rest => (session.perform host command).2.performAll host rest

end Session

end FilterScript
