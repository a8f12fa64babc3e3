import FilterScript.Value.Native
import FilterScript.Value.Render

/-! # Scripts

A script is a list of statements. A statement tests, returns a verdict or calls a function, and the
operands of tests and calls are literals, fields of the subject, variables and calls. A host may add
functions, operands and statements of its own; which ones there are is a parameter of everything
here. Statements and operands describe themselves for the trail of an error.
-/

namespace FilterScript

/-- What a host adds to the language, the state that it keeps while a script runs, and what it knows
of characters. -/
structure Extension where
  Function : Type
  Operand : Type
  Statement : Type
  World : Type
  /-- What is said of a line that cannot be encoded where printing shows it. -/
  unencodable? : String → Option String := fun _ => none
  /-- The character of a name, as a pattern may give it. -/
  characterNamed? : String → Option Char := fun _ => none

variable {H : Extension}

/-- An operand. `bare` is the operand without a meaning, which only knows its line. -/
inductive Operand (H : Extension) where
  | literal (value : Native)
  | field (name : String)
  | var (name : String)
  | call (name : String) (arguments : List (Operand H))
  | bare (line : Int)
  | host (operand : H.Operand)

/-- One test of a condition. With the empty operator it asks for the truth of its left operand. -/
structure Test (H : Extension) where
  left : Operand H
  op : String
  right : Option (Operand H)

/-- A statement. A condition combines its tests and chooses a branch; `inert` stands for a class of
statements that cannot be executed. -/
inductive Statement (H : Extension) where
  | cond (tests : List (Test H)) (combinator : String) (whenTrue whenFalse : List (Statement H))
  | verdict (value : Bool)
  | call (name : String) (arguments : List (Operand H))
  | inert (className : String)
  | host (statement : H.Statement)

/-- What a statement tells the one that executes it: to go on, or to stop with a verdict. -/
inductive Outcome where
  | proceed
  | terminate (verdict : Bool)
  deriving DecidableEq, Repr

namespace Outcome

/-- The script is over. -/
def terminated : Outcome → Bool
  | .proceed => false
  | .terminate _ => true

/-- The verdict, if the script is over. -/
def verdict? : Outcome → Option Bool
  | .proceed => none
  | .terminate verdict => some verdict

/-- The debugging view of an outcome. -/
def debug : Outcome → String
  | .proceed => "CONTINUE"
  | .terminate verdict => "Terminate(" ++ (if verdict then "True" else "False") ++ ")"

end Outcome

/-- How the operands and statements of a host are described. -/
structure Descriptions (H : Extension) where
  operand : H.Operand → String
  statement : H.Statement → String

mutual

/-- The description of an operand. That of a literal needs its value, which may be refused. -/
def Operand.describe (host : Descriptions H) : Operand H → Except Cause String
  | .literal value => do return Text.quoted (← Value.ofNative value).render
  | .field name => .ok name
  | .var name => .ok ("$" ++ name)
  | .call name arguments => do
    return name ++ "(" ++ ", ".intercalate (← describeOperands host arguments) ++ ")"
  | .bare line => .ok ("Argument(line=" ++ toString line ++ ")")
  | .host operand => .ok (host.operand operand)

/-- The descriptions of operands, from left to right. -/
def describeOperands (host : Descriptions H) : List (Operand H) → Except Cause (List String)
  | [] => .ok []
  | operand :: rest => do return (← operand.describe host) :: (← describeOperands host rest)

end

/-- The description of a test. A right operand that is absent is shown as `None`, and is not shown
under the empty operator. -/
def Test.describe (host : Descriptions H) (test : Test H) : Except Cause String := do
  let left ← test.left.describe host
  if test.op = "" then return left
  let right ←
    match test.right with
    | some right => right.describe host
    | none => pure "None"
  return left ++ " " ++ test.op ++ " " ++ right

/-- The description of a statement. A condition shows its tests and not its branches. -/
def Statement.describe (host : Descriptions H) : Statement H → Except Cause String
  | .cond tests combinator _ _ => do
    return "if (" ++ (" " ++ combinator ++ " ").intercalate (← tests.mapM (·.describe host)) ++ ")"
  | .verdict value => .ok (if value then "return true" else "return false")
  | .call name arguments => (Operand.call name arguments).describe host
  | .inert className => .ok className
  | .host statement => .ok (host.statement statement)

end FilterScript
