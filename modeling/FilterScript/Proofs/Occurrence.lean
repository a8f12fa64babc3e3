import FilterScript.Script.Syntax

/-! # What occurs in a script

The statements of a script are those of its list and those in the branches of its conditions. Its
operands are those of its tests and calls, each together with the arguments inside it. What a
statement about all scripts needs to know of a script, such as the names that it uses or that it
leaves nothing to the host, is said of what occurs in it.
-/

namespace FilterScript

variable {H : Extension}

mutual

/-- An operand and the arguments inside it. -/
def Operand.parts : Operand H → List (Operand H)
  | .call name arguments => .call name arguments :: partsOfOperands arguments
  | .literal value => [.literal value]
  | .field name => [.field name]
  | .var name => [.var name]
  | .bare line => [.bare line]
  | .host operand => [.host operand]

/-- Operands and the arguments inside them. -/
def partsOfOperands : List (Operand H) → List (Operand H)
  | [] => []
  | operand :: rest => operand.parts ++ partsOfOperands rest

end

/-- The operands that occur in a test. -/
def Test.operands (test : Test H) : List (Operand H) :=
  test.left.parts ++
    match test.right with
    | some right => right.parts
    | none => []

mutual

/-- The operands that occur in a statement. -/
def Statement.operands : Statement H → List (Operand H)
  | .cond tests _ whenTrue whenFalse =>
    tests.flatMap Test.operands ++ (operandsOfBlock whenTrue ++ operandsOfBlock whenFalse)
  | .call name arguments => (Operand.call name arguments).parts
  | .verdict _ | .inert _ | .host _ => []

/-- The operands that occur in statements. -/
def operandsOfBlock : List (Statement H) → List (Operand H)
  | [] => []
  | statement :: rest => statement.operands ++ operandsOfBlock rest

end

mutual

/-- A statement and the statements in its branches. -/
def Statement.parts : Statement H → List (Statement H)
  | .cond tests combinator whenTrue whenFalse =>
    .cond tests combinator whenTrue whenFalse :: (partsOfBlock whenTrue ++ partsOfBlock whenFalse)
  | .verdict value => [.verdict value]
  | .call name arguments => [.call name arguments]
  | .inert className => [.inert className]
  | .host statement => [.host statement]

/-- Statements and the statements in their branches. -/
def partsOfBlock : List (Statement H) → List (Statement H)
  | [] => []
  | statement :: rest => statement.parts ++ partsOfBlock rest

end

/-- The operand has a meaning in the language itself. -/
def Operand.isLanguage : Operand H → Bool
  | .literal _ | .field _ | .var _ | .call _ _ => true
  | .bare _ | .host _ => false

/-- The statement has a meaning in the language itself. -/
def Statement.isLanguage : Statement H → Bool
  | .cond _ _ _ _ | .verdict _ | .call _ _ => true
  | .inert _ | .host _ => false

/-- A script that is written in the language alone. -/
structure InLanguage (script : List (Statement H)) : Prop where
  operands : ∀ operand ∈ operandsOfBlock script, operand.isLanguage = true
  statements : ∀ statement ∈ partsOfBlock script, statement.isLanguage = true

/-- A statement is among its parts. -/
theorem Statement.mem_parts (statement : Statement H) : statement ∈ statement.parts := by
  cases statement with
  | cond tests combinator whenTrue whenFalse =>
      simp only [parts]
      exact List.mem_cons_self
  | verdict value | call name arguments | inert className | host statement =>
      simp only [parts]
      exact List.mem_singleton_self _

/-- An operand is among its parts. -/
theorem Operand.mem_parts (operand : Operand H) : operand ∈ operand.parts := by
  cases operand with
  | call name arguments =>
      simp only [parts]
      exact List.mem_cons_self
  | literal value | field name | var name | bare line | host operand =>
      simp only [parts]
      exact List.mem_singleton_self _

/-- The parts of a statement are parts of its block. -/
theorem Statement.parts_subset_of_mem {statement : Statement H} {block : List (Statement H)}
    (member : statement ∈ block) : statement.parts ⊆ partsOfBlock block := by
  induction block with
  | nil => cases member
  | cons first rest ih =>
      simp only [partsOfBlock]
      rcases List.mem_cons.mp member with rfl | member
      · exact List.subset_append_left _ _
      · exact List.Subset.trans (ih member) (List.subset_append_right _ _)

/-- The parts of two blocks are the parts of both together. -/
theorem partsOfBlock_append (block rest : List (Statement H)) :
    partsOfBlock (block ++ rest) = partsOfBlock block ++ partsOfBlock rest := by
  induction block with
  | nil => rfl
  | cons first others ih =>
      rw [List.cons_append]
      simp only [partsOfBlock]
      rw [ih, List.append_assoc]

end FilterScript
