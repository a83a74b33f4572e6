import CppTemplates.Proofs.Evaluation.Step

/-!
# What an expression takes from its context

A context matters to an expression only through the names that are written in it.  Two contexts that
give every name of an expression one value give the expression one value, and contexts with the same
current and the same global scope give every name one value.
-/

namespace CppTemplates

/-- A node that stands for what it names. -/
def Node.IsName (node : Node) : Prop := node.kind = .symbol ∨ node.kind = .qualifiedId

/-- The names that an expression is made of.  The components of a qualified id are no names of their
own. -/
inductive SyntaxTree.Names (tree : SyntaxTree) : NodeId → NodeId → Prop
  | name {id : NodeId} (isName : (tree.node id).IsName) : tree.Names id id
  | operand {id operand name : NodeId} {index : Nat} (isOperator : ¬(tree.node id).IsName)
      (found : tree.child? id index = some operand) (names : tree.Names operand name) :
      tree.Names id name

theorem SyntaxTree.Names.isName {tree : SyntaxTree} {id name : NodeId}
    (names : tree.Names id name) : (tree.node name).IsName := by
  induction names with
  | name isName => exact isName
  | operand _ _ _ ih => exact ih

theorem Node.evalStep_congr_of_not_isName {m : Type → Type} [Monad m]
    [MonadExceptOf EvaluationError m] {node : Node} (isOperator : ¬node.IsName)
    (child : Nat → m Value) (first second : Unit → m Value) :
    node.evalStep child first = node.evalStep child second := by
  obtain ⟨kind, text, below, span, origin⟩ := node
  cases kind with
  | symbol => exact absurd (.inl rfl) isOperator
  | qualifiedId => exact absurd (.inr rfl) isOperator
  | literal kind => cases kind <;> rfl
  | unary operator => cases operator <;> rfl
  | _ => rfl

variable {tree : SyntaxTree} {program : Program} {left right : DeclContext}

/-- Every name of an expression has the same value, or the same error, in two contexts. -/
def SeesAlike (tree : SyntaxTree) (program : Program) (left right : DeclContext)
    (expression : NodeId) : Prop :=
  ∀ name, tree.Names expression name →
    evaluate tree program left name = evaluate tree program right name

/-- An expression has the same value in two contexts if its names have. -/
theorem evaluate_eq_of_seesAlike {expression : NodeId}
    (alike : SeesAlike tree program left right expression) :
    evaluate tree program left expression = evaluate tree program right expression := by
  by_cases isName : (tree.node expression).IsName
  · exact alike expression (.name isName)
  · simp only [evaluate]
    rw [eval_eq_evalStep, eval_eq_evalStep tree program right,
      Node.evalStep_congr_of_not_isName isName]
    congr 1
    funext index
    cases found : tree.child? expression index with
    | none => rfl
    | some operand =>
        have := SyntaxTree.lt_of_child?_eq_some found
        exact evaluate_eq_of_seesAlike fun name names =>
          alike name (.operand isName found names)
termination_by expression.index

namespace Program

theorem resolvePath_congr (current : left.currentScope = right.currentScope)
    (qualifier : Option ScopeId) (components : List NodeId) :
    program.resolvePath tree left qualifier components =
      program.resolvePath tree right qualifier components := by
  induction components generalizing qualifier with
  | nil => rfl
  | cons component others ih => cases others <;> simp only [resolvePath, candidates, current, ih]

theorem namedConstant_congr (current : left.currentScope = right.currentScope)
    (global : left.globalScope = right.globalScope) (id : NodeId) :
    program.namedConstant tree left id = program.namedConstant tree right id := by
  have sameAnswer : program.queryIdExpression tree left id =
      program.queryIdExpression tree right id := by
    simp only [queryIdExpression, resolveQualified, candidates, current, global,
      resolvePath_congr current]
  rw [namedConstant, sameAnswer, namedConstant]

end Program

theorem evaluate_eq_of_namedConstant {name : NodeId} (isName : (tree.node name).IsName)
    (same : program.namedConstant tree left name = program.namedConstant tree right name) :
    evaluate tree program left name = evaluate tree program right name := by
  simp only [evaluate]
  rw [eval_eq_evalStep, eval_eq_evalStep tree program right, same]
  rcases isName with isName | isName <;> simp only [Node.evalStep, isName]

/-- Contexts with the same current and the same global scope see the same. -/
theorem seesAlike_of_scopes (current : left.currentScope = right.currentScope)
    (global : left.globalScope = right.globalScope) (expression : NodeId) :
    SeesAlike tree program left right expression := by
  intro name names
  exact evaluate_eq_of_namedConstant names.isName (Program.namedConstant_congr current global name)

end CppTemplates
