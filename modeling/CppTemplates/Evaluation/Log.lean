import CppTemplates.Evaluation.Basic
import CppTemplates.Journal

/-!
# What folding logs

Folding an expression logs each constant whose value it starts to compute, each operand it skips
and each cast it takes for its operand. The lines follow the order of evaluation and stop with it
at the first error.
-/

namespace CppTemplates

/-- The lines for a node, given the values and the lines of its children and the lines for the
value behind its name. -/
def Node.logStep (node : Node) (text : Unit → String)
    (value : Nat → Except EvaluationError Value) (lines : Nat → List LogLine)
    (named : Unit → List LogLine) : List LogLine :=
  match node.kind with
  | .constantExpression | .parenthesizedExpression | .unary _ => lines 0
  | .symbol | .qualifiedId => named ()
  | .castExpression =>
      match value 1 with
      | .ok result =>
          let message := "cast " ++ text () ++ " evaluated as its operand: " ++ result.describe
          lines 1 ++ [⟨.debug, message⟩]
      | .error _ => lines 1
  | .conditionalExpression =>
      match value 0 with
      | .ok condition => lines 0 ++ lines (if condition.isZero then 2 else 1)
      | .error _ => lines 0
  | .binary operator =>
      match value 0 with
      | .ok left =>
          if operator.strictness.evaluatesRight left then
            lines 0 ++ lines 1
          else
            lines 0 ++ [⟨.trace, "short-circuited right operand of " ++ operator.spelling⟩]
      | .error _ => lines 0
  | _ => []

/-- The lines for a node while the values of the busy constants are being computed. -/
def evalLog (tree : SyntaxTree) (program : Program) (context : DeclContext) (busy : List SymbolId)
    (id : NodeId) : List LogLine :=
  (tree.node id).logStep (fun _ => tree.display id)
    (fun index =>
      match tree.child? id index with
      | some child => eval tree program context busy child
      | none => .error (.malformedTree (tree.node id).kind (tree.node id).span))
    (fun index =>
      match found : tree.child? id index with
      | some child =>
          have := SyntaxTree.lt_of_child?_eq_some found
          evalLog tree program context busy child
      | none => [])
    (fun _ =>
      match found : program.namedConstant tree context id with
      | .ok (symbol, expression) =>
          if isBusy : symbol ∈ busy then
            []
          else
            have := Program.countOutside_cons_lt (Program.index_lt_of_namedConstant found) isBusy
            ⟨.trace, "evaluating value of '" ++ tree.display id ++ "'"⟩ ::
              evalLog tree program (program.entry symbol).declContext (symbol :: busy) expression
      | .error _ => [])
termination_by (program.countOutside busy, id.index)

/-- The lines that folding a constant expression logs. -/
def evaluationLog (tree : SyntaxTree) (program : Program) (context : DeclContext) (id : NodeId) :
    List LogLine :=
  evalLog tree program context [] id

end CppTemplates
