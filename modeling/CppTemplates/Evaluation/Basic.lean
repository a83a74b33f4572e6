import CppTemplates.Literal.Leaf
import CppTemplates.Tree.Display
import CppTemplates.Value.Arithmetic

/-!
# Folding constant expressions

`evaluate` gives the value of a node as seen from a context. A name stands for the value of the
enumerator or variable that lookup finds first, evaluated in the context that it was declared in.
A constant whose value is asked for while it is being computed depends on itself, which is an
error. A skipped operand is never looked at.

Evaluation ends: going to a child makes the node older, and going to the value of a constant makes
one more constant busy.
-/

namespace CppTemplates

/-- The value of a node, given the values of its children and the value behind its name. Only the
values that count are asked for, in whatever way of computing with errors they are found. -/
def Node.evalStep {m : Type → Type} [Monad m] [MonadExceptOf EvaluationError m] (node : Node)
    (child : Nat → m Value) (named : Unit → m Value) : m Value :=
  match node.kind with
  | .constantExpression | .parenthesizedExpression | .unary .plus => child 0
  | .symbol | .qualifiedId => named ()
  | .castExpression => child 1
  | .conditionalExpression => do
      let condition ← child 0
      child (if condition.isZero then 2 else 1)
  | .literal .string => throw (.unsupportedNode node.kind node.span)
  | .literal _ => MonadExcept.ofExcept node.literalValue
  | .unary .not => do return (← child 0).logicalNot
  | .unary .negate => do return (← child 0).negate
  | .unary .complement => do return (← child 0).complement
  | .binary operator => do
      let left ← child 0
      -- A skipped operand is replaced by the left one: a zero `l && l` is false, a non-zero
      -- `l || l` is true.
      let right ← if operator.strictness.evaluatesRight left then child 1 else pure left
      let (left, right) := promote left right
      MonadExcept.ofExcept (operator.apply left right node.span)
  | kind => throw (.unsupportedNode kind node.span)

namespace Program

/-- The constant that an id-expression names, with the expression of its value. -/
def namedConstant (program : Program) (tree : SyntaxTree) (context : DeclContext) (id : NodeId) :
    Except EvaluationError (SymbolId × NodeId) :=
  match program.queryIdExpression tree context id with
  | .error cause => .error (.lookup cause)
  | .ok [] => .error (.unknownSymbol (tree.display id) (tree.node id).span)
  | .ok (symbol :: _) =>
      if (program.entry symbol).isConstantCandidate then
        match (program.entry symbol).value with
        | some expression => .ok (symbol, expression)
        | none => .error (.noValue (tree.display id) (tree.node id).span)
      else
        .error (.notAnExpression (tree.display id) (program.entry symbol).kind
          (tree.node id).span)

/-- The number of symbols that are not in a list. -/
def countOutside (program : Program) (busy : List SymbolId) : Nat :=
  (List.range program.symbols.size).countP fun index => !busy.contains ⟨index⟩

theorem index_lt_of_value_ne_none {program : Program} {symbol : SymbolId}
    (hasValue : (program.entry symbol).value ≠ none) : symbol.index < program.symbols.size := by
  apply Nat.lt_of_not_le
  intro outside
  apply hasValue
  simp only [entry, Array.getElem?_eq_none outside, Option.getD_none]
  rfl

private theorem countP_lt_countP {α : Type} {kept counted : α → Bool} {list : List α} (dropped : α)
    (implies : ∀ x, kept x = true → counted x = true) (member : dropped ∈ list)
    (isCounted : counted dropped = true) (notKept : kept dropped = false) :
    list.countP kept < list.countP counted := by
  induction list with
  | nil => exact absurd member List.not_mem_nil
  | cons head tail ih =>
      have tailLe : tail.countP kept ≤ tail.countP counted :=
        List.countP_mono_left fun x _ => implies x
      simp only [List.countP_cons]
      rcases List.mem_cons.mp member with rfl | inTail
      · simp only [isCounted, notKept, if_true]
        simp
        omega
      · have tailLt := ih inTail
        cases atHead : kept head with
        | false => simp; omega
        | true => simp [implies head atHead]; omega

/-- Making one more symbol busy leaves fewer outside. -/
theorem countOutside_cons_lt {program : Program} {symbol : SymbolId} {busy : List SymbolId}
    (bound : symbol.index < program.symbols.size) (isFree : symbol ∉ busy) :
    program.countOutside (symbol :: busy) < program.countOutside busy := by
  refine countP_lt_countP symbol.index (fun index => ?_) (List.mem_range.mpr bound) ?_ ?_
  · simp
  · simpa using isFree
  · simp

theorem index_lt_of_namedConstant {program : Program} {tree : SyntaxTree} {context : DeclContext}
    {id expression : NodeId} {symbol : SymbolId}
    (found : program.namedConstant tree context id = .ok (symbol, expression)) :
    symbol.index < program.symbols.size := by
  unfold namedConstant at found
  split at found
  case h_1 => cases found
  case h_2 => cases found
  case h_3 =>
    split at found
    case isFalse => cases found
    case isTrue =>
      split at found
      case h_2 => cases found
      case h_1 hasValue =>
        cases found
        exact index_lt_of_value_ne_none (by simp [hasValue])

end Program

/-- The value of a node while the values of the busy constants are being computed. -/
def eval (tree : SyntaxTree) (program : Program) (context : DeclContext) (busy : List SymbolId)
    (id : NodeId) : Except EvaluationError Value :=
  (tree.node id).evalStep
    (fun index =>
      match found : tree.child? id index with
      | some child =>
          have := SyntaxTree.lt_of_child?_eq_some found
          eval tree program context busy child
      | none => .error (.malformedTree (tree.node id).kind (tree.node id).span))
    (fun _ =>
      match found : program.namedConstant tree context id with
      | .ok (symbol, expression) =>
          if isBusy : symbol ∈ busy then
            .error (.cyclicConstant (tree.display id) (tree.node id).span)
          else
            have := Program.countOutside_cons_lt (Program.index_lt_of_namedConstant found) isBusy
            eval tree program (program.entry symbol).declContext (symbol :: busy) expression
      | .error cause => .error cause)
termination_by (program.countOutside busy, id.index)

/-- One step of evaluation, without the bookkeeping that shows that it ends. -/
theorem eval_eq_evalStep (tree : SyntaxTree) (program : Program) (context : DeclContext)
    (busy : List SymbolId) (id : NodeId) :
    eval tree program context busy id =
      (tree.node id).evalStep
        (fun index =>
          match tree.child? id index with
          | some child => eval tree program context busy child
          | none => .error (.malformedTree (tree.node id).kind (tree.node id).span))
        (fun _ =>
          match program.namedConstant tree context id with
          | .ok (symbol, expression) =>
              if symbol ∈ busy then
                .error (.cyclicConstant (tree.display id) (tree.node id).span)
              else
                eval tree program (program.entry symbol).declContext (symbol :: busy) expression
          | .error cause => .error cause) := by
  rw [eval]
  congr 1
  · funext index
    split <;> simp [*]
  · funext _
    split <;> simp [*]

/-- The value of a constant expression as seen from a context. -/
def evaluate (tree : SyntaxTree) (program : Program) (context : DeclContext) (id : NodeId) :
    Except EvaluationError Value :=
  eval tree program context [] id

end CppTemplates
