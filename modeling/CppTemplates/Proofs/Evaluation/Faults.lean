import CppTemplates.Proofs.Evaluation.SkippedOperands
import CppTemplates.Proofs.Value.Arithmetic
import CppTemplates.Proofs.Value.Promotion

/-!
# Where an evaluation fails

An evaluation goes from a node to those of its operands that count, and from a name to the value of
the constant that it names.  It fails exactly if it comes to a node that is itself at fault: one
that cannot be folded, a literal that spells no value, a name without a value, an operation that
lacks an operand, or a division by zero.

No operator is ever at fault for the kinds of its operands.  They are brought to one kind before
they are combined, which leaves a right operand that is not zero different from zero.
-/

namespace CppTemplates

/-- What evaluation does with a node. -/
inductive NodeRole where
  | operation
  | name
  | literal
  | unsupported
deriving DecidableEq, Repr

def NodeKind.role : NodeKind → NodeRole
  | .constantExpression | .parenthesizedExpression | .castExpression | .conditionalExpression
  | .unary _ | .binary _ => .operation
  | .symbol | .qualifiedId => .name
  | .literal .string => .unsupported
  | .literal _ => .literal
  | _ => .unsupported

/-- The errors that a step ends with: those of the node itself, and those of what it asks for. -/
inductive Node.Fails (node : Node) (child : Nat → Except EvaluationError Value)
    (named : Unit → Except EvaluationError Value) : EvaluationError → Prop where
  | unsupported (isUnsupported : node.kind.role = .unsupported) :
      Fails node child named (.unsupportedNode node.kind node.span)
  | literal {cause : EvaluationError} (isLiteral : node.kind.role = .literal)
      (failed : node.literalValue = .error cause) : Fails node child named cause
  | name {cause : EvaluationError} (isName : node.kind.role = .name)
      (failed : named () = .error cause) : Fails node child named cause
  | operand {cause : EvaluationError} {index : Nat} (isOperation : node.kind.role = .operation)
      (asks : node.Asks (child 0) index) (failed : child index = .error cause) :
      Fails node child named cause
  | division {operator : BinaryOperator} {left right : Value}
      (isBinary : node.kind = .binary operator)
      (isDivision : operator = .divide ∨ operator = .remainder) (dividend : child 0 = .ok left)
      (divisor : child 1 = .ok right) (isZero : right.isZero = true) :
      Fails node child named (.divisionByZero node.span)

namespace BinaryOperator

/-- Operands that were brought to one kind are refused by division only. -/
theorem apply_promote_eq_error_iff (operator : BinaryOperator) (left right : Value)
    (span : FileSpan) (cause : EvaluationError) :
    operator.apply (promote left right).1 (promote left right).2 span = .error cause ↔
      (operator = .divide ∨ operator = .remainder) ∧ right.isZero = true ∧
        cause = .divisionByZero span := by
  have sameKind := kind_promote left right
  have isZero : (promote left right).2.toInt = 0 ↔ right.isZero = true := by
    rw [Value.isZero_iff_toInt_eq_zero, ← toInt_promote_eq_zero_iff right left,
      promote_comm right left]
    rfl
  rw [apply_eq_error_iff]
  simp [sameKind, isZero]

theorem evaluatesRight_of_isDivision {operator : BinaryOperator}
    (isDivision : operator = .divide ∨ operator = .remainder) (left : Value) :
    operator.strictness.evaluatesRight left = true := by
  rcases isDivision with rfl | rfl <;> rfl

end BinaryOperator

theorem bind_eq_error_iff {first : Except EvaluationError Value}
    {next : Value → Except EvaluationError Value} {cause : EvaluationError} :
    (first >>= next) = .error cause ↔
      first = .error cause ∨ ∃ value, first = .ok value ∧ next value = .error cause := by
  cases first with
  | error other => simp [bind, Except.bind]
  | ok value => simp [bind, Except.bind]

section

variable {node : Node} {child : Nat → Except EvaluationError Value}
variable {named : Unit → Except EvaluationError Value} {cause : EvaluationError}

theorem Node.evalStep_literal (isLiteral : node.kind.role = .literal) :
    node.evalStep child named = node.literalValue := by
  obtain ⟨kind, text, below, span, origin⟩ := node
  cases kind with
  | literal kind =>
      cases kind with
      | string => cases isLiteral
      | _ => exact ofExcept_eq _
  | _ => cases isLiteral

/-- A binary operation combines its left operand with the right one, or with itself if it skips the
right one. -/
theorem Node.evalStep_binary {operator : BinaryOperator} (isBinary : node.kind = .binary operator) :
    node.evalStep child named = child 0 >>= fun left =>
      (if operator.strictness.evaluatesRight left then child 1 else .ok left) >>= fun right =>
        operator.apply (promote left right).1 (promote left right).2 node.span := by
  obtain ⟨kind, text, below, span, origin⟩ := node
  cases isBinary
  change (child 0 >>= _) = _
  congr 1
  funext left
  simp only [ofExcept_eq]
  split <;> rfl

theorem Node.fails_of_evalStep (failed : node.evalStep child named = .error cause) :
    node.Fails child named cause := by
  obtain ⟨kind, text, below, span, origin⟩ := node
  cases kind with
  | constantExpression => exact .operand rfl rfl failed
  | parenthesizedExpression => exact .operand rfl rfl failed
  | castExpression => exact .operand rfl rfl failed
  | symbol => exact .name rfl failed
  | qualifiedId => exact .name rfl failed
  | conditionalExpression =>
      rcases bind_eq_error_iff.mp failed with atCondition | ⟨condition, ends, atBranch⟩
      · exact .operand rfl (.inl rfl) atCondition
      · exact .operand rfl (.inr ⟨condition, ends, rfl⟩) atBranch
  | unary operator =>
      cases operator with
      | plus => exact .operand rfl rfl failed
      | _ =>
          rcases bind_eq_error_iff.mp failed with atOperand | ⟨value, -, impossible⟩
          · exact .operand rfl rfl atOperand
          · cases impossible
  | binary operator =>
      rw [evalStep_binary rfl, bind_eq_error_iff] at failed
      rcases failed with atLeft | ⟨left, leftEnds, failed⟩
      · exact .operand rfl (.inl rfl) atLeft
      rcases bind_eq_error_iff.mp failed with atRight | ⟨right, rightEnds, failed⟩
      · split at atRight
        · next asked => exact .operand rfl (.inr ⟨left, leftEnds, asked, rfl⟩) atRight
        · cases atRight
      · obtain ⟨isDivision, isZero, rfl⟩ :=
          (operator.apply_promote_eq_error_iff left right span cause).mp failed
        rw [if_pos (BinaryOperator.evaluatesRight_of_isDivision isDivision left)] at rightEnds
        exact .division rfl isDivision leftEnds rightEnds isZero
  | literal kind =>
      cases kind with
      | string =>
          cases failed
          exact .unsupported rfl
      | _ =>
          rw [evalStep_literal rfl] at failed
          exact .literal rfl failed
  | _ =>
      cases failed
      exact .unsupported rfl

theorem Node.Fails.evalStep_eq (fails : node.Fails child named cause) :
    node.evalStep child named = .error cause := by
  cases fails with
  | unsupported isUnsupported =>
      obtain ⟨kind, text, below, span, origin⟩ := node
      cases kind with
      | literal kind =>
          cases kind with
          | string => rfl
          | _ => cases isUnsupported
      | _ => first | rfl | cases isUnsupported
  | literal isLiteral failed => rw [evalStep_literal isLiteral, failed]
  | name isName failed =>
      obtain ⟨kind, text, below, span, origin⟩ := node
      cases kind with
      | symbol => exact failed
      | qualifiedId => exact failed
      | literal kind => cases kind <;> cases isName
      | _ => cases isName
  | operand isOperation asks failed =>
      obtain ⟨kind, text, below, span, origin⟩ := node
      cases kind with
      | constantExpression | parenthesizedExpression | castExpression =>
          cases asks
          exact failed
      | conditionalExpression =>
          refine bind_eq_error_iff.mpr ?_
          rcases asks with rfl | ⟨condition, ends, rfl⟩
          · exact .inl failed
          · exact .inr ⟨condition, ends, failed⟩
      | unary operator =>
          cases asks
          cases operator with
          | plus => exact failed
          | _ => exact bind_eq_error_iff.mpr (.inl failed)
      | binary operator =>
          rw [evalStep_binary rfl, bind_eq_error_iff]
          rcases asks with rfl | ⟨left, ends, asked, rfl⟩
          · exact .inl failed
          · exact .inr ⟨left, ends, bind_eq_error_iff.mpr (.inl (by rw [if_pos asked, failed]))⟩
      | literal kind => cases kind <;> cases isOperation
      | _ => cases isOperation
  | @division operator left right isBinary isDivision dividend divisor isZero =>
      have refused := (operator.apply_promote_eq_error_iff left right node.span _).mpr
        ⟨isDivision, isZero, rfl⟩
      have asked := BinaryOperator.evaluatesRight_of_isDivision isDivision left
      rw [evalStep_binary isBinary, dividend, divisor]
      simp [bind, Except.bind, asked, refused]

theorem Node.evalStep_eq_error_iff :
    node.evalStep child named = .error cause ↔ node.Fails child named cause :=
  ⟨fails_of_evalStep, Fails.evalStep_eq⟩

end

/-- A node that is evaluated: seen from where, and while the values of which constants are being
computed. -/
structure Visit where
  context : DeclContext
  /-- The constants whose values are being computed. -/
  busy : List SymbolId
  id : NodeId

namespace Visit

variable (tree : SyntaxTree) (program : Program)

def outcome (visit : Visit) : Except EvaluationError Value :=
  eval tree program visit.context visit.busy visit.id

def operandOutcome (visit : Visit) (index : Nat) : Except EvaluationError Value :=
  match tree.child? visit.id index with
  | some child => outcome tree program { visit with id := child }
  | none => .error (.malformedTree (tree.node visit.id).kind (tree.node visit.id).span)

def constantOutcome (visit : Visit) : Except EvaluationError Value :=
  match program.namedConstant tree visit.context visit.id with
  | .ok (symbol, expression) =>
      if symbol ∈ visit.busy then
        .error (.cyclicConstant (tree.display visit.id) (tree.node visit.id).span)
      else
        outcome tree program ⟨(program.entry symbol).declContext, symbol :: visit.busy, expression⟩
  | .error cause => .error cause

/-- The evaluation of a node asks for an operand, or for the value of a constant. -/
inductive Calls (visit : Visit) : Visit → Prop where
  | operand {index : Nat} {child : NodeId}
      (isOperation : (tree.node visit.id).kind.role = .operation)
      (asks : (tree.node visit.id).Asks (visit.operandOutcome tree program 0) index)
      (found : tree.child? visit.id index = some child) : Calls visit { visit with id := child }
  | constant {symbol : SymbolId} {expression : NodeId}
      (isName : (tree.node visit.id).kind.role = .name)
      (named : program.namedConstant tree visit.context visit.id = .ok (symbol, expression))
      (isFree : symbol ∉ visit.busy) :
      Calls visit ⟨(program.entry symbol).declContext, symbol :: visit.busy, expression⟩

/-- The evaluation of one node leads to that of another. -/
def LeadsTo : Visit → Visit → Prop :=
  Relation.ReflTransGen (Calls tree program)

/-- The node is a quotient or a remainder, both operands have values, and that of the right one is
zero. -/
inductive DividesByZero (visit : Visit) : Prop where
  | intro {operator : BinaryOperator} {dividend divisor : NodeId} {left right : Value}
      (isBinary : (tree.node visit.id).kind = .binary operator)
      (isDivision : operator = .divide ∨ operator = .remainder)
      (hasDividend : tree.child? visit.id 0 = some dividend)
      (leftEnds : eval tree program visit.context visit.busy dividend = .ok left)
      (hasDivisor : tree.child? visit.id 1 = some divisor)
      (rightEnds : eval tree program visit.context visit.busy divisor = .ok right)
      (isZero : right.isZero = true) : DividesByZero visit

/-- The errors that are those of the node itself. -/
inductive Faults (visit : Visit) : EvaluationError → Prop where
  | unsupported (isUnsupported : (tree.node visit.id).kind.role = .unsupported) :
      Faults visit (.unsupportedNode (tree.node visit.id).kind (tree.node visit.id).span)
  | literal {cause : EvaluationError} (isLiteral : (tree.node visit.id).kind.role = .literal)
      (failed : (tree.node visit.id).literalValue = .error cause) : Faults visit cause
  | name {cause : EvaluationError} (isName : (tree.node visit.id).kind.role = .name)
      (failed : program.namedConstant tree visit.context visit.id = .error cause) :
      Faults visit cause
  | cyclic {symbol : SymbolId} {expression : NodeId}
      (isName : (tree.node visit.id).kind.role = .name)
      (named : program.namedConstant tree visit.context visit.id = .ok (symbol, expression))
      (isBusy : symbol ∈ visit.busy) :
      Faults visit (.cyclicConstant (tree.display visit.id) (tree.node visit.id).span)
  | missing {index : Nat} (isOperation : (tree.node visit.id).kind.role = .operation)
      (asks : (tree.node visit.id).Asks (visit.operandOutcome tree program 0) index)
      (isMissing : tree.child? visit.id index = none) :
      Faults visit (.malformedTree (tree.node visit.id).kind (tree.node visit.id).span)
  | division (divides : DividesByZero tree program visit) :
      Faults visit (.divisionByZero (tree.node visit.id).span)

variable {tree program} {visit : Visit} {cause : EvaluationError}

theorem outcome_eq_evalStep :
    visit.outcome tree program =
      (tree.node visit.id).evalStep (visit.operandOutcome tree program)
        fun _ => visit.constantOutcome tree program :=
  eval_eq_evalStep tree program visit.context visit.busy visit.id

theorem operandOutcome_of_child {index : Nat} {child : NodeId}
    (found : tree.child? visit.id index = some child) :
    visit.operandOutcome tree program index =
      eval tree program visit.context visit.busy child := by
  simp only [operandOutcome, found, outcome]

theorem exists_child_of_operandOutcome {index : Nat} {value : Value}
    (ends : visit.operandOutcome tree program index = .ok value) :
    ∃ child, tree.child? visit.id index = some child ∧
      eval tree program visit.context visit.busy child = .ok value := by
  cases found : tree.child? visit.id index with
  | none =>
      simp only [operandOutcome, found] at ends
      cases ends
  | some child => exact ⟨child, rfl, operandOutcome_of_child found ▸ ends⟩

theorem outcome_eq_error_iff :
    visit.outcome tree program = .error cause ↔
      visit.Faults tree program cause ∨
        ∃ next, visit.Calls tree program next ∧ next.outcome tree program = .error cause := by
  rw [outcome_eq_evalStep, Node.evalStep_eq_error_iff]
  constructor
  · intro fails
    cases fails with
    | unsupported isUnsupported => exact .inl (.unsupported isUnsupported)
    | literal isLiteral failed => exact .inl (.literal isLiteral failed)
    | name isName failed =>
        unfold constantOutcome at failed
        split at failed
        · next symbol expression named =>
          split at failed
          · next isBusy =>
            cases failed
            exact .inl (.cyclic isName named isBusy)
          · next isFree => exact .inr ⟨_, .constant isName named isFree, failed⟩
        · next other lookupFailed =>
          cases failed
          exact .inl (.name isName lookupFailed)
    | operand isOperation asks failed =>
        unfold operandOutcome at failed
        split at failed
        · next child found => exact .inr ⟨_, .operand isOperation asks found, failed⟩
        · next isMissing =>
          cases failed
          exact .inl (.missing isOperation asks isMissing)
    | division isBinary isDivision dividend divisor isZero =>
        obtain ⟨first, hasDividend, leftEnds⟩ := exists_child_of_operandOutcome dividend
        obtain ⟨second, hasDivisor, rightEnds⟩ := exists_child_of_operandOutcome divisor
        exact .inl (.division
          (.intro isBinary isDivision hasDividend leftEnds hasDivisor rightEnds isZero))
  · rintro (faults | ⟨next, calls, failed⟩)
    · cases faults with
      | unsupported isUnsupported => exact .unsupported isUnsupported
      | literal isLiteral failed => exact .literal isLiteral failed
      | name isName failed => exact .name isName (by simp only [constantOutcome, failed])
      | cyclic isName named isBusy =>
          exact .name isName (by simp only [constantOutcome, named, if_pos isBusy])
      | missing isOperation asks isMissing =>
          exact .operand isOperation asks (by simp only [operandOutcome, isMissing])
      | division divides =>
          obtain ⟨isBinary, isDivision, hasDividend, leftEnds, hasDivisor, rightEnds, isZero⟩ :=
            divides
          exact .division isBinary isDivision ((operandOutcome_of_child hasDividend).trans leftEnds)
            ((operandOutcome_of_child hasDivisor).trans rightEnds) isZero
    · cases calls with
      | operand isOperation asks found =>
          exact .operand isOperation asks ((operandOutcome_of_child found).trans failed)
      | constant isName named isFree =>
          exact .name isName (by simpa only [constantOutcome, named, if_neg isFree] using failed)

/-- An evaluation fails exactly if it leads to a node that is at fault. -/
theorem outcome_eq_error_iff_exists_faults (visit : Visit) (cause : EvaluationError) :
    visit.outcome tree program = .error cause ↔
      ∃ reached, visit.LeadsTo tree program reached ∧ reached.Faults tree program cause := by
  constructor
  · obtain ⟨context, busy, id⟩ := visit
    induction context, busy, id using eval_induction tree program with
    | step context busy id children constant =>
        intro failed
        rcases outcome_eq_error_iff.mp failed with faults | ⟨next, calls, nextFailed⟩
        · exact ⟨_, .refl, faults⟩
        have goesOn : ∃ reached, next.LeadsTo tree program reached ∧
            reached.Faults tree program cause := by
          cases calls with
          | operand isOperation asks found => exact children _ _ found nextFailed
          | constant isName named isFree => exact constant _ _ named isFree nextFailed
        obtain ⟨reached, leads, faults⟩ := goesOn
        exact ⟨reached, .head calls leads, faults⟩
  · rintro ⟨reached, leads, faults⟩
    induction leads using Relation.ReflTransGen.head_induction_on with
    | refl => exact outcome_eq_error_iff.mpr (.inl faults)
    | head calls _ ih => exact outcome_eq_error_iff.mpr (.inr ⟨_, calls, ih⟩)

end Visit

theorem Program.namedConstant_error {tree : SyntaxTree} {program : Program} {context : DeclContext}
    {id : NodeId} {cause : EvaluationError}
    (failed : program.namedConstant tree context id = .error cause) :
    cause.concernsName = true := by
  unfold namedConstant at failed
  repeat' split at failed
  all_goals cases failed <;> rfl

namespace Visit

variable {tree : SyntaxTree} {program : Program} {visit : Visit} {cause : EvaluationError}

/-- A fault is one of spelling, one of a name, or a division by zero. -/
theorem Faults.concern (faults : visit.Faults tree program cause) :
    cause.concernsSpelling = true ∨ cause.concernsName = true ∨
      visit.DividesByZero tree program ∧ cause = .divisionByZero (tree.node visit.id).span := by
  cases faults with
  | unsupported | missing => exact .inl rfl
  | literal isLiteral failed => exact .inl (Node.literalValue_error failed)
  | name isName failed => exact .inr (.inl (Program.namedConstant_error failed))
  | cyclic => exact .inr (.inl rfl)
  | division divides => exact .inr (.inr ⟨divides, rfl⟩)

theorem faults_divisionByZero_iff {span : FileSpan} :
    visit.Faults tree program (.divisionByZero span) ↔
      visit.DividesByZero tree program ∧ (tree.node visit.id).span = span := by
  constructor
  · intro faults
    rcases faults.concern with spelling | name | ⟨divides, same⟩
    · cases spelling
    · cases name
    · cases same
      exact ⟨divides, rfl⟩
  · rintro ⟨divides, rfl⟩
    exact .division divides

end Visit

section

variable {tree : SyntaxTree} {program : Program} {context : DeclContext} {id : NodeId}
variable {cause : EvaluationError}

theorem evaluate_eq_error_iff :
    evaluate tree program context id = .error cause ↔
      ∃ reached, Visit.LeadsTo tree program ⟨context, [], id⟩ reached ∧
        reached.Faults tree program cause :=
  Visit.outcome_eq_error_iff_exists_faults ⟨context, [], id⟩ cause

theorem concern_of_evaluate_eq_error (failed : evaluate tree program context id = .error cause) :
    cause.concernsSpelling = true ∨ cause.concernsName = true ∨
      ∃ span, cause = .divisionByZero span := by
  obtain ⟨reached, -, faults⟩ := evaluate_eq_error_iff.mp failed
  rcases faults.concern with spelling | name | ⟨-, same⟩
  · exact .inl spelling
  · exact .inr (.inl name)
  · exact .inr (.inr ⟨_, same⟩)

end

/-- Evaluation never trips its own checks.  Whatever the tree, the program, the context and the
node, it never finds that operands are of different kinds or that a value cannot be incremented.  A
division by zero is reported exactly if the evaluation leads to a quotient or a remainder whose
operands have values, that of the right one being zero, and what is reported is the place of that
node. -/
theorem evaluation_passes_its_checks (tree : SyntaxTree) (program : Program)
    (context : DeclContext) (id : NodeId) :
    (∀ left right span,
      evaluate tree program context id ≠ .error (.kindMismatch left right span)) ∧
    (∀ kind, evaluate tree program context id ≠ .error (.invalidIncrement kind)) ∧
    ∀ span, evaluate tree program context id = .error (.divisionByZero span) ↔
      ∃ reached, Visit.LeadsTo tree program ⟨context, [], id⟩ reached ∧
        reached.DividesByZero tree program ∧ (tree.node reached.id).span = span := by
  refine ⟨fun left right span failed => ?_, fun kind failed => ?_, fun span => ?_⟩
  · rcases concern_of_evaluate_eq_error failed with spelling | name | ⟨_, same⟩
    · cases spelling
    · cases name
    · cases same
  · rcases concern_of_evaluate_eq_error failed with spelling | name | ⟨_, same⟩
    · cases spelling
    · cases name
    · cases same
  · simp only [evaluate_eq_error_iff, Visit.faults_divisionByZero_iff]

end CppTemplates
