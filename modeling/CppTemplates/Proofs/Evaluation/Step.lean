import CppTemplates.Evaluation.Basic

/-!
# Reasoning about one step of evaluation

`Node.evalStep` says what a node makes of the values below it and leaves open how those values are
found.  Two ways of finding them that are related stay related after the step, whatever the kind of
the node, as long as the relation respects results, errors and sequencing.  Every comparison of two
evaluations is an instance of that fact.

The second tool is induction along an evaluation: from the children of a node and the constant that
it names to the node.
-/

namespace CppTemplates

/-- Whether an error is about a name: what the name denotes or whether it has a value. -/
def EvaluationError.concernsName : EvaluationError → Bool
  | .unknownSymbol .. | .notAnExpression .. | .noValue .. | .cyclicConstant .. | .lookup _ => true
  | _ => false

/-- Whether an error is about a node that spells no value. -/
def EvaluationError.concernsSpelling : EvaluationError → Bool
  | .unsupportedWideCharacter .. | .unsupportedEscapeSequence .. | .unsupportedFloatingLiteral ..
  | .unsupportedNode .. | .malformedLiteral .. | .malformedTree .. => true
  | _ => false

theorem EvaluationError.not_concernsName_of_concernsSpelling {cause : EvaluationError}
    (isSpelling : cause.concernsSpelling = true) : cause.concernsName = false := by
  cases cause with
  | unknownSymbol | notAnExpression | noValue | cyclicConstant | lookup => cases isSpelling
  | _ => rfl

theorem parseIntegerLiteral_error {text : String} {span : FileSpan} {cause : EvaluationError}
    (failed : parseIntegerLiteral text span = .error cause) :
    cause = .malformedLiteral text span := by
  unfold parseIntegerLiteral at failed
  split at failed
  · cases failed
  · cases failed
    rfl

theorem parseCharacterLiteral_error {text : String} {span : FileSpan} {cause : EvaluationError}
    (failed : parseCharacterLiteral text span = .error cause) :
    cause.concernsSpelling = true := by
  simp only [parseCharacterLiteral] at failed
  repeat' split at failed
  all_goals cases failed <;> rfl

theorem Node.literalValue_error {node : Node} {cause : EvaluationError}
    (failed : node.literalValue = .error cause) : cause.concernsSpelling = true := by
  unfold Node.literalValue at failed
  repeat' split at failed
  all_goals first
    | (cases failed <;> rfl)
    | (rw [parseIntegerLiteral_error failed]; rfl)
    | exact parseCharacterLiteral_error failed

theorem BinaryOperator.apply_error {operator : BinaryOperator} {left right : Value}
    {span : FileSpan} {cause : EvaluationError}
    (failed : operator.apply left right span = .error cause) : cause.concernsName = false := by
  have foldTo_error : ∀ {width : Nat} (isSigned : Bool) (ofWord : BitVec width → Value)
      (left right : BitVec width), operator.foldTo isSigned ofWord left right span = .error cause →
        cause = .divisionByZero span := by
    intro width isSigned ofWord left right failed
    unfold BinaryOperator.foldTo at failed
    split at failed
    · cases failed
    · cases failed
      rfl
  unfold BinaryOperator.apply at failed
  split at failed
  case h_7 =>
    cases failed
    rfl
  all_goals
    rw [foldTo_error _ _ _ _ failed]
    rfl

theorem ofExcept_eq (outcome : Except EvaluationError Value) :
    (MonadExcept.ofExcept outcome : Except EvaluationError Value) = outcome := by
  cases outcome <;> rfl

/-- A relation between two ways of computing a value that respects results, errors and
sequencing.  Errors about names do not arise in a step itself. -/
structure OutcomeRelation (m n : Type → Type) [Monad m] [MonadExceptOf EvaluationError m]
    [Monad n] [MonadExceptOf EvaluationError n] where
  /-- The related computations. -/
  Related : m Value → n Value → Prop
  /-- Equal results are related. -/
  related_pure : ∀ value : Value, Related (pure value) (pure value)
  /-- Equal errors are related. -/
  related_throw : ∀ cause : EvaluationError, cause.concernsName = false →
    Related (throw cause) (throw cause)
  /-- Related computations that go on in related ways are related. -/
  related_bind : ∀ {first : m Value} {second : n Value} {firstNext : Value → m Value}
    {secondNext : Value → n Value}, Related first second →
      (∀ value, Related (firstNext value) (secondNext value)) →
        Related (first >>= firstNext) (second >>= secondNext)

namespace OutcomeRelation

variable {m n : Type → Type} [Monad m] [MonadExceptOf EvaluationError m]
variable [Monad n] [MonadExceptOf EvaluationError n]

theorem related_ofExcept (relation : OutcomeRelation m n)
    (outcome : Except EvaluationError Value)
    (aboutValues : ∀ cause, outcome = .error cause → cause.concernsName = false) :
    relation.Related (MonadExcept.ofExcept outcome) (MonadExcept.ofExcept outcome) := by
  cases outcome with
  | ok value => exact relation.related_pure value
  | error cause => exact relation.related_throw cause (aboutValues cause rfl)

/-- A step over related children and related named constants gives related values. -/
theorem related_evalStep (relation : OutcomeRelation m n) (node : Node)
    {firstChild : Nat → m Value} {secondChild : Nat → n Value}
    {firstNamed : Unit → m Value} {secondNamed : Unit → n Value}
    (children : ∀ index, relation.Related (firstChild index) (secondChild index))
    (named : relation.Related (firstNamed ()) (secondNamed ())) :
    relation.Related (node.evalStep firstChild firstNamed)
      (node.evalStep secondChild secondNamed) := by
  have mapped : ∀ change : Value → Value,
      relation.Related (firstChild 0 >>= fun value => pure (change value))
        (secondChild 0 >>= fun value => pure (change value)) := fun change =>
    relation.related_bind (children 0) fun value => relation.related_pure (change value)
  obtain ⟨kind, text, below, span, origin⟩ := node
  cases kind with
  | constantExpression => exact children 0
  | parenthesizedExpression => exact children 0
  | symbol => exact named
  | qualifiedId => exact named
  | castExpression => exact children 1
  | conditionalExpression =>
      exact relation.related_bind (children 0) fun condition => children _
  | literal kind =>
      cases kind with
      | string => exact relation.related_throw _ rfl
      | _ =>
          exact relation.related_ofExcept _ fun _ failed =>
            EvaluationError.not_concernsName_of_concernsSpelling (Node.literalValue_error failed)
  | unary operator =>
      cases operator with
      | plus => exact children 0
      | not => exact mapped Value.logicalNot
      | negate => exact mapped Value.negate
      | complement => exact mapped Value.complement
  | binary operator =>
      refine relation.related_bind (children 0) fun left => ?_
      have combined : ∀ right : Value, relation.Related
          (MonadExcept.ofExcept (operator.apply (promote left right).1 (promote left right).2 span))
          (MonadExcept.ofExcept
            (operator.apply (promote left right).1 (promote left right).2 span)) :=
        fun right => relation.related_ofExcept _ fun _ => BinaryOperator.apply_error
      -- The right operand counts only if the operator asks for it.
      by_cases asked : operator.strictness.evaluatesRight left = true
      · simp only [asked, if_true]
        exact relation.related_bind (children 1) combined
      · simp only [asked]
        exact relation.related_bind (relation.related_pure left) combined
  | _ => exact relation.related_throw _ rfl

end OutcomeRelation

/-- A step looks at nothing of a node but its kind, text and span. -/
theorem Node.evalStep_congr {m : Type → Type} [Monad m] [MonadExceptOf EvaluationError m]
    {first second : Node} (kind : first.kind = second.kind) (text : first.text = second.text)
    (span : first.span = second.span) (child : Nat → m Value) (named : Unit → m Value) :
    first.evalStep child named = second.evalStep child named := by
  obtain ⟨firstKind, firstText, firstChildren, firstSpan, firstOrigin⟩ := first
  obtain ⟨secondKind, secondText, secondChildren, secondSpan, secondOrigin⟩ := second
  simp only at kind text span
  subst kind text span
  rfl

/-- What holds of a node whenever it holds of its children and of the constant that the node names,
as far as that one is not busy, holds of every node. -/
theorem eval_induction (tree : SyntaxTree) (program : Program)
    {motive : DeclContext → List SymbolId → NodeId → Prop}
    (step : ∀ context busy id,
      (∀ index child, tree.child? id index = some child → motive context busy child) →
      (∀ symbol expression,
        program.namedConstant tree context id = .ok (symbol, expression) → symbol ∉ busy →
          motive (program.entry symbol).declContext (symbol :: busy) expression) →
      motive context busy id)
    (context : DeclContext) (busy : List SymbolId) (id : NodeId) : motive context busy id := by
  apply step context busy id
  · intro index child found
    have := SyntaxTree.lt_of_child?_eq_some found
    exact eval_induction tree program step context busy child
  · intro symbol expression found isFree
    have := Program.countOutside_cons_lt (Program.index_lt_of_namedConstant found) isFree
    exact eval_induction tree program step _ (symbol :: busy) expression
termination_by (program.countOutside busy, id.index)

end CppTemplates
