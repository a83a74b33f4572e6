import Mathlib
import CppTemplates.Proofs.Evaluation.CycleGuard
import CppTemplates.Proofs.Evaluation.Growth
import CppTemplates.Proofs.Program.NameSpelling

/-!
# Operands that evaluation skips

The right operand of `&&` after a zero, the right operand of `||` after a value that is not zero,
the branch of a conditional that is not taken and the type of a cast do not count.  Two evaluations
are compared here: one of an expression, and one of the same expression with any of those operands
replaced, however deep they stand and also in the initializers that are reached through names.

The two outcomes are the same but for one case.  An unknown qualified name is reported as it is
written, and what is written there may contain an operand that was replaced, as in
`unknown::Class<0 && x>::member`.
-/

namespace CppTemplates

/-- Whether a step that finds the given outcome at its first child asks for a child. -/
def Node.Asks (node : Node) (first : Except EvaluationError Value) (index : Nat) : Prop :=
  match node.kind with
  | .castExpression => index = 1
  | .conditionalExpression =>
      index = 0 ∨ ∃ condition, first = .ok condition ∧
        index = if condition.isZero then 2 else 1
  | .binary operator =>
      index = 0 ∨ ∃ left, first = .ok left ∧
        operator.strictness.evaluatesRight left = true ∧ index = 1
  | _ => index = 0

theorem Node.evalStep_eq_of_asks (node : Node) {child other : Nat → Except EvaluationError Value}
    (named : Unit → Except EvaluationError Value)
    (agree : ∀ index, node.Asks (child 0) index → other index = child index) :
    node.evalStep other named = node.evalStep child named := by
  obtain ⟨kind, text, below, span, origin⟩ := node
  cases kind with
  | castExpression => exact agree 1 rfl
  | conditionalExpression =>
      have atCondition : other 0 = child 0 := agree 0 (Or.inl rfl)
      simp only [Node.evalStep, atCondition]
      cases ends : child 0 with
      | error cause => rfl
      | ok condition =>
          exact agree _ (Or.inr ⟨condition, ends, rfl⟩)
  | binary operator =>
      have atLeft : other 0 = child 0 := agree 0 (Or.inl rfl)
      simp only [Node.evalStep, atLeft]
      cases ends : child 0 with
      | error cause => rfl
      | ok left =>
          cases asked : operator.strictness.evaluatesRight left with
          | false => simp [bind, Except.bind, asked]
          | true =>
              have atRight : other 1 = child 1 := agree 1 (Or.inr ⟨left, ends, asked, rfl⟩)
              simp [bind, Except.bind, atRight, asked]
  | constantExpression => exact agree 0 rfl
  | parenthesizedExpression => exact agree 0 rfl
  | unary operator =>
      have atOperand : other 0 = child 0 := agree 0 rfl
      cases operator <;> simp only [Node.evalStep, atOperand]
  | literal kind => cases kind <;> rfl
  | _ => rfl

/-- The children of a node that its value does not depend on, as seen from a context. -/
inductive Skips (tree : SyntaxTree) (program : Program) (context : DeclContext) (id : NodeId) :
    Nat → Prop
  | afterZero {left : NodeId} {value : Value} :
      (tree.node id).kind = .binary .logicalAnd → tree.child? id 0 = some left →
      evaluate tree program context left = .ok value → value.isZero = true →
      Skips tree program context id 1
  | afterNonZero {left : NodeId} {value : Value} :
      (tree.node id).kind = .binary .logicalOr → tree.child? id 0 = some left →
      evaluate tree program context left = .ok value → value.isZero = false →
      Skips tree program context id 1
  | ifTrue {condition : NodeId} {value : Value} :
      (tree.node id).kind = .conditionalExpression → tree.child? id 0 = some condition →
      evaluate tree program context condition = .ok value → value.isZero = true →
      Skips tree program context id 1
  | ifFalse {condition : NodeId} {value : Value} :
      (tree.node id).kind = .conditionalExpression → tree.child? id 0 = some condition →
      evaluate tree program context condition = .ok value → value.isZero = false →
      Skips tree program context id 2
  | castType : (tree.node id).kind = .castExpression → Skips tree program context id 0

/-- A node whose skipped operands are replaced, at any depth.  The names that are spelled by several
nodes keep their spelling if that is asked for. -/
inductive ReplacesSkipped (tree : SyntaxTree) (program : Program) (later : SyntaxTree)
    (keepsNames : Prop) : DeclContext → NodeId → NodeId → Prop
  | node {context : DeclContext} {id counterpart : NodeId}
      (kind : (later.node counterpart).kind = (tree.node id).kind)
      (text : (later.node counterpart).text = (tree.node id).text)
      (span : (later.node counterpart).span = (tree.node id).span)
      (arity : (later.node counterpart).children.length = (tree.node id).children.length)
      (spelling : keepsNames → (tree.node id).kind = .qualifiedId →
        later.display counterpart = tree.display id)
      (children : ∀ index child replaced, ¬ Skips tree program context id index →
        tree.child? id index = some child → later.child? counterpart index = some replaced →
          ReplacesSkipped tree program later keepsNames context child replaced) :
      ReplacesSkipped tree program later keepsNames context id counterpart

/-- The same program but for the initializers, in which skipped operands are replaced. -/
structure Program.ReplacesSkipped (program other : Program) (tree later : SyntaxTree)
    (keepsNames : Prop) : Prop where
  scopes : other.scopes = program.scopes
  types : other.types = program.types
  entry : ∀ symbol, other.entry symbol =
    { program.entry symbol with value := (other.entry symbol).value }
  value : ∀ symbol, Option.Rel
    (CppTemplates.ReplacesSkipped tree program later keepsNames (program.entry symbol).declContext)
    (program.entry symbol).value (other.entry symbol).value

/-- Two outcomes that are the same, or report the same unknown qualified name, each as it is
written in its own tree. -/
inductive SameButForQuotation (tree : SyntaxTree) (program : Program) (later : SyntaxTree)
    (keepsNames : Prop) : Except EvaluationError Value → Except EvaluationError Value → Prop
  | same (outcome : Except EvaluationError Value) :
      SameButForQuotation tree program later keepsNames outcome outcome
  | quotes {context : DeclContext} {id counterpart : NodeId} (isOpen : ¬ keepsNames)
      (replaced : ReplacesSkipped tree program later keepsNames context id counterpart)
      (isQualified : (tree.node id).kind = .qualifiedId)
      (unknown : program.queryIdExpression tree context id = .ok []) :
      SameButForQuotation tree program later keepsNames
        (.error (.unknownSymbol (tree.display id) (tree.node id).span))
        (.error (.unknownSymbol (later.display counterpart) (tree.node id).span))

section

variable {tree later : SyntaxTree} {program other : Program} {keepsNames : Prop}

namespace SameButForQuotation

variable {first second : Except EvaluationError Value}

theorem eq_of_ok {value : Value}
    (alike : SameButForQuotation tree program later keepsNames (.ok value) second) :
    second = .ok value := by
  cases alike
  rfl

theorem exists_error {cause : EvaluationError}
    (alike : SameButForQuotation tree program later keepsNames (.error cause) second) :
    ∃ other, second = .error other := by
  cases alike with
  | same => exact ⟨cause, rfl⟩
  | quotes => exact ⟨_, rfl⟩

theorem eq_of_keepsNames (keeps : keepsNames)
    (alike : SameButForQuotation tree program later keepsNames first second) :
    second = first := by
  cases alike with
  | same => rfl
  | quotes isOpen => exact absurd keeps isOpen

end SameButForQuotation

/-- Steps keep outcomes the same but for quotations. -/
def quotingAlike (tree : SyntaxTree) (program : Program) (later : SyntaxTree)
    (keepsNames : Prop) : OutcomeRelation (Except EvaluationError) (Except EvaluationError) where
  Related := SameButForQuotation tree program later keepsNames
  related_pure value := .same (.ok value)
  related_throw cause _ := .same (.error cause)
  related_bind := by
    intro first second firstNext secondNext related relatedNext
    cases related with
    | same =>
        cases first with
        | ok value => exact relatedNext value
        | error cause => exact .same (.error cause)
    | quotes isOpen replaced isQualified unknown =>
        exact .quotes isOpen replaced isQualified unknown

/-- While constants are busy an expression has its own outcome or runs into one of them. -/
theorem eval_eq_evaluate_or_reportsCycle (context : DeclContext) (busy : List SymbolId)
    (id : NodeId) :
    eval tree program context busy id = evaluate tree program context id ∨
      ReportsCycle (eval tree program context busy id) := by
  have passed : ReportsCycle (eval tree program context busy id) ∨
      (evalUnguarded tree program (nestingBound tree program busy id + 1) context id).run =
        some (eval tree program context busy id) :=
    evalUnguarded_of_eval (Nat.lt_succ_self _)
  rcases passed with cyclic | finished
  · exact Or.inr cyclic
  · have unguarded : eval tree program context [] id = eval tree program context busy id :=
      eval_eq_of_evalUnguarded finished fun _ member => nomatch member
    exact Or.inl unguarded.symm

/-- A step does not ask for a skipped child once the first child has its outcome. -/
theorem Skips.not_asks {context : DeclContext} {id : NodeId} {index : Nat}
    (skips : Skips tree program context id index) {first : Except EvaluationError Value}
    (outcome : ∀ left value, tree.child? id 0 = some left →
      evaluate tree program context left = .ok value →
        first = .ok value ∨ ∃ cause, first = .error cause) :
    ¬ (tree.node id).Asks first index := by
  cases skips with
  | castType isCast => simp [Node.Asks, isCast]
  | afterZero isAnd found evaluates isZero
  | afterNonZero isOr found evaluates isZero
  | ifTrue isConditional found evaluates isZero
  | ifFalse isConditional found evaluates isZero =>
      rcases outcome _ _ found evaluates with rfl | ⟨cause, rfl⟩ <;>
        simp [Node.Asks, BinaryOperator.strictness, Strictness.evaluatesRight, *]

/-- Steps over alike children give alike outcomes, also if the children that neither step asks for
differ. -/
theorem quotingAlike_evalStep (node : Node) {child other : Nat → Except EvaluationError Value}
    {named otherNamed : Unit → Except EvaluationError Value} (skipped : Nat → Prop)
    (children : ∀ index, ¬ skipped index →
      SameButForQuotation tree program later keepsNames (child index) (other index))
    (notAsked : ∀ index, skipped index → ∀ first,
      SameButForQuotation tree program later keepsNames (child 0) first → ¬ node.Asks first index)
    (names : SameButForQuotation tree program later keepsNames (named ()) (otherNamed ())) :
    SameButForQuotation tree program later keepsNames (node.evalStep child named)
      (node.evalStep other otherNamed) := by
  -- A skipped child may as well have the outcome that it has in the first step.
  classical
  obtain ⟨patched, atSkipped, atOthers⟩ : ∃ patched : Nat → Except EvaluationError Value,
      (∀ index, skipped index → patched index = child index) ∧
        ∀ index, ¬ skipped index → patched index = other index :=
    ⟨fun index => if skipped index then child index else other index,
      fun _ isSkipped => if_pos isSkipped, fun _ isKept => if_neg isKept⟩
  have related : ∀ index, SameButForQuotation tree program later keepsNames (child index)
      (patched index) := by
    intro index
    by_cases isSkipped : skipped index
    · rw [atSkipped index isSkipped]
      exact .same _
    · rw [atOthers index isSkipped]
      exact children index isSkipped
  have agree : ∀ index, node.Asks (patched 0) index → other index = patched index := by
    intro index asks
    have isKept : ¬ skipped index :=
      fun isSkipped => notAsked index isSkipped (patched 0) (related 0) asks
    exact (atOthers index isKept).symm
  rw [Node.evalStep_eq_of_asks node otherNamed agree]
  exact (quotingAlike tree program later keepsNames).related_evalStep node related names

namespace Program

namespace ReplacesSkipped

variable (programs : program.ReplacesSkipped other tree later keepsNames)
include programs

theorem kind_eq (symbol : SymbolId) : (other.entry symbol).kind = (program.entry symbol).kind := by
  rw [programs.entry symbol]

theorem isConstantCandidate_eq (symbol : SymbolId) :
    (other.entry symbol).isConstantCandidate = (program.entry symbol).isConstantCandidate := by
  simp only [SymbolEntry.isConstantCandidate, programs.kind_eq]

theorem declContext_eq (symbol : SymbolId) :
    (other.entry symbol).declContext = (program.entry symbol).declContext := by
  rw [programs.entry symbol]

theorem type_eq (type : TypeId) : other.type type = program.type type := by
  simp only [Program.type, programs.types]

theorem aliased?_eq (type : TypeId) : other.aliased? type = program.aliased? type := by
  unfold aliased?
  rw [programs.type_eq]
  split
  · rfl
  case h_2 symbol _ => rw [programs.entry symbol]
  · rfl

theorem stripTypedefs_eq (type : TypeId) :
    other.stripTypedefs type = program.stripTypedefs type := by
  have follow : ∀ steps type, other.followTypedefs steps type =
      program.followTypedefs steps type := by
    intro steps
    induction steps with
    | zero => exact fun _ => rfl
    | succ steps ih =>
        intro type
        simp only [followTypedefs, programs.aliased?_eq, ih]
  rw [stripTypedefs, stripTypedefs, programs.types, follow]

theorem classData?_eq (type : TypeId) : other.classData? type = program.classData? type := by
  have sameType : ∀ symbol, (other.entry symbol).type = (program.entry symbol).type :=
    fun symbol => by rw [programs.entry symbol]
  simp only [classData?, actualClass?, programs.stripTypedefs_eq, programs.type_eq, sameType]

/-- Initializers have no part in the lookup of names. -/
theorem sameNames : program.SameNames other where
  candidates context qualifier name := by
    simp only [candidates, programs.scopes]
  openedScope? symbol := by
    unfold openedScope?
    rw [programs.entry symbol]
    simp only [programs.classData?_eq]

end ReplacesSkipped

end Program

namespace ReplacesSkipped

variable {context : DeclContext} {id counterpart : NodeId}

/-- Only operands are skipped, so the components of a name are kept. -/
theorem sameName
    (replaced : ReplacesSkipped tree program later keepsNames context id counterpart) :
    SameName tree later id counterpart := by
  obtain ⟨kind, text, -, arity, -, children⟩ := replaced
  refine ⟨⟨kind, text⟩, fun isQualified => ?_⟩
  refine List.forall₂_iff_get.mpr ⟨arity.symm, fun index bound replacedBound => ?_⟩
  have notSkipped : ¬ Skips tree program context id index := by
    rintro (isAnd | isOr | isConditional | isConditional | isCast) <;> simp_all
  obtain ⟨kind, text, -⟩ := children index _ _ notSkipped (List.getElem?_eq_getElem bound)
    (List.getElem?_eq_getElem replacedBound)
  exact ⟨kind, text⟩

/-- An unknown name is reported alike, but that a qualified one is quoted. -/
theorem unknown_alike
    (replaced : ReplacesSkipped tree program later keepsNames context id counterpart)
    (unknown : program.queryIdExpression tree context id = .ok []) :
    SameButForQuotation tree program later keepsNames
      (.error (.unknownSymbol (tree.display id) (tree.node id).span))
      (.error (.unknownSymbol (later.display counterpart) (tree.node id).span)) := by
  rcases replaced.sameName.display_eq_or_undeclared unknown with sameText | ⟨isQualified, -⟩
  · rw [sameText]
    exact .same _
  by_cases keeps : keepsNames
  · obtain ⟨-, -, -, -, spelling, -⟩ := replaced
    rw [spelling keeps isQualified]
    exact .same _
  · exact .quotes keeps replaced isQualified unknown

/-- A name whose skipped parts are replaced stands for the same constant, whose own skipped operands
are replaced. -/
theorem namedConstant_of_ok (programs : program.ReplacesSkipped other tree later keepsNames)
    (replaced : ReplacesSkipped tree program later keepsNames context id counterpart)
    {symbol : SymbolId} {expression : NodeId}
    (found : program.namedConstant tree context id = .ok (symbol, expression)) :
    later.display counterpart = tree.display id ∧
      ∃ initializer, other.namedConstant later context counterpart = .ok (symbol, initializer) ∧
        ReplacesSkipped tree program later keepsNames (program.entry symbol).declContext expression
          initializer := by
  obtain ⟨⟨rest, resolves⟩, isConstant, hasValue⟩ := Program.namedConstant_eq_ok.mp found
  refine ⟨replaced.sameName.display_eq_of_found resolves, ?_⟩
  have values := programs.value symbol
  rw [hasValue] at values
  obtain ⟨initializer, replacedValue, otherValue⟩ :
      ∃ initializer, ReplacesSkipped tree program later keepsNames
        (program.entry symbol).declContext expression initializer ∧
          (other.entry symbol).value = some initializer := by
    generalize (other.entry symbol).value = otherValue at values
    cases values with
    | some related => exact ⟨_, related, rfl⟩
  have otherConstant : (other.entry symbol).isConstantCandidate = true :=
    (programs.isConstantCandidate_eq symbol).trans isConstant
  have otherResolves := (replaced.sameName.queryIdExpression_eq programs.sameNames context).trans
    resolves
  exact ⟨initializer,
    Program.namedConstant_eq_ok.mpr ⟨⟨rest, otherResolves⟩, otherConstant, otherValue⟩,
    replacedValue⟩

/-- A name that stands for no constant fails alike, but that an unknown one is quoted. -/
theorem namedConstant_of_error (programs : program.ReplacesSkipped other tree later keepsNames)
    (replaced : ReplacesSkipped tree program later keepsNames context id counterpart)
    {cause : EvaluationError}
    (failed : program.namedConstant tree context id = .error cause) :
    ∃ otherCause, other.namedConstant later context counterpart = .error otherCause ∧
      SameButForQuotation tree program later keepsNames (.error cause) (.error otherCause) := by
  have span : (later.node counterpart).span = (tree.node id).span := by
    obtain ⟨-, -, span, -⟩ := replaced
    exact span
  have otherQuery := replaced.sameName.queryIdExpression_eq programs.sameNames context
  unfold Program.namedConstant at failed ⊢
  rw [otherQuery, span]
  cases resolves : program.queryIdExpression tree context id with
  | error lookup =>
      simp only [resolves] at failed ⊢
      exact ⟨cause, failed, .same _⟩
  | ok candidates =>
      cases candidates with
      | nil =>
          simp only [resolves] at failed ⊢
          cases failed
          exact ⟨_, rfl, replaced.unknown_alike resolves⟩
      | cons symbol rest =>
          refine ⟨cause, ?_, .same _⟩
          have values := programs.value symbol
          simp only [resolves] at failed ⊢
          rw [replaced.sameName.display_eq_of_found resolves, programs.isConstantCandidate_eq,
            programs.kind_eq]
          by_cases isConstant : (program.entry symbol).isConstantCandidate = true
          · cases hasValue : (program.entry symbol).value with
            | some expression => simp [isConstant, hasValue] at failed
            | none =>
                rw [hasValue] at values
                generalize (other.entry symbol).value = otherValue at values ⊢
                cases values
                simpa [isConstant, hasValue] using failed
          · simpa [isConstant] using failed

end ReplacesSkipped

theorem ReplacesSkipped.child?_eq_none_iff {context : DeclContext} {id counterpart : NodeId}
    (replaced : ReplacesSkipped tree program later keepsNames context id counterpart)
    (index : Nat) : later.child? counterpart index = none ↔ tree.child? id index = none := by
  obtain ⟨-, -, -, arity, -, -⟩ := replaced
  simp only [SyntaxTree.child?, List.getElem?_eq_none_iff, arity]

/-- Whatever constants are busy, replacing skipped operands keeps the outcome but for quotations. -/
theorem eval_alike (programs : program.ReplacesSkipped other tree later keepsNames)
    {context : DeclContext} {busy : List SymbolId} {id counterpart : NodeId}
    (replaced : ReplacesSkipped tree program later keepsNames context id counterpart) :
    SameButForQuotation tree program later keepsNames (eval tree program context busy id)
      (eval later other context busy counterpart) := by
  induction context, busy, id using eval_induction tree program generalizing counterpart with
  | step context busy id children constant =>
      have whole := replaced
      obtain ⟨kind, text, span, -, -, replacedChildren⟩ := replaced
      rw [eval_eq_evalStep, eval_eq_evalStep, Node.evalStep_congr kind text span, kind, span]
      refine quotingAlike_evalStep (tree.node id) (Skips tree program context id) ?_ ?_ ?_
      · intro index notSkipped
        cases found : tree.child? id index with
        | none =>
            rw [(whole.child?_eq_none_iff index).mpr found]
            exact .same _
        | some child =>
            cases otherFound : later.child? counterpart index with
            | none =>
                rw [whole.child?_eq_none_iff index, found] at otherFound
                cases otherFound
            | some otherChild =>
                exact children index child found
                  (replacedChildren index child otherChild notSkipped found otherFound)
      · intro index skips first relatedLeft
        refine skips.not_asks fun left value found evaluates => ?_
        simp only [found] at relatedLeft
        rcases eval_eq_evaluate_or_reportsCycle context busy left with same | ⟨name, span, cyclic⟩
        · rw [same, evaluates] at relatedLeft
          exact Or.inl relatedLeft.eq_of_ok
        · rw [cyclic] at relatedLeft
          exact Or.inr relatedLeft.exists_error
      · cases found : program.namedConstant tree context id with
        | error cause =>
            obtain ⟨otherCause, otherFound, alike⟩ := whole.namedConstant_of_error programs found
            simp only [otherFound]
            exact alike
        | ok pair =>
            obtain ⟨symbol, expression⟩ := pair
            obtain ⟨spelling, initializer, otherFound, replacedValue⟩ :=
              whole.namedConstant_of_ok programs found
            simp only [otherFound, spelling, programs.declContext_eq]
            by_cases isBusy : symbol ∈ busy
            · simp only [if_pos isBusy]
              exact .same _
            · simp only [if_neg isBusy]
              exact constant symbol expression found isBusy replacedValue

/-- A value combined with itself by a logical operator says whether it is not zero. -/
theorem BinaryOperator.apply_self_of_not_evaluatesRight {operator : BinaryOperator} {value : Value}
    (skips : operator.strictness.evaluatesRight value = false) (span : FileSpan) :
    operator.apply value value span = .ok (.bool (!value.isZero)) := by
  cases operator with
  | logicalAnd | logicalOr =>
      cases value with
      | bool truth => cases truth <;> rfl
      | _ => simp [apply, foldTo, fold, Folded.toValue, Value.isZero, bne]
  | _ => cases skips

/-- An operator that skips its right operand says whether the left one is not zero, whatever the
kind of the left one. -/
theorem evaluate_of_not_evaluatesRight {context : DeclContext} {id left : NodeId} {value : Value}
    {operator : BinaryOperator} (isBinary : (tree.node id).kind = .binary operator)
    (found : tree.child? id 0 = some left)
    (evaluates : evaluate tree program context left = .ok value)
    (skips : operator.strictness.evaluatesRight value = false) :
    evaluate tree program context id = .ok (.bool (!value.isZero)) := by
  rw [evaluate] at evaluates ⊢
  rw [eval_eq_evalStep]
  have applied := BinaryOperator.apply_self_of_not_evaluatesRight skips (tree.node id).span
  simp [Node.evalStep, isBinary, found, evaluates, skips, bind, Except.bind, pure, Except.pure,
    promote, applied, MonadExcept.ofExcept]

theorem ReplacesSkipped.of_extends (grows : tree.Extends later) {context : DeclContext}
    {id : NodeId} (bound : id.index < tree.size) :
    ReplacesSkipped tree program later keepsNames context id id := by
  have same := grows.node_eq id bound
  refine .node (by rw [same]) (by rw [same]) (by rw [same]) (by rw [same])
    (fun _ _ => grows.display_eq bound) ?_
  intro index child replaced _ found otherFound
  rw [grows.child?_eq found] at otherFound
  cases otherFound
  have older := SyntaxTree.lt_of_child?_eq_some found
  exact of_extends grows (Nat.lt_trans older bound)
termination_by id.index

end

/-- Skipped operands do not interfere.  Replacing them, at any depth and in any initializers, keeps
every value and every error, but that an unknown qualified name is quoted as it is written after the
replacement.  If the qualified names are spelled as before there is no difference at all.  A logical
operator that skips its right operand has a truth value, whatever the kind of its left operand. -/
theorem skipped_operands_do_not_interfere {tree later : SyntaxTree} {program other : Program}
    {keepsNames : Prop} (programs : program.ReplacesSkipped other tree later keepsNames)
    {context : DeclContext} {id counterpart : NodeId}
    (replaced : ReplacesSkipped tree program later keepsNames context id counterpart) :
    SameButForQuotation tree program later keepsNames (evaluate tree program context id)
        (evaluate later other context counterpart) ∧
      (keepsNames →
        evaluate later other context counterpart = evaluate tree program context id) ∧
      ∀ node left value, tree.child? node 0 = some left →
        evaluate tree program context left = .ok value →
          ((tree.node node).kind = .binary .logicalAnd → value.isZero = true →
            evaluate tree program context node = .ok (.bool false)) ∧
          ((tree.node node).kind = .binary .logicalOr → value.isZero = false →
            evaluate tree program context node = .ok (.bool true)) := by
  have alike : SameButForQuotation tree program later keepsNames (evaluate tree program context id)
      (evaluate later other context counterpart) := eval_alike programs replaced
  refine ⟨alike, fun keeps => alike.eq_of_keepsNames keeps, ?_⟩
  intro node left value found evaluates
  constructor
  · intro isAnd isZero
    have skips : BinaryOperator.logicalAnd.strictness.evaluatesRight value = false := by
      simp [BinaryOperator.strictness, Strictness.evaluatesRight, isZero]
    rw [evaluate_of_not_evaluatesRight isAnd found evaluates skips, isZero]
    rfl
  · intro isOr isNonZero
    have skips : BinaryOperator.logicalOr.strictness.evaluatesRight value = false := by
      simp [BinaryOperator.strictness, Strictness.evaluatesRight, isNonZero]
    rw [evaluate_of_not_evaluatesRight isOr found evaluates skips, isNonZero]
    rfl

namespace Sample

/-- The nodes of `0 && x` and of `N`. -/
def conjunction : SyntaxTree :=
  let tree := ((SyntaxTree.empty.addIntegerLiteral "0").2.addIdentifier "x").2
  ((tree.addInterior (.binary .logicalAnd) [⟨0⟩, ⟨1⟩]).2.addIdentifier "N").2

/-- The same nodes, and those of `0 && 1 / 0`. -/
def conjunctionReplaced : SyntaxTree :=
  let tree := (conjunction.addIntegerLiteral "1").2
  let tree := (tree.addInterior (.binary .divide) [⟨4⟩, ⟨0⟩]).2
  (tree.addInterior (.binary .logicalAnd) [⟨0⟩, ⟨5⟩]).2

def constantN (initializer : NodeId) : Program :=
  ((({} : Program).newType (.builtin .int)).2.declareVariable ScopeTree.globalContext "N" ⟨0⟩
    (some initializer)).2

theorem conjunction_extends : conjunction.Extends conjunctionReplaced :=
  ((SyntaxTree.extends_push _ _).trans (SyntaxTree.extends_push _ _)).trans
    (SyntaxTree.extends_push _ _)

theorem zero_evaluates (program : Program) (context : DeclContext) :
    evaluate conjunction program context ⟨0⟩ = .ok (.signedInt 0) := by
  rw [evaluate, eval_eq_evalStep]
  cbv

theorem conjunction_replaced (program : Program) (context : DeclContext) :
    ReplacesSkipped conjunction program conjunctionReplaced True context ⟨2⟩ ⟨6⟩ := by
  refine .node rfl rfl rfl rfl (fun _ impossible => by cases impossible) ?_
  intro index child replaced notSkipped found otherFound
  match index with
  | 0 =>
      cases found
      cases otherFound
      exact .of_extends conjunction_extends (by decide)
  | 1 => exact absurd (.afterZero rfl rfl (zero_evaluates program context) rfl) notSkipped
  | index + 2 => cases found

theorem constantN_replaced :
    (constantN ⟨2⟩).ReplacesSkipped (constantN ⟨6⟩) conjunction conjunctionReplaced True where
  scopes := rfl
  types := rfl
  entry symbol := by
    obtain ⟨_ | index⟩ := symbol
    · rfl
    · rfl
  value symbol := by
    obtain ⟨_ | index⟩ := symbol
    · exact .some (conjunction_replaced _ _)
    · exact .none

/-- `N` keeps its value while its initializer `0 && x` becomes `0 && 1 / 0`. -/
theorem skipped_division :
    (constantN ⟨2⟩).ReplacesSkipped (constantN ⟨6⟩) conjunction conjunctionReplaced True ∧
    evaluate conjunctionReplaced (constantN ⟨6⟩) ScopeTree.globalContext ⟨3⟩ =
      evaluate conjunction (constantN ⟨2⟩) ScopeTree.globalContext ⟨3⟩ := by
  have replaced : ReplacesSkipped conjunction (constantN ⟨2⟩) conjunctionReplaced True
      ScopeTree.globalContext ⟨3⟩ ⟨3⟩ := .of_extends conjunction_extends (by decide)
  have alike := skipped_operands_do_not_interfere constantN_replaced replaced
  exact ⟨constantN_replaced, alike.2.1 trivial⟩

/-- The nodes of `u::A<0 && x>::value`, and those of `u::A<0 && y>::value`. -/
def unknownNames : SyntaxTree :=
  let tree := (SyntaxTree.empty.addIdentifier "u").2
  let tree := ((tree.addIdentifier "A").2.addIntegerLiteral "0").2
  let tree := ((tree.addIdentifier "x").2.addIdentifier "y").2
  let tree := (tree.addIdentifier "value").2
  let tree := (tree.addInterior (.binary .logicalAnd) [⟨2⟩, ⟨3⟩]).2
  let tree := (tree.addInterior .templateId [⟨1⟩, ⟨6⟩]).2
  let tree := (tree.addInterior .qualifiedId [⟨0⟩, ⟨7⟩, ⟨5⟩]).2
  let tree := (tree.addInterior (.binary .logicalAnd) [⟨2⟩, ⟨4⟩]).2
  let tree := (tree.addInterior .templateId [⟨1⟩, ⟨9⟩]).2
  (tree.addInterior .qualifiedId [⟨0⟩, ⟨10⟩, ⟨5⟩]).2

theorem zero_among_unknownNames :
    evaluate unknownNames {} ScopeTree.globalContext ⟨2⟩ = .ok (.signedInt 0) := by
  rw [evaluate, eval_eq_evalStep]
  cbv

theorem unknownNames_replaced :
    ReplacesSkipped unknownNames {} unknownNames False ScopeTree.globalContext ⟨8⟩ ⟨11⟩ := by
  have itself : ∀ id : NodeId, id.index < 12 →
      ReplacesSkipped unknownNames {} unknownNames False ScopeTree.globalContext id id :=
    fun id bound => .of_extends (SyntaxTree.Extends.refl _) bound
  have operands :
      ReplacesSkipped unknownNames {} unknownNames False ScopeTree.globalContext ⟨6⟩ ⟨9⟩ := by
    refine .node rfl rfl rfl rfl (fun impossible => impossible.elim) ?_
    rintro (_ | _ | _) child replaced notSkipped found otherFound
    · cases found
      cases otherFound
      exact itself _ (by decide)
    · exact absurd (.afterZero rfl rfl zero_among_unknownNames rfl) notSkipped
    · cases found
  have arguments :
      ReplacesSkipped unknownNames {} unknownNames False ScopeTree.globalContext ⟨7⟩ ⟨10⟩ := by
    refine .node rfl rfl rfl rfl (fun impossible => impossible.elim) ?_
    rintro (_ | _ | _) child replaced notSkipped found otherFound
    · cases found
      cases otherFound
      exact itself _ (by decide)
    · cases found
      cases otherFound
      exact operands
    · cases found
  refine .node rfl rfl rfl rfl (fun impossible => impossible.elim) ?_
  rintro (_ | _ | _ | _) child replaced notSkipped found otherFound
  · cases found
    cases otherFound
    exact itself _ (by decide)
  · cases found
    cases otherFound
    exact arguments
  · cases found
    cases otherFound
    exact itself _ (by decide)
  · cases found

/-- An unknown name is quoted with the operand that was put in place of a skipped one. -/
theorem quotes_skipped_operand :
    Skips unknownNames {} ScopeTree.globalContext ⟨6⟩ 1 ∧
    ReplacesSkipped unknownNames {} unknownNames False ScopeTree.globalContext ⟨8⟩ ⟨11⟩ ∧
    evaluate unknownNames {} ScopeTree.globalContext ⟨8⟩ =
      .error (.unknownSymbol "u::A<0 && x>::value" {}) ∧
    evaluate unknownNames {} ScopeTree.globalContext ⟨11⟩ =
      .error (.unknownSymbol "u::A<0 && y>::value" {}) ∧
    evaluate unknownNames {} ScopeTree.globalContext ⟨11⟩ ≠
      evaluate unknownNames {} ScopeTree.globalContext ⟨8⟩ := by
  have first : evaluate unknownNames {} ScopeTree.globalContext ⟨8⟩ =
      .error (.unknownSymbol "u::A<0 && x>::value" {}) := by
    rw [evaluate, eval_eq_evalStep]
    cbv
  have second : evaluate unknownNames {} ScopeTree.globalContext ⟨11⟩ =
      .error (.unknownSymbol "u::A<0 && y>::value" {}) := by
    rw [evaluate, eval_eq_evalStep]
    cbv
  refine ⟨.afterZero rfl rfl zero_among_unknownNames rfl, unknownNames_replaced, first, second, ?_⟩
  rw [first, second]
  simp

end Sample

end CppTemplates
