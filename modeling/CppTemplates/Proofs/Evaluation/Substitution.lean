import CppTemplates.Proofs.Evaluation.Reification
import CppTemplates.Proofs.Program.NameSpelling
import CppTemplates.Proofs.Tree.FreshCopies

/-!
# Literals in place of names

An identifier that stands for a constant can be replaced by the literal of the constant's value.  An
expression in which identifiers are replaced so, wherever they are no components of a qualified id,
has the same value, or the same error.

The two outcomes are the same but for one case.  A qualified id that nothing declares is reported as
it is written, and what is written there may contain a name that was replaced, as in
`unknown::Class<N>::member`.
-/

namespace CppTemplates

/-- The value to write in place of a node: that of the name that an identifier spells, unless the
identifier is a component of a qualified id. -/
def Node.replacement? (values : String → Option Value) (isComponent : Bool) (node : Node) :
    Option Value :=
  if node.kind = .symbol ∧ node.children = [] ∧ isComponent = false then
    node.text.bind values
  else
    none

theorem Node.replacement?_eq_some {values : String → Option Value} {isComponent : Bool}
    {node : Node} {value : Value} (replaced : node.replacement? values isComponent = some value) :
    node.kind = .symbol ∧ isComponent = false ∧
      ∃ name, node.text = some name ∧ values name = some value := by
  unfold replacement? at replaced
  split at replaced
  case isFalse => cases replaced
  case isTrue isIdentifier =>
    obtain ⟨name, text, hasValue⟩ := Option.bind_eq_some_iff.mp replaced
    exact ⟨isIdentifier.1, isIdentifier.2.2, name, text, hasValue⟩

namespace SyntaxTree

/-- Appends the subtree of `source` at `id` with literals in place of the identifiers that have a
value.  Every other node keeps its kind, text and span. -/
def appendSubstitute (values : String → Option Value) (source : SyntaxTree) (isComponent : Bool)
    (id : NodeId) : StateM SyntaxTree NodeId :=
  match (source.node id).replacement? values isComponent with
  | some value => modifyGet (·.addLiteral value)
  | none => do
      let children ← (source.node id).children.attach.mapM fun ⟨child, _⟩ =>
        appendSubstitute values source ((source.node id).kind == .qualifiedId) child
      modifyGet (·.add { source.node id with children })
termination_by id.index
decreasing_by exact lt_of_mem_children ‹_›

/-- Adds an expression with literals in place of the names that have a value. -/
def substitute (tree : SyntaxTree) (values : String → Option Value) (id : NodeId) :
    NodeId × SyntaxTree :=
  (appendSubstitute values tree false id).run tree

/-- A node with literals in place of the identifiers that have a value. -/
inductive IsSubstitute (tree : SyntaxTree) (values : String → Option Value) :
    Bool → NodeId → NodeId → Prop
  | literal {isComponent : Bool} {id copy : NodeId} {value : Value}
      (replaced : (tree.node id).replacement? values isComponent = some value)
      (spelt : tree.node copy = value.literalLeaf) : IsSubstitute tree values isComponent id copy
  | node {isComponent : Bool} {id copy : NodeId} {copies : List NodeId}
      (atCopy : tree.node copy = { tree.node id with children := copies })
      (arity : copies.length = (tree.node id).children.length)
      (children : ∀ (index : Nat) (child childCopy : NodeId),
        (tree.node id).children[index]? = some child → copies[index]? = some childCopy →
          IsSubstitute tree values ((tree.node id).kind == .qualifiedId) child childCopy) :
      IsSubstitute tree values isComponent id copy

/-- A node that is a substitute and remains one while the tree grows. -/
def RemainsSubstitute (values : String → Option Value) (isComponent : Bool) (tree : SyntaxTree)
    (id copy : NodeId) : Prop :=
  copy.index < tree.size ∧
    ∀ later, tree.Extends later → later.IsSubstitute values isComponent id copy

variable {values : String → Option Value} {source current : SyntaxTree} {isComponent : Bool}

theorem RemainsSubstitute.later {tree later : SyntaxTree} {id copy : NodeId}
    (remains : RemainsSubstitute values isComponent tree id copy) (grows : tree.Extends later) :
    RemainsSubstitute values isComponent later id copy :=
  ⟨Nat.lt_of_lt_of_le remains.1 grows.size_le, fun last more => remains.2 last (grows.trans more)⟩

theorem remainsSubstitute_addLiteral {id : NodeId} {value : Value}
    (replaced : (source.node id).replacement? values isComponent = some value)
    (inTree : id.index < source.size) (grows : source.Extends current) :
    RemainsSubstitute values isComponent (current.addLiteral value).2 id
      (current.addLiteral value).1 := by
  have added : current.Extends (current.addLiteral value).2 := extends_push _ _
  have copyInTree : (current.addLiteral value).1.index < (current.addLiteral value).2.size := by
    simp [addLiteral, add]
  refine ⟨copyInTree, fun later more => ?_⟩
  have atId : later.node id = source.node id := ((grows.trans added).trans more).node_eq id inTree
  refine .literal (by rw [atId]; exact replaced) ?_
  rw [more.node_eq _ copyInTree]
  exact current.node_addLiteral value

theorem remainsSubstitute_add {id : NodeId} (inTree : id.index < source.size)
    (grows : source.Extends current) {copies : List NodeId}
    (children : List.Forall₂
      (RemainsSubstitute values ((source.node id).kind == .qualifiedId) current)
      (source.node id).children copies) :
    RemainsSubstitute values isComponent
      (current.add { source.node id with children := copies }).2 id
      (current.add { source.node id with children := copies }).1 := by
  refine ⟨by simp [add], fun later more => ?_⟩
  have copiesInTree : ∀ copy ∈ copies, copy.index < current.size := by
    intro copy member
    obtain ⟨index, isAt⟩ := List.getElem?_of_mem member
    rcases getElem?_of_forall₂ children index with ⟨_, missing⟩ | ⟨_, found, _, foundAt, remains⟩
    · cases isAt.symm.trans missing
    · cases isAt.symm.trans foundAt
      exact remains.1
  have grown : current.Extends later := (extends_push _ _).trans more
  have atId : later.node id = source.node id := (grows.trans grown).node_eq id inTree
  have atCopy : later.node ⟨current.size⟩ = { later.node id with children := copies } := by
    rw [atId, more.node_eq ⟨current.size⟩ (by simp [add])]
    exact node_push_self _ copiesInTree
  refine .node atCopy ?_ ?_
  · rw [atId]
    exact children.length_eq.symm
  · intro index child childCopy isChild isCopy
    rw [atId] at isChild ⊢
    rcases getElem?_of_forall₂ children index with ⟨missing, _⟩ | ⟨_, _, childAt, copyAt, remains⟩
    · cases isChild.symm.trans missing
    · cases isChild.symm.trans childAt
      cases isCopy.symm.trans copyAt
      exact remains.2 later grown

/-- What is appended for a node is its substitute. -/
theorem remainsSubstitute_appendSubstitute (values : String → Option Value) (isComponent : Bool)
    (id : NodeId) (inTree : id.index < source.size) {current : SyntaxTree}
    (grows : source.Extends current) :
    current.Extends ((appendSubstitute values source isComponent id).run current).2 ∧
      RemainsSubstitute values isComponent
        ((appendSubstitute values source isComponent id).run current).2 id
        ((appendSubstitute values source isComponent id).run current).1 := by
  rw [appendSubstitute.eq_def]
  cases replaced : (source.node id).replacement? values isComponent with
  | some value => exact ⟨extends_push _ _, remainsSubstitute_addLiteral replaced inTree grows⟩
  | none =>
      have lasts ⦃tree later : SyntaxTree⦄
          ⦃child : { child // child ∈ (source.node id).children }⦄ ⦃copy : NodeId⦄
          (more : tree.Extends later)
          (remains : RemainsSubstitute values ((source.node id).kind == .qualifiedId) tree child.1
            copy) :
          RemainsSubstitute values ((source.node id).kind == .qualifiedId) later child.1 copy :=
        remains.later more
      obtain ⟨childrenGrow, remain⟩ := forall₂_mapM lasts (source.node id).children.attach
        (fun child =>
          appendSubstitute values source ((source.node id).kind == .qualifiedId) child.1)
        (fun child _ current grows => remainsSubstitute_appendSubstitute values _ child.1
          (Nat.lt_trans (lt_of_mem_children child.2) inTree) grows) grows
      have children := List.forall₂_map_left_iff.mpr remain
      rw [List.attach_map_subtype_val] at children
      have added : RemainsSubstitute values isComponent _ id _ :=
        remainsSubstitute_add inTree (grows.trans childrenGrow) children
      exact ⟨childrenGrow.trans (extends_push _ _), added⟩
termination_by id.index
decreasing_by exact lt_of_mem_children child.2

theorem isSubstitute_substitute (values : String → Option Value) {tree : SyntaxTree} {id : NodeId}
    (inTree : id.index < tree.size) :
    tree.Extends (tree.substitute values id).2 ∧
      (tree.substitute values id).2.IsSubstitute values false id (tree.substitute values id).1 := by
  obtain ⟨grown, remains⟩ :=
    remainsSubstitute_appendSubstitute values false id inTree (.refl tree)
  exact ⟨grown, remains.2 _ (.refl _)⟩

namespace IsSubstitute

variable {tree : SyntaxTree} {id copy : NodeId}

/-- A component of a qualified id stays what it is. -/
theorem sameComponent (isSubstitute : tree.IsSubstitute values true id copy) :
    SameComponent tree tree id copy := by
  cases isSubstitute with
  | literal replaced spelt => cases (Node.replacement?_eq_some replaced).2.1
  | node atCopy arity children => exact ⟨by rw [atCopy], by rw [atCopy]⟩

/-- A substitute is the literal of a value, or the same node over substitutes of the children. -/
theorem literal_or_rebuilt (isSubstitute : tree.IsSubstitute values isComponent id copy) :
    (∃ value, (tree.node id).replacement? values isComponent = some value ∧
      tree.node copy = value.literalLeaf) ∨
    (SameName tree tree id copy ∧ (tree.node copy).span = (tree.node id).span ∧
      ∀ index, Option.Rel (tree.IsSubstitute values ((tree.node id).kind == .qualifiedId))
        (tree.child? id index) (tree.child? copy index)) := by
  cases isSubstitute with
  | literal replaced spelt => exact Or.inl ⟨_, replaced, spelt⟩
  | @node _ _ _ copies atCopy arity children =>
      refine Or.inr ⟨⟨⟨by rw [atCopy], by rw [atCopy]⟩, fun isQualified => ?_⟩, by rw [atCopy],
        fun index => ?_⟩
      · rw [atCopy]
        refine List.forall₂_iff_get.mpr ⟨arity.symm, fun index bound copyBound => ?_⟩
        have component := children index _ _ (List.getElem?_eq_getElem bound)
          (List.getElem?_eq_getElem copyBound)
        rw [isQualified] at component
        exact component.sameComponent
      · simp only [child?, atCopy]
        rcases Nat.lt_or_ge index copies.length with bound | outside
        · have childAt := List.getElem?_eq_getElem (Nat.lt_of_lt_of_eq bound arity)
          have copyAt := List.getElem?_eq_getElem bound
          rw [childAt, copyAt]
          exact .some (children index _ _ childAt copyAt)
        · rw [List.getElem?_eq_none outside, List.getElem?_eq_none (arity ▸ outside)]
          exact .none

end IsSubstitute

end SyntaxTree

/-- Two outcomes that are the same, or report the same unknown qualified id, which stands at the
same place below two nodes, each as it is written there. -/
inductive SameButForSpelling (tree : SyntaxTree) (program : Program) (context : DeclContext)
    (id copy : NodeId) : Except EvaluationError Value → Except EvaluationError Value → Prop
  | same (outcome : Except EvaluationError Value) :
      SameButForSpelling tree program context id copy outcome outcome
  | quotes {path : List Nat} {name nameCopy : NodeId} (leads : tree.follow? id path = some name)
      (leadsToCopy : tree.follow? copy path = some nameCopy)
      (isQualified : (tree.node name).kind = .qualifiedId)
      (unknown : program.queryIdExpression tree context name = .ok []) :
      SameButForSpelling tree program context id copy
        (.error (.unknownSymbol (tree.display name) (tree.node name).span))
        (.error (.unknownSymbol (tree.display nameCopy) (tree.node name).span))

namespace SameButForSpelling

variable {tree : SyntaxTree} {program : Program} {context : DeclContext} {id copy : NodeId}
variable {first second : Except EvaluationError Value}

theorem of_child {child childCopy : NodeId} {index : Nat}
    (found : tree.child? id index = some child)
    (foundCopy : tree.child? copy index = some childCopy)
    (same : SameButForSpelling tree program context child childCopy first second) :
    SameButForSpelling tree program context id copy first second := by
  cases same with
  | same => exact .same _
  | @quotes path name nameCopy leads leadsToCopy isQualified unknown =>
      have leadsBelow : tree.follow? id (index :: path) = some name := by
        rw [SyntaxTree.follow?_cons, found]
        exact leads
      have leadsBelowCopy : tree.follow? copy (index :: path) = some nameCopy := by
        rw [SyntaxTree.follow?_cons, foundCopy]
        exact leadsToCopy
      exact .quotes leadsBelow leadsBelowCopy isQualified unknown

theorem eq_of_display_eq
    (same : SameButForSpelling tree program context id copy first second)
    (spelling : ∀ path name nameCopy, tree.follow? id path = some name →
      tree.follow? copy path = some nameCopy → (tree.node name).kind = .qualifiedId →
        tree.display nameCopy = tree.display name) : second = first := by
  cases same with
  | same => rfl
  | quotes leads leadsToCopy isQualified unknown =>
      rw [spelling _ _ _ leads leadsToCopy isQualified]

end SameButForSpelling

/-- Steps keep outcomes the same but for the spelling of unknown qualified ids. -/
def spellingAlike (tree : SyntaxTree) (program : Program) (context : DeclContext)
    (id copy : NodeId) : OutcomeRelation (Except EvaluationError) (Except EvaluationError) where
  Related := SameButForSpelling tree program context id copy
  related_pure value := .same (.ok value)
  related_throw cause _ := .same (.error cause)
  related_bind := by
    intro first second firstNext secondNext related relatedNext
    cases related with
    | same =>
        cases first with
        | ok value => exact relatedNext value
        | error cause => exact .same (.error cause)
    | quotes leads leadsToCopy isQualified unknown =>
        exact .quotes leads leadsToCopy isQualified unknown

namespace Program

/-- Every name that has a value is found from the context as a constant whose initializer spells
the value. -/
def Spells (program : Program) (tree : SyntaxTree) (context : DeclContext)
    (values : String → Option Value) : Prop :=
  ∀ name value, values name = some value →
    ∃ symbol rest literal, program.candidates context none name = symbol :: rest ∧
      (program.entry symbol).isConstantCandidate = true ∧
      (program.entry symbol).value = some literal ∧ tree.node literal = value.literalLeaf

variable {program : Program} {context : DeclContext} {tree : SyntaxTree} {id copy : NodeId}
variable {values : String → Option Value}

/-- A name is evaluated through the constant that it stands for. -/
theorem evaluate_of_name
    (isName : (tree.node id).kind = .symbol ∨ (tree.node id).kind = .qualifiedId) :
    evaluate tree program context id =
      match program.namedConstant tree context id with
      | .ok (symbol, expression) =>
          eval tree program (program.entry symbol).declContext [symbol] expression
      | .error cause => .error cause := by
  rw [evaluate, eval_eq_evalStep]
  cases program.namedConstant tree context id with
  | error cause => rcases isName with isName | isName <;> simp only [Node.evalStep, isName]
  | ok pair =>
      rcases isName with isName | isName <;>
        simp only [Node.evalStep, isName, List.not_mem_nil, if_false]

section Identifier

variable {name : String} {symbol : SymbolId} {rest : List SymbolId}
variable (isSymbol : (tree.node id).kind = .symbol) (text : (tree.node id).text = some name)
include isSymbol text

theorem queryIdExpression_of_symbol :
    program.queryIdExpression tree context id = .ok (program.candidates context none name) := by
  simp [queryIdExpression, SyntaxTree.componentName, isSymbol, text, bind, Except.bind, pure,
    Except.pure]

variable (found : program.candidates context none name = symbol :: rest)
include found

theorem evaluate_of_initializer (isConstant : (program.entry symbol).isConstantCandidate = true)
    {expression : NodeId} (initialized : (program.entry symbol).value = some expression) :
    evaluate tree program context id =
      eval tree program (program.entry symbol).declContext [symbol] expression := by
  have query : program.queryIdExpression tree context id = .ok (symbol :: rest) := by
    rw [queryIdExpression_of_symbol isSymbol text, found]
  have constant := namedConstant_eq_ok.mpr ⟨⟨rest, query⟩, isConstant, initialized⟩
  rw [evaluate_of_name (.inl isSymbol), constant]

end Identifier

/-- An identifier that spells a name with a value has that value. -/
theorem evaluate_of_spells (spells : program.Spells tree context values)
    (notBackslash : ∀ name value, values name = some value → value ≠ .character 92)
    {name : String} {value : Value} (isSymbol : (tree.node id).kind = .symbol)
    (text : (tree.node id).text = some name) (hasValue : values name = some value) :
    evaluate tree program context id = .ok value := by
  obtain ⟨symbol, rest, literal, found, isConstant, initialized, spelt⟩ :=
    spells name value hasValue
  rw [evaluate_of_initializer isSymbol text found isConstant initialized]
  exact eval_eq_ok_of_literalLeaf spelt (notBackslash name value hasValue) _ _ _

/-- Nodes that count for the same name stand for the same constant, or fail alike, unless they are
qualified ids that nothing declares. -/
theorem namedConstant_eq_or_undeclared (same : SameName tree tree id copy)
    (span : (tree.node copy).span = (tree.node id).span) :
    program.namedConstant tree context copy = program.namedConstant tree context id ∨
      (tree.node id).kind = .qualifiedId ∧
        program.queryIdExpression tree context id = .ok [] := by
  have sameQuery := same.queryIdExpression_eq (.refl program) context
  cases resolves : program.queryIdExpression tree context id with
  | error cause =>
      refine Or.inl ?_
      simp only [namedConstant, sameQuery, resolves]
  | ok answer =>
      rcases same.display_eq_or_undeclared resolves with sameText | ⟨isQualified, rfl⟩
      · refine Or.inl ?_
        simp only [namedConstant, sameQuery, sameText, span]
      · exact Or.inr ⟨isQualified, rfl⟩

/-- Writing the literals of their values for names keeps the outcome of an expression, but for the
spelling of unknown qualified ids. -/
theorem evaluate_substitute (spells : program.Spells tree context values)
    (notBackslash : ∀ name value, values name = some value → value ≠ .character 92)
    {isComponent : Bool} {id copy : NodeId}
    (isSubstitute : tree.IsSubstitute values isComponent id copy) :
    SameButForSpelling tree program context id copy (evaluate tree program context id)
      (evaluate tree program context copy) := by
  rcases isSubstitute.literal_or_rebuilt with ⟨value, replaced, spelt⟩ | ⟨sameName, span, children⟩
  · obtain ⟨isSymbol, -, name, text, hasValue⟩ := Node.replacement?_eq_some replaced
    have ofName := evaluate_of_spells spells notBackslash isSymbol text hasValue
    have ofLiteral : evaluate tree program context copy = .ok value :=
      eval_eq_ok_of_literalLeaf spelt (notBackslash name value hasValue) program context []
    rw [ofName, ofLiteral]
    exact .same _
  obtain ⟨kind, text⟩ := sameName.itself
  rw [evaluate, evaluate, eval_eq_evalStep, eval_eq_evalStep tree program context [] copy,
    Node.evalStep_congr kind text span, kind, span]
  refine (spellingAlike tree program context id copy).related_evalStep (tree.node id)
    (fun index => ?_) ?_
  · have child := children index
    generalize found : tree.child? id index = original, foundCopy : tree.child? copy index = copied
      at child
    cases child with
    | none => exact .same _
    | some child =>
        have older := SyntaxTree.lt_of_child?_eq_some found
        exact .of_child found foundCopy (evaluate_substitute spells notBackslash child)
  · rcases namedConstant_eq_or_undeclared sameName span with sameConstant | ⟨isQualified, unknown⟩
    · cases found : program.namedConstant tree context id with
      | error cause =>
          simp only [sameConstant.trans found]
          exact .same _
      | ok pair =>
          simp only [sameConstant.trans found, List.not_mem_nil, if_false]
          exact .same _
    · have unknownCopy :=
        (sameName.queryIdExpression_eq (.refl program) context).trans unknown
      simp only [namedConstant, unknown, unknownCopy, span]
      have leads : tree.follow? id [] = some id := tree.follow?_nil id
      exact .quotes leads (tree.follow?_nil copy) isQualified unknown
termination_by id.index

end Program

end CppTemplates
