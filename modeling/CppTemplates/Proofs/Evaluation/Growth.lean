import CppTemplates.Proofs.Evaluation.Step
import CppTemplates.Proofs.Program.Growth
import CppTemplates.Proofs.Tree.Extension

/-!
# Values survive growth

A node that has a value keeps it when the tree gets more nodes and the program more entities.
Errors need not survive: a name that was unknown may have been declared since.
-/

namespace CppTemplates

namespace SyntaxTree.Extends

variable {tree later : SyntaxTree}

theorem componentName_eq (grows : tree.Extends later) {id : NodeId} {name : String}
    (found : tree.componentName id = .ok name) : later.componentName id = .ok name := by
  have bound : id.index < tree.size := by
    apply index_lt_of_node_ne_default
    intro isDefault
    rw [componentName, isDefault] at found
    cases found
  unfold componentName at found ⊢
  rw [grows.node_eq id bound]
  exact found

theorem child?_eq (grows : tree.Extends later) {id child : NodeId} {index : Nat}
    (found : tree.child? id index = some child) : later.child? id index = some child := by
  rw [child?, grows.node_eq id (lt_size_of_child?_eq_some found)]
  exact found

theorem display_eq (grows : tree.Extends later) {id : NodeId} (bound : id.index < tree.size) :
    later.display id = tree.display id := by
  rw [display_eq_layout, display_eq_layout, grows.node_eq id bound]
  congr 1
  apply List.map_congr_left
  intro child member
  have older := lt_of_mem_children member
  have childBound := Nat.lt_trans older bound
  rw [grows.node_eq child childBound, grows.display_eq childBound]
termination_by id.index

end SyntaxTree.Extends

namespace Program

variable {tree later : SyntaxTree} {program : Program}

/-- A path that leads somewhere leads there in a greater tree. -/
theorem resolvePath_extends (grows : tree.Extends later) {context : DeclContext}
    {qualifier : Option ScopeId} {components : List NodeId} {found : List SymbolId}
    (resolves : program.resolvePath tree context qualifier components = .ok found) :
    program.resolvePath later context qualifier components = .ok found := by
  rw [resolvePath_eq_ok_iff] at resolves ⊢
  induction resolves with
  | last named => exact .last (grows.componentName_eq named)
  | undeclared named notLast missing =>
      exact .undeclared (grows.componentName_eq named) notLast missing
  | enters named declared opens _ ih =>
      exact .enters (grows.componentName_eq named) declared opens ih

theorem queryIdExpression_extends (grows : tree.Extends later) {context : DeclContext}
    {id : NodeId} {found : List SymbolId}
    (resolves : program.queryIdExpression tree context id = .ok found) :
    program.queryIdExpression later context id = .ok found := by
  have bound : id.index < tree.size := by
    apply SyntaxTree.index_lt_of_node_ne_default
    intro isDefault
    rw [queryIdExpression, isDefault] at resolves
    cases resolves
  unfold queryIdExpression at resolves ⊢
  rw [grows.node_eq id bound]
  split at resolves
  · cases atName : tree.componentName id with
    | error cause => simp [atName, bind, Except.bind] at resolves
    | ok name =>
        rw [atName] at resolves
        rw [grows.componentName_eq atName]
        exact resolves
  · unfold resolveQualified at resolves ⊢
    cases atChildren : (tree.node id).children with
    | nil =>
        rw [atChildren] at resolves
        exact resolvePath_extends grows resolves
    | cons first rest =>
        have member : first ∈ (tree.node id).children := by simp [atChildren]
        have firstBound : first.index < tree.size :=
          Nat.lt_trans (SyntaxTree.lt_of_mem_children member) bound
        simp only [atChildren] at resolves
        simp only [grows.node_eq first firstBound]
        split at resolves
        · exact resolvePath_extends grows resolves
        · exact resolvePath_extends grows resolves
  · cases resolves

theorem namedConstant_eq_ok {context : DeclContext} {id expression : NodeId} {symbol : SymbolId} :
    program.namedConstant tree context id = .ok (symbol, expression) ↔
      (∃ rest, program.queryIdExpression tree context id = .ok (symbol :: rest)) ∧
        (program.entry symbol).isConstantCandidate = true ∧
        (program.entry symbol).value = some expression := by
  unfold namedConstant
  cases program.queryIdExpression tree context id with
  | error cause => simp
  | ok found =>
      cases found with
      | nil => simp
      | cons candidate rest =>
          by_cases isConstant : (program.entry candidate).isConstantCandidate = true
          · cases hasValue : (program.entry candidate).value with
            | none =>
                simp only [isConstant, if_true, hasValue]
                constructor
                · intro impossible
                  cases impossible
                · rintro ⟨⟨_, same⟩, _, typed⟩
                  cases same
                  rw [hasValue] at typed
                  cases typed
            | some stored =>
                simp only [isConstant, if_true, hasValue]
                constructor
                · intro same
                  cases same
                  exact ⟨⟨rest, rfl⟩, isConstant, hasValue⟩
                · rintro ⟨⟨_, same⟩, _, typed⟩
                  cases same
                  rw [hasValue] at typed
                  cases typed
                  rfl
          · simp only [isConstant]
            constructor
            · intro impossible
              cases impossible
            · rintro ⟨⟨_, same⟩, isConstant', _⟩
              cases same
              exact absurd isConstant' isConstant

theorem Preserves.namedConstant_eq {before after : Program} (preserves : before.Preserves after)
    (grows : tree.Extends later) {context : DeclContext} {id expression : NodeId}
    {symbol : SymbolId}
    (found : before.namedConstant tree context id = .ok (symbol, expression)) :
    after.namedConstant later context id = .ok (symbol, expression) ∧
      (after.entry symbol).declContext = (before.entry symbol).declContext := by
  obtain ⟨defined, _, same⟩ := preserves.entry symbol (index_lt_of_namedConstant found)
  obtain ⟨⟨rest, resolves⟩, isConstant, hasValue⟩ := namedConstant_eq_ok.mp found
  refine ⟨namedConstant_eq_ok.mpr ⟨⟨rest, ?_⟩, ?_, ?_⟩, by rw [same]⟩
  · exact queryIdExpression_extends grows (preserves.queryIdExpression_eq resolves)
  · rw [same]
    exact isConstant
  · rw [same]
    exact hasValue

end Program

/-- Where the first computation gives a value, the second gives the same. -/
def keepingValues : OutcomeRelation (Except EvaluationError) (Except EvaluationError) where
  Related first second := ∀ value, first = .ok value → second = .ok value
  related_pure _ _ finished := finished
  related_throw cause _ _ impossible := by cases impossible
  related_bind {first second firstNext secondNext} related next value finished := by
    cases atFirst : first with
    | error cause =>
        rw [atFirst] at finished
        cases finished
    | ok middle =>
        rw [atFirst] at finished
        rw [related middle atFirst]
        exact next middle value finished

/-- A node that has a value has the same value after growth. -/
theorem eval_eq_ok_of_preserves {tree later : SyntaxTree} {before after : Program}
    (grows : tree.Extends later) (preserves : before.Preserves after) {context : DeclContext}
    {busy : List SymbolId} {id : NodeId} {value : Value}
    (evaluates : eval tree before context busy id = .ok value) :
    eval later after context busy id = .ok value := by
  revert evaluates
  refine eval_induction tree before
    (motive := fun context busy id => ∀ value, eval tree before context busy id = .ok value →
      eval later after context busy id = .ok value) ?_ context busy id value
  clear value
  intro context busy id children constant value evaluates
  have bound : id.index < tree.size := by
    apply SyntaxTree.index_lt_of_node_ne_default
    intro isDefault
    rw [eval_eq_evalStep, isDefault] at evaluates
    simp only [SyntaxTree.child?, isDefault] at evaluates
    cases evaluates
  rw [eval_eq_evalStep, grows.node_eq id bound]
  rw [eval_eq_evalStep] at evaluates
  refine keepingValues.related_evalStep (tree.node id) ?_ ?_ value evaluates
  · intro index value evaluates
    cases atChild : tree.child? id index with
    | none => simp [atChild] at evaluates
    | some child =>
        simp only [atChild] at evaluates
        simp only [grows.child?_eq atChild]
        exact children index child atChild value evaluates
  · intro value evaluates
    cases atName : before.namedConstant tree context id with
    | error cause => simp [atName] at evaluates
    | ok found =>
        obtain ⟨symbol, expression⟩ := found
        obtain ⟨sameConstant, sameContext⟩ := preserves.namedConstant_eq grows atName
        simp only [atName] at evaluates
        simp only [sameConstant, sameContext]
        by_cases isBusy : symbol ∈ busy
        · simp [isBusy] at evaluates
        · simp only [isBusy, if_false] at evaluates ⊢
          exact constant symbol expression atName isBusy value evaluates

theorem evaluate_eq_ok_of_preserves {tree later : SyntaxTree} {before after : Program}
    (grows : tree.Extends later) (preserves : before.Preserves after) {context : DeclContext}
    {id : NodeId} {value : Value} (evaluates : evaluate tree before context id = .ok value) :
    evaluate later after context id = .ok value :=
  eval_eq_ok_of_preserves grows preserves evaluates

end CppTemplates
