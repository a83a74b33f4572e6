import CppTemplates.Proofs.Evaluation.Stability
import CppTemplates.Proofs.Program.Seclusion

/-!
# Opening classes gives expressions no values

An expression that has a value in a program whose classes have been opened out of sight had it
before.  A path through an opened class comes to class names only, so the constants that the
expression names are the old ones.  Together with the survival of values under growth, an expression
has a value exactly if it had that value before.
-/

namespace CppTemplates

namespace Program

variable {before after : Program} {tree later : SyntaxTree} {context : DeclContext}
variable {first : SymbolId} {rest : List SymbolId}

namespace Secludes

theorem namesUnopened_of_resolvePath (secludes : before.Secludes after) {scope : ScopeId}
    (opened : OpenedSince before after scope) {components : List NodeId} {found : List SymbolId}
    (resolves : after.resolvePath tree context (some scope) components = .ok found) :
    ∀ symbol ∈ found, NamesUnopened before after symbol := by
  rw [resolvePath_eq_ok_iff] at resolves
  generalize isScope : some scope = qualifier at resolves
  -- Whatever is found on the way is a class name, so it leads into an opened class again.
  induction resolves generalizing scope with
  | @last _ _ name named =>
      subst isScope
      exact secludes.listed scope opened name
  | undeclared named notLast missing => exact fun symbol member => absurd member List.not_mem_nil
  | @enters _ _ name _ candidate others _ _ named declared opens _ ih =>
      subst isScope
      have declared : after.scopes.lookupLocal scope name = candidate :: others := declared
      have names := secludes.listed scope opened name candidate (declared ▸ List.mem_cons_self)
      exact ih (names.openedSince secludes.toKeepsEntities opens) rfl

theorem candidates_eq (secludes : before.Secludes after) (hosted : before.scopes.Hosts context)
    {qualifier : Option ScopeId}
    (inProgram : ∀ scope, qualifier = some scope → scope.index < before.scopes.scopes.size)
    (name : String) :
    after.candidates context qualifier name = before.candidates context qualifier name := by
  cases qualifier with
  | some scope =>
      simp only [candidates, ScopeTree.lookupLocal,
        secludes.scopes.scope scope (inProgram scope rfl)]
  | none => exact secludes.scopes.lookup_eq_of_lt hosted.currentScope name

variable (secludes : before.Secludes after) (closed : before.IsClosed tree)
variable (grows : tree.Extends later) (hosted : before.scopes.Hosts context)
include secludes closed grows hosted

/-- Where a path leads now, it led before, unless it has come to a class name. -/
theorem resolvePath_cases {qualifier : Option ScopeId}
    (inProgram : ∀ scope, qualifier = some scope → scope.index < before.scopes.scopes.size)
    {components : List NodeId} (inTree : ∀ component ∈ components, component.index < tree.size)
    (resolves : after.resolvePath later context qualifier components = .ok (first :: rest)) :
    before.resolvePath tree context qualifier components = .ok (first :: rest) ∨
      NamesUnopened before after first := by
  rw [resolvePath_eq_ok_iff] at resolves ⊢
  generalize isFound : first :: rest = found at resolves ⊢
  induction resolves with
  | last named =>
      rw [grows.componentName_eq_of_lt (inTree _ List.mem_cons_self)] at named
      rw [secludes.candidates_eq hosted inProgram]
      exact .inl (.last named)
  | undeclared named notLast missing => cases isFound
  | @enters _ _ _ _ _ _ _ entered named declared opens resolves ih =>
      rw [grows.componentName_eq_of_lt (inTree _ List.mem_cons_self)] at named
      rw [secludes.candidates_eq hosted inProgram] at declared
      have bound := closed.index_lt_of_candidates declared
      -- Once the path has come into an opened class, it cannot leave again.
      rcases secludes.openedScope?_cases closed bound opens with opened | openedSince
      · have inside (scope : ScopeId) (isScope : some entered = some scope) :
            scope.index < before.scopes.scopes.size := by
          cases isScope
          exact closed.index_lt_of_openedScope? opened
        have inRest := fun other member => inTree other (List.mem_cons_of_mem _ member)
        exact (ih inside inRest isFound).imp_left (.enters named declared opened)
      · exact .inr (secludes.namesUnopened_of_resolvePath openedSince
          (resolvePath_eq_ok_iff.mpr resolves) first (isFound ▸ List.mem_cons_self))

theorem queryIdExpression_cases {id : NodeId} (bound : id.index < tree.size)
    (answers : after.queryIdExpression later context id = .ok (first :: rest)) :
    before.queryIdExpression tree context id = .ok (first :: rest) ∨
      NamesUnopened before after first := by
  have noQualifier : ∀ scope, (none : Option ScopeId) = some scope →
      scope.index < before.scopes.scopes.size := by
    intro scope impossible
    cases impossible
  have inTree : ∀ component ∈ (tree.node id).children, component.index < tree.size :=
    fun component member => Nat.lt_trans (SyntaxTree.lt_of_mem_children member) bound
  unfold queryIdExpression at answers ⊢
  rw [grows.node_eq id bound] at answers
  split at answers
  · left
    rw [grows.componentName_eq_of_lt bound] at answers
    cases atName : tree.componentName id with
    | error cause =>
        rw [atName] at answers
        cases answers
    | ok name =>
        simp only [atName, bind, Except.bind, pure, Except.pure,
          secludes.candidates_eq hosted noQualifier] at answers
        exact answers
  · unfold resolveQualified at answers ⊢
    generalize (tree.node id).children = components at inTree answers
    cases components with
    | nil => cases answers
    | cons head others =>
        simp only [grows.node_eq head (inTree head List.mem_cons_self)] at answers ⊢
        split at answers
        · refine secludes.resolvePath_cases closed grows hosted ?_
            (fun component member => inTree component (List.mem_cons_of_mem head member)) answers
          rintro _ ⟨⟩
          exact hosted.globalScope
        · exact secludes.resolvePath_cases closed grows hosted noQualifier inTree answers
  · cases answers

theorem namedConstant_eq {id expression : NodeId} {symbol : SymbolId}
    (bound : id.index < tree.size)
    (found : after.namedConstant later context id = .ok (symbol, expression)) :
    before.namedConstant tree context id = .ok (symbol, expression) ∧
      (after.entry symbol).declContext = (before.entry symbol).declContext := by
  obtain ⟨⟨rest, answers⟩, isConstant, hasValue⟩ := namedConstant_eq_ok.mp found
  rcases secludes.queryIdExpression_cases closed grows hosted bound answers with
    answered | ⟨ofKind, -⟩
  · obtain ⟨defined, _, same⟩ := secludes.entry symbol (closed.index_lt_of_query answered)
    rw [same] at isConstant hasValue
    exact ⟨namedConstant_eq_ok.mpr ⟨⟨rest, answered⟩, isConstant, hasValue⟩, by rw [same]⟩
  · simp [SymbolEntry.isConstantCandidate, ofKind] at isConstant

end Secludes

end Program

/-- A node that has a value after classes have been opened out of sight had it before. -/
theorem eval_eq_ok_of_secludes {tree later : SyntaxTree} {before after : Program}
    (secludes : before.Secludes after) (closed : before.IsClosed tree)
    (grows : tree.Extends later) {context : DeclContext} (hosted : before.scopes.Hosts context)
    {busy : List SymbolId} {id : NodeId} (bound : id.index < tree.size) {value : Value}
    (evaluates : eval later after context busy id = .ok value) :
    eval tree before context busy id = .ok value := by
  induction context, busy, id using eval_induction tree before generalizing value with
  | step context busy id children constant =>
      rw [eval_eq_evalStep, grows.node_eq id bound] at evaluates
      rw [eval_eq_evalStep]
      -- A value comes from values of children or of a constant, and these were there before.
      refine keepingValues.related_evalStep (tree.node id) ?_ ?_ value evaluates
      · intro index value evaluates
        rw [grows.child?_eq_of_lt bound] at evaluates
        cases atChild : tree.child? id index with
        | none =>
            rw [atChild] at evaluates
            cases evaluates
        | some child =>
            rw [atChild] at evaluates
            have older := SyntaxTree.lt_of_child?_eq_some atChild
            exact children index child atChild hosted (Nat.lt_trans older bound) evaluates
      · intro value evaluates
        cases atName : after.namedConstant later context id with
        | error cause =>
            rw [atName] at evaluates
            cases evaluates
        | ok found =>
            obtain ⟨symbol, expression⟩ := found
            obtain ⟨named, sameContext⟩ :=
              secludes.namedConstant_eq closed grows hosted bound atName
            simp only [atName, sameContext] at evaluates
            simp only [named]
            by_cases isBusy : symbol ∈ busy
            · simp [isBusy] at evaluates
            · simp only [isBusy, if_false] at evaluates ⊢
              have symbolBound := Program.index_lt_of_namedConstant named
              have hasValue := Program.value_of_namedConstant named
              exact constant symbol expression named isBusy
                (closed.declContext symbol symbolBound)
                (closed.value symbol expression hasValue) evaluates

/-- An expression has a value exactly if it had that value before classes were opened out of
sight. -/
theorem evaluate_eq_ok_iff_of_secludes {tree later : SyntaxTree} {before after : Program}
    (secludes : before.Secludes after) (closed : before.IsClosed tree)
    (grows : tree.Extends later) {context : DeclContext} (hosted : before.scopes.Hosts context)
    {id : NodeId} (bound : id.index < tree.size) {value : Value} :
    evaluate later after context id = .ok value ↔ evaluate tree before context id = .ok value :=
  ⟨eval_eq_ok_of_secludes secludes closed grows hosted bound,
    evaluate_eq_ok_of_preserves grows secludes.toPreserves⟩

end CppTemplates
