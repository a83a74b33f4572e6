import CppTemplates.Program.Lookup

/-!
# What lookup finds

However a name is looked up, the candidates that are found are the ones that some scope declares
for some name.
-/

namespace CppTemplates

namespace ScopeTree

theorem lookup_of_local {tree : ScopeTree} {scope : ScopeId} {name : String}
    (found : tree.lookupLocal scope name ≠ []) :
    tree.lookup scope name = tree.lookupLocal scope name := by
  rw [lookup]
  cases atLocal : tree.lookupLocal scope name with
  | nil => exact absurd atLocal found
  | cons first rest => rfl

theorem lookup_of_parent {tree : ScopeTree} {scope parent : ScopeId} {name : String}
    (missing : tree.lookupLocal scope name = [])
    (enclosed : (tree.scope scope).parent = some parent) (order : parent.index < scope.index) :
    tree.lookup scope name = tree.lookup parent name := by
  rw [lookup]
  simp only [missing, enclosed, order, if_true]

/-- What lookup finds, one scope declares. -/
theorem exists_lookupLocal_eq {tree : ScopeTree} (scope : ScopeId) {name : String}
    (found : tree.lookup scope name ≠ []) :
    ∃ outer, tree.lookupLocal outer name = tree.lookup scope name := by
  rw [lookup] at found ⊢
  cases atLocal : tree.lookupLocal scope name with
  | cons first rest => exact ⟨scope, atLocal⟩
  | nil =>
      simp only [atLocal] at found ⊢
      cases atParent : (tree.scope scope).parent with
      | none => simp [atParent] at found
      | some parent =>
          simp only [atParent] at found ⊢
          by_cases older : parent.index < scope.index
          · simp only [older, if_true] at found ⊢
            exact exists_lookupLocal_eq parent found
          · simp [older] at found
termination_by scope.index

end ScopeTree

namespace Program

variable {program : Program} {tree : SyntaxTree} {context : DeclContext} {found : List SymbolId}

theorem exists_lookupLocal_eq_candidates {qualifier : Option ScopeId} {name : String}
    (isFound : program.candidates context qualifier name ≠ []) :
    ∃ scope, program.scopes.lookupLocal scope name = program.candidates context qualifier name :=
  match qualifier with
  | some scope => ⟨scope, rfl⟩
  | none => ScopeTree.exists_lookupLocal_eq context.currentScope isFound

theorem resolvePath_of_error {qualifier : Option ScopeId} {component : NodeId} {cause : LookupError}
    (failed : tree.componentName component = .error cause) (rest : List NodeId) :
    program.resolvePath tree context qualifier (component :: rest) = .error cause := by
  cases rest <;> simp [resolvePath, failed, bind, Except.bind]

theorem resolvePath_last {qualifier : Option ScopeId} {component : NodeId} {name : String}
    (named : tree.componentName component = .ok name) :
    program.resolvePath tree context qualifier [component] =
      .ok (program.candidates context qualifier name) := by
  simp [resolvePath, named, bind, Except.bind, pure, Except.pure]

/-- A component with others behind it must have a candidate that opens a scope for them. -/
theorem resolvePath_of_ok {qualifier : Option ScopeId} {component : NodeId} {name : String}
    (named : tree.componentName component = .ok name) {rest : List NodeId} (notLast : rest ≠ []) :
    program.resolvePath tree context qualifier (component :: rest) =
      match program.candidates context qualifier name with
      | [] => .ok []
      | found :: _ =>
          match program.openedScope? found with
          | some scope => program.resolvePath tree context (some scope) rest
          | none => .error (.notAScope name) := by
  cases rest with
  | nil => exact absurd rfl notLast
  | cons next rest =>
      simp only [resolvePath, named]
      rfl

/-- The ways to resolve a path.  The last component stands for its candidates.  One before it has no
candidates, and so the path has none, or its first candidate opens the scope of the next one. -/
inductive Resolves (program : Program) (tree : SyntaxTree) (context : DeclContext) :
    Option ScopeId → List NodeId → List SymbolId → Prop
  | last {qualifier : Option ScopeId} {component : NodeId} {name : String}
      (named : tree.componentName component = .ok name) :
      Resolves program tree context qualifier [component]
        (program.candidates context qualifier name)
  | undeclared {qualifier : Option ScopeId} {component : NodeId} {name : String}
      {rest : List NodeId} (named : tree.componentName component = .ok name) (notLast : rest ≠ [])
      (missing : program.candidates context qualifier name = []) :
      Resolves program tree context qualifier (component :: rest) []
  | enters {qualifier : Option ScopeId} {component : NodeId} {name : String} {rest : List NodeId}
      {first : SymbolId} {others found : List SymbolId} {scope : ScopeId}
      (named : tree.componentName component = .ok name)
      (declared : program.candidates context qualifier name = first :: others)
      (opens : program.openedScope? first = some scope)
      (resolves : Resolves program tree context (some scope) rest found) :
      Resolves program tree context qualifier (component :: rest) found

theorem Resolves.ne_nil {qualifier : Option ScopeId} {components : List NodeId}
    (resolves : program.Resolves tree context qualifier components found) : components ≠ [] := by
  cases resolves <;> exact List.cons_ne_nil _ _

theorem resolvePath_eq_ok_iff {qualifier : Option ScopeId} {components : List NodeId} :
    program.resolvePath tree context qualifier components = .ok found ↔
      program.Resolves tree context qualifier components found := by
  constructor
  · intro resolves
    induction components generalizing qualifier with
    | nil => cases resolves
    | cons component rest ih =>
        cases named : tree.componentName component with
        | error cause =>
            rw [resolvePath_of_error named] at resolves
            cases resolves
        | ok name =>
            by_cases isLast : rest = []
            · subst isLast
              rw [resolvePath_last named] at resolves
              cases resolves
              exact .last named
            · rw [resolvePath_of_ok named isLast] at resolves
              split at resolves
              case h_1 missing =>
                cases resolves
                exact .undeclared named isLast missing
              case h_2 declared =>
                split at resolves
                case h_1 opens => exact .enters named declared opens (ih resolves)
                case h_2 => cases resolves
  · intro resolves
    induction resolves with
    | last named => exact resolvePath_last named
    | undeclared named notLast missing => rw [resolvePath_of_ok named notLast, missing]
    | enters named declared opens resolves ih =>
        rw [resolvePath_of_ok named resolves.ne_nil, declared]
        simp only [opens]
        exact ih

theorem exists_lookupLocal_eq_of_resolvePath {qualifier : Option ScopeId}
    {components : List NodeId}
    (resolves : program.resolvePath tree context qualifier components = .ok found)
    (isFound : found ≠ []) : ∃ scope name, program.scopes.lookupLocal scope name = found := by
  induction resolvePath_eq_ok_iff.mp resolves with
  | @last _ _ name named =>
      obtain ⟨scope, declares⟩ := exists_lookupLocal_eq_candidates isFound
      exact ⟨scope, name, declares⟩
  | undeclared named notLast missing => exact absurd rfl isFound
  | enters named declared opens rest ih => exact ih (resolvePath_eq_ok_iff.mpr rest) isFound

theorem exists_lookupLocal_eq_of_query {id : NodeId}
    (answers : program.queryIdExpression tree context id = .ok found) (isFound : found ≠ []) :
    ∃ scope name, program.scopes.lookupLocal scope name = found := by
  unfold queryIdExpression at answers
  split at answers
  · cases atName : tree.componentName id with
    | error cause => simp [atName, bind, Except.bind] at answers
    | ok name =>
        simp only [atName, bind, Except.bind, pure, Except.pure, Except.ok.injEq] at answers
        subst answers
        obtain ⟨scope, declares⟩ := exists_lookupLocal_eq_candidates isFound
        exact ⟨scope, name, declares⟩
  · unfold resolveQualified at answers
    split at answers
    · cases answers
    · split at answers <;> exact exists_lookupLocal_eq_of_resolvePath answers isFound
  · cases answers

end Program

end CppTemplates
