import CppTemplates.Proofs.Program.SymbolTable

/-!
# Candidates in the order of declaration

A declaration adds its symbol behind the candidates that its name has.  So whatever is added to a
program, the candidates that a scope had for a name come first, in the order that they had.
-/

namespace CppTemplates

/-- Every scope lists its candidates as before, perhaps with new ones behind them. -/
structure ScopeTree.Appends (before after : ScopeTree) : Prop where
  size_le : before.scopes.size ≤ after.scopes.size
  candidates : ∀ scope name, before.lookupLocal scope name <+: after.lookupLocal scope name

namespace ScopeTree.Appends

theorem refl (tree : ScopeTree) : tree.Appends tree :=
  ⟨Nat.le_refl _, fun _ _ => List.prefix_rfl⟩

theorem trans {first second third : ScopeTree} (earlier : first.Appends second)
    (later : second.Appends third) : first.Appends third where
  size_le := Nat.le_trans earlier.size_le later.size_le
  candidates scope name := (earlier.candidates scope name).trans (later.candidates scope name)

theorem createChild (tree : ScopeTree) (parent : ScopeId) (kind : ScopeKind)
    (owner : Option SymbolId) : tree.Appends (tree.createChild parent kind owner).2 where
  size_le := by simp
  candidates scope name := by
    simp only [lookupLocal, entries_createChild, List.prefix_refl]

theorem insert (tree : ScopeTree) (target : ScopeId) (name : String) (symbol : SymbolId) :
    tree.Appends (tree.insert target name symbol) where
  size_le := by simp
  candidates scope other := by
    rw [lookupLocal, lookupLocal, entries_insert]
    split
    · rw [ScopeEntries.candidates_insert]
      split
      · next sameName =>
        rw [sameName]
        exact List.prefix_append _ _
      · exact List.prefix_rfl
    · exact List.prefix_rfl

end ScopeTree.Appends

namespace Program

variable (program : Program) (context : DeclContext)

theorem appends_newSymbol (scope : ScopeId) (name : String) (kind : SymbolKind) :
    program.scopes.Appends (program.newSymbol context scope name kind).2.scopes :=
  .insert _ _ _ _

theorem appends_declareNamespace (name : String) :
    program.scopes.Appends (program.declareNamespace context name).2.scopes :=
  (program.appends_newSymbol context context.currentScope name .namespaceName).trans
    (.createChild _ _ _ _)

theorem appends_declareParametersFrom (position : Nat)
    (declarations : List ParameterDeclaration) :
    program.scopes.Appends (declareParametersFrom context position declarations program).2.scopes
    := by
  induction declarations generalizing position program with
  | nil => exact .refl _
  | cons declaration rest ih =>
      have first : program.scopes.Appends
          (program.declareParameter context position declaration).2.scopes :=
        program.appends_newSymbol context context.currentScope declaration.name
          declaration.symbolKind
      exact first.trans (ih _ (position + 1))

theorem appends_declareTemplateParameters (declarations : List ParameterDeclaration) :
    program.scopes.Appends (program.declareTemplateParameters context declarations).2.scopes := by
  let inside : Program :=
    { program with
      scopes := (program.scopes.createChild context.currentScope .templateScope).2 }
  have opens : program.scopes.Appends inside.scopes := .createChild _ _ _ _
  exact opens.trans (inside.appends_declareParametersFrom _ 0 declarations)

theorem appends_declareTemplate (name : String) (declarations : List ParameterDeclaration)
    (kind : SymbolKind) (genericType : Specialization → Ty) (defined : Bool) :
    program.scopes.Appends
      (program.declareTemplate context name declarations kind genericType defined).2.scopes :=
  (program.appends_declareTemplateParameters context declarations).trans (.insert _ _ _ _)

variable {program} {after : Program} {template symbol : SymbolId}
variable {arguments : List TemplateArgument}

theorem appends_of_declareClassSpecialization? {declarations : List ParameterDeclaration}
    {trees : InstantiationTrees}
    (declares : program.declareClassSpecialization? template declarations arguments trees =
      some (symbol, after)) : program.scopes.Appends after.scopes := by
  unfold declareClassSpecialization? at declares
  obtain ⟨templateType, _, declares⟩ := Option.bind_eq_some_iff.mp declares
  cases declares
  exact program.appends_declareTemplateParameters _ declarations

/-- An instance is not listed anywhere. -/
theorem scopes_of_templateInstance? {kind : SymbolKind} {instanceType : Specialization → Ty}
    (names : program.templateInstance? template arguments kind instanceType =
      some (symbol, after)) : after.scopes = program.scopes := by
  obtain ⟨templateType, data, -, -, ⟨-, rfl⟩ | ⟨parameters, created⟩⟩ :=
    templateInstance?_cases names
  · rfl
  · cases created
    rfl

/-- Adding to a program adds candidates behind those that there are. -/
theorem Enlarges.appends (enlarges : program.Enlarges after) :
    program.scopes.Appends after.scopes := by
  cases enlarges with
  | ofType added => exact .refl _
  | ofVariable context name type initializer => exact program.appends_newSymbol _ _ _ _
  | ofEnumerator context name type value => exact program.appends_newSymbol _ _ _ _
  | ofNamespace context name => exact program.appends_declareNamespace context name
  | ofTemplate context name declarations kind genericType defined =>
      exact program.appends_declareTemplate context name declarations kind genericType defined
  | ofSpecialization declares => exact appends_of_declareClassSpecialization? declares
  | ofInstance names =>
      rw [scopes_of_templateInstance? names]
      exact .refl _
  | ofBase classType base =>
      rw [(scopes_modifyClass _ _).1]
      exact .refl _

end Program

end CppTemplates
