import CppTemplates.Instantiation.Class
import CppTemplates.Proofs.Program.Contexts

/-!
# Operations that are given contexts

Every declaration stores contexts that it is given or that it finds stored, and every context that
an operation hands out belongs to a scope that the operation has opened.  So do the two contexts of
a class that is being instantiated, which are derived from the one that its name was declared in.
-/

namespace CppTemplates

namespace ScopeTree

variable {tree : ScopeTree} {context : DeclContext}

theorem HandsOut.createChild (given : tree.HandsOut context) (kind : ScopeKind)
    (owner : Option SymbolId) :
    (tree.createChild context.currentScope kind owner).2.HandsOut context :=
  (KeepsShape.createChild tree _ kind owner).handsOut given

theorem handsOut_newTemplateContext (given : tree.HandsOut context) :
    (tree.newTemplateContext context).2.HandsOut (tree.newTemplateContext context).1 :=
  .inTemplate (given.createChild _ _) (isOpened_createChild tree _ _ _)

theorem handsOut_newClassContext (given : tree.HandsOut context) (owner : SymbolId) :
    (tree.newClassContext context owner).2.HandsOut (tree.newClassContext context owner).1 :=
  .inClass (given.createChild _ _) (isOpened_createChild tree _ _ _)

theorem handsOut_newNamespaceContext (given : tree.HandsOut context) (owner : SymbolId) :
    (tree.newNamespaceContext context owner).2.HandsOut
      (tree.newNamespaceContext context owner).1 :=
  .inNamespace (given.createChild _ _) (isOpened_createChild tree _ _ _)

theorem handsOut_newBlockContext (given : tree.HandsOut context) (kind : ScopeKind) :
    (tree.newBlockContext context kind).2.HandsOut (tree.newBlockContext context kind).1 :=
  .inBlock (given.createChild _ _) (isOpened_createChild tree _ _ _)

end ScopeTree

namespace Program

/-- The operations that hand out a context inside another one. -/
inductive Opens (program : Program) (context : DeclContext) : DeclContext → Program → Prop
  | template : Opens program context (program.scopes.newTemplateContext context).1
      { program with scopes := (program.scopes.newTemplateContext context).2 }
  | classOf (owner : SymbolId) : Opens program context
      (program.scopes.newClassContext context owner).1
      { program with scopes := (program.scopes.newClassContext context owner).2 }
  | namespaceOf (owner : SymbolId) : Opens program context
      (program.scopes.newNamespaceContext context owner).1
      { program with scopes := (program.scopes.newNamespaceContext context owner).2 }
  | block (kind : ScopeKind) : Opens program context
      (program.scopes.newBlockContext context kind).1
      { program with scopes := (program.scopes.newBlockContext context kind).2 }
  | declaredNamespace (name : String) : Opens program context
      (program.declareNamespace context name).1.2 (program.declareNamespace context name).2
  | parameters (declarations : List ParameterDeclaration) : Opens program context
      (program.declareTemplateParameters context declarations).1.1
      (program.declareTemplateParameters context declarations).2

/-- The operations on a program, each given only contexts that have been handed out.  A symbol stays
in the context that it was declared in. -/
inductive ContextOperation : Program → Program → Prop
  | opens {program after : Program} {context inner : DeclContext}
      (given : program.scopes.HandsOut context) (opens : program.Opens context inner after) :
      ContextOperation program after
  | ofSymbol {program : Program} {context : DeclContext} (given : program.scopes.HandsOut context)
      (scope : ScopeId) (name : String) (kind : SymbolKind) :
      ContextOperation program (program.newSymbol context scope name kind).2
  | ofUnscopedSymbol {program : Program} {context : DeclContext}
      (given : program.scopes.HandsOut context) (name : String) (kind : SymbolKind) :
      ContextOperation program (program.newUnscopedSymbol context name kind).2
  | ofCopy {program : Program} (source : SymbolId) (scope : ScopeId) :
      ContextOperation program (program.copySymbolInto source scope).2
  | ofType {program : Program} {type : Ty}
      (given : ∀ inner, type.innerContext? = some inner → program.scopes.HandsOut inner) :
      ContextOperation program (program.newType type).2
  | ofVariable {program : Program} {context : DeclContext}
      (given : program.scopes.HandsOut context) (name : String) (type : TypeId)
      (initializer : Option NodeId) :
      ContextOperation program (program.declareVariable context name type initializer).2
  | ofEnumerator {program : Program} {context : DeclContext}
      (given : program.scopes.HandsOut context) (name : String) (type : TypeId) (value : NodeId) :
      ContextOperation program (program.declareEnumerator context name type value).2
  | ofClassTemplate {program : Program} {context : DeclContext}
      (given : program.scopes.HandsOut context) (name : String)
      (declarations : List ParameterDeclaration) (trees : InstantiationTrees) :
      ContextOperation program (program.declareClassTemplate context name declarations trees).2
  | ofFunctionTemplate {program : Program} {context : DeclContext}
      (given : program.scopes.HandsOut context) (name : String)
      (declarations : List ParameterDeclaration) (definition : Option NodeId) :
      ContextOperation program
        (program.declareFunctionTemplate context name declarations definition).2
  | ofSpecialization {program after : Program} {template symbol : SymbolId}
      {declarations : List ParameterDeclaration} {arguments : List TemplateArgument}
      {trees : InstantiationTrees}
      (declares : program.declareClassSpecialization? template declarations arguments trees =
        some (symbol, after)) : ContextOperation program after
  | ofClassInstance {program after : Program} {template symbol : SymbolId}
      {arguments : List TemplateArgument}
      (names : program.classInstance? template arguments = some (symbol, after)) :
      ContextOperation program after
  | ofFunctionInstance {program after : Program} {template symbol : SymbolId}
      {arguments : List TemplateArgument}
      (names : program.functionInstance? template arguments = some (symbol, after)) :
      ContextOperation program after
  | ofArgument {session after : Session} {context : DeclContext}
      (given : session.program.scopes.HandsOut context) {name : String} {kind : ParameterKind}
      {argument : TemplateArgument} {symbol : SymbolId}
      (injects : session.injectArgument context name kind argument = .ok (symbol, after)) :
      ContextOperation session.program after.program
  | ofClassEdit {program : Program} (type : TypeId) {change : ClassType → ClassType}
      (given : ∀ data inner, (change data).innerContext = some inner →
        data.innerContext = some inner ∨ program.scopes.HandsOut inner) :
      ContextOperation program (program.modifyClass type change)
  | ofSymbolEdit {program : Program} (symbol : SymbolId) {change : SymbolEntry → SymbolEntry}
      (stays : ∀ entry, (change entry).declContext = entry.declContext) :
      ContextOperation program (program.modifyEntry symbol change)

namespace SituatedSince

variable {program after start : Program} {context inner : DeclContext}

theorem opensScope (situated : program.SituatedSince start)
    (given : program.scopes.HandsOut context) (kind : ScopeKind) (owner : Option SymbolId) :
    { program with scopes := (program.scopes.createChild context.currentScope kind owner).2 }
      |>.SituatedSince start :=
  situated.createChild (given.isCoherent situated.nested).currentScope kind owner

theorem newSymbol (situated : program.SituatedSince start)
    (given : program.scopes.HandsOut context) (scope : ScopeId) (name : String)
    (kind : SymbolKind) : (program.newSymbol context scope name kind).2.SituatedSince start :=
  SituatedSince.signIn (situated.addEntry given) scope name _

theorem newUnscopedSymbol (situated : program.SituatedSince start)
    (given : program.scopes.HandsOut context) (name : String) (kind : SymbolKind) :
    (program.newUnscopedSymbol context name kind).2.SituatedSince start :=
  situated.addEntry given

theorem copySymbolInto (situated : program.SituatedSince start) (source : SymbolId)
    (scope : ScopeId) : (program.copySymbolInto source scope).2.SituatedSince start := by
  have given : program.scopes.HandsOut { program.entry source with scope }.declContext :=
    situated.declContext source
  exact (situated.addEntry given).signIn scope _ _

theorem declares (situated : program.SituatedSince start)
    (given : program.scopes.HandsOut context) (scope : ScopeId) (name : String)
    (kind : SymbolKind) {change : SymbolEntry → SymbolEntry}
    (stays : ∀ entry, (change entry).declContext = entry.declContext) :
    ((program.newSymbol context scope name kind).2.modifyEntry
      (program.newSymbol context scope name kind).1 change).SituatedSince start :=
  (situated.newSymbol given scope name kind).modifyEntry _ stays

theorem declareParametersFrom (situated : program.SituatedSince start)
    (given : program.scopes.HandsOut context) (position : Nat)
    (declarations : List ParameterDeclaration) :
    (declareParametersFrom context position declarations program).2.SituatedSince start := by
  induction declarations generalizing position program with
  | nil => exact situated
  | cons declaration rest ih =>
      have declared : (program.declareParameter context position declaration).2.SituatedSince
          program := situated.since.declares given _ _ _ fun _ => rfl
      exact ih (declared.trans situated) (declared.handsOut given) (position + 1)

theorem declareTemplateParameters (situated : program.SituatedSince start)
    (given : program.scopes.HandsOut context) (declarations : List ParameterDeclaration) :
    (program.declareTemplateParameters context declarations).2.SituatedSince start ∧
      (program.declareTemplateParameters context declarations).2.scopes.HandsOut
        (program.declareTemplateParameters context declarations).1.1 := by
  have opened := situated.since.opensScope given .templateScope none
  have handed := (ScopeTree.handsOut_newTemplateContext given).marked
    { context.flags with template := true } (context.templateNesting + 1)
  have declared := opened.since.declareParametersFrom handed 0 declarations
  exact ⟨(declared.trans opened).trans situated, declared.handsOut handed⟩

theorem declareNamespace (situated : program.SituatedSince start)
    (given : program.scopes.HandsOut context) (name : String) :
    (program.declareNamespace context name).2.SituatedSince start ∧
      (program.declareNamespace context name).2.scopes.HandsOut
        (program.declareNamespace context name).1.2 := by
  have named := situated.since.newSymbol given context.currentScope name .namespaceName
  have givenStill := named.handsOut given
  exact ⟨((named.trans situated).opensScope givenStill .namespaceScope _).modifyEntry _
    fun _ => rfl, ScopeTree.handsOut_newNamespaceContext givenStill _⟩

/-- What is handed out inside a context that was handed out belongs to the scopes from then on. -/
theorem opens (situated : program.SituatedSince start) (given : program.scopes.HandsOut context)
    (opens : program.Opens context inner after) :
    after.SituatedSince start ∧ after.scopes.HandsOut inner := by
  cases opens with
  | template =>
      exact ⟨situated.opensScope given _ _, ScopeTree.handsOut_newTemplateContext given⟩
  | classOf owner =>
      exact ⟨situated.opensScope given _ _, ScopeTree.handsOut_newClassContext given owner⟩
  | namespaceOf owner =>
      exact ⟨situated.opensScope given _ _, ScopeTree.handsOut_newNamespaceContext given owner⟩
  | block kind =>
      exact ⟨situated.opensScope given _ _, ScopeTree.handsOut_newBlockContext given kind⟩
  | declaredNamespace name => exact situated.declareNamespace given name
  | parameters declarations => exact situated.declareTemplateParameters given declarations

theorem declareTemplate (situated : program.SituatedSince start)
    (given : program.scopes.HandsOut context) (name : String)
    (declarations : List ParameterDeclaration) (kind : SymbolKind)
    {genericType : Specialization → Ty} (defined : Bool)
    (noContext : ∀ specialization, (genericType specialization).innerContext? = none) :
    (program.declareTemplate context name declarations kind genericType defined).2.SituatedSince
      start := by
  obtain ⟨parameters, handed⟩ := situated.since.declareTemplateParameters given declarations
  have named := parameters.since.newSymbol (parameters.handsOut given) context.currentScope name
    .templateName
  have generic := ((named.trans parameters).trans situated).newUnscopedSymbol
    (named.handsOut handed) name kind
  refine modifyEntry (newType (modifyEntry (newType generic ?_) _ ?_) ?_) _ ?_
  · rintro _ ⟨⟩
  · exact fun _ => rfl
  · intro inner stores
    rw [noContext] at stores
    cases stores
  · exact fun _ => rfl

/-- A specialization of a template is declared where the name of the template was. -/
theorem declareClassSpecialization? (situated : program.SituatedSince start)
    {template symbol : SymbolId} {declarations : List ParameterDeclaration}
    {arguments : List TemplateArgument} {trees : InstantiationTrees}
    (declares : program.declareClassSpecialization? template declarations arguments trees =
      some (symbol, after)) : after.SituatedSince start := by
  unfold Program.declareClassSpecialization? at declares
  obtain ⟨templateType, _, declares⟩ := Option.bind_eq_some_iff.mp declares
  cases declares
  have given : program.scopes.HandsOut
      (if declarations.isEmpty then
        { (program.entry template).declContext with
          flags :=
            { (program.entry template).declContext.flags with explicitSpecialization := true } }
      else
        (program.entry template).declContext) := by
    split
    · exact (situated.declContext template).marked _ _
    · exact situated.declContext template
  obtain ⟨parameters, handed⟩ := situated.declareTemplateParameters given declarations
  refine modifyTemplate (modifyEntry (newType (parameters.newUnscopedSymbol handed _ .className)
    ?_) _ ?_) _ _
  · rintro _ ⟨⟩
  · exact fun _ => rfl

theorem templateInstance? (situated : program.SituatedSince start) {template symbol : SymbolId}
    {arguments : List TemplateArgument} {kind : SymbolKind} {instanceType : Specialization → Ty}
    (noContext : ∀ specialization, (instanceType specialization).innerContext? = none)
    (creates : program.templateInstance? template arguments kind instanceType =
      some (symbol, after)) : after.SituatedSince start := by
  obtain ⟨templateType, data, -, -, ⟨-, rfl⟩ | ⟨parameters, created⟩⟩ :=
    templateInstance?_cases creates
  · exact situated
  · cases created
    refine modifyTemplate (modifyEntry (newType
      (situated.newUnscopedSymbol (situated.declContext template) _ kind) ?_) _ ?_) _ _
    · intro inner stores
      rw [noContext] at stores
      cases stores
    · exact fun _ => rfl

theorem declareArgument (situated : program.SituatedSince start)
    (given : program.scopes.HandsOut context) (name : String) (kind : SymbolKind) (type : TypeId)
    (value : Option NodeId) :
    (program.declareArgument context name kind type value).2.SituatedSince start :=
  situated.declares given _ name kind fun _ => rfl

theorem injectArgument {session injected : Session}
    (situated : session.program.SituatedSince start)
    (given : session.program.scopes.HandsOut context) {name : String} {kind : ParameterKind}
    {argument : TemplateArgument} {symbol : SymbolId}
    (injects : session.injectArgument context name kind argument = .ok (symbol, injected)) :
    injected.program.SituatedSince start := by
  obtain ⟨-, ways⟩ := Session.injectsArgument_of_injectArgument injects
  cases ways with
  | type named declares =>
      subst declares
      have typed : (session.program.newTypedef named).2.SituatedSince start :=
        situated.newType (by rintro _ ⟨⟩)
      exact typed.declareArgument given name .typedefName _ none
  | template named declares =>
      subst declares
      exact situated.declareArgument given name .templateName _ none
  | nonType type folded declares =>
      subst declares
      exact situated.declareArgument given name .variableName type _

theorem openInstance (situated : program.SituatedSince start) (entry : SymbolId)
    (classType : TypeId) :
    (program.openInstance entry classType).2.SituatedSince start ∧
      (program.openInstance entry classType).2.scopes.HandsOut
        (program.openInstance entry classType).1.1 ∧
      (program.openInstance entry classType).2.scopes.HandsOut
        (program.openInstance entry classType).1.2 := by
  have given := situated.declContext entry
  have forArguments := situated.opensScope given .templateScope none
  have arguments := (ScopeTree.handsOut_newTemplateContext given).marked
    { (program.entry entry).declContext.flags with
      template := false, explicitSpecialization := false } 0
  have forMembers := forArguments.opensScope arguments .classScope (some entry)
  have members := ScopeTree.handsOut_newClassContext arguments entry
  -- that the class gets its context at the end leaves the scopes as they are
  unfold Program.openInstance
  dsimp only
  rw [(scopes_modifyClass _ _).1]
  refine ⟨forMembers.modifyClass classType ?_, arguments.createChild _ _, members⟩
  rintro data _ ⟨⟩
  exact .inr members

theorem completeInstance (situated : program.SituatedSince start) (entry : SymbolId)
    (classType : TypeId) (inner : DeclContext) :
    (program.completeInstance entry classType inner).SituatedSince start := by
  refine modifyClass (modifyEntry (situated.copySymbolInto entry inner.currentScope) _ ?_)
    classType ?_
  · exact fun _ => rfl
  · exact fun _ _ stores => .inl stores

/-- Every operation stores only contexts that have been handed out. -/
theorem operation (situated : program.SituatedSince start)
    (operation : program.ContextOperation after) : after.SituatedSince start := by
  cases operation with
  | opens given opens => exact (situated.opens given opens).1
  | ofSymbol given scope name kind => exact situated.newSymbol given scope name kind
  | ofUnscopedSymbol given name kind => exact situated.newUnscopedSymbol given name kind
  | ofCopy source scope => exact situated.copySymbolInto source scope
  | ofType given => exact situated.newType given
  | ofVariable given => exact situated.declares given _ _ _ fun _ => rfl
  | ofEnumerator given => exact situated.declares given _ _ _ fun _ => rfl
  | ofClassTemplate given => exact situated.declareTemplate given _ _ _ _ fun _ => rfl
  | ofFunctionTemplate given => exact situated.declareTemplate given _ _ _ _ fun _ => rfl
  | ofSpecialization declares => exact situated.declareClassSpecialization? declares
  | ofClassInstance names => exact situated.templateInstance? (fun _ => rfl) names
  | ofFunctionInstance names => exact situated.templateInstance? (fun _ => rfl) names
  | ofArgument given injects => exact situated.injectArgument given injects
  | ofClassEdit type given => exact situated.modifyClass type given
  | ofSymbolEdit symbol stays => exact situated.modifyEntry symbol stays

theorem operations (situated : program.SituatedSince start)
    (operations : Relation.ReflTransGen ContextOperation program after) :
    after.SituatedSince start := by
  induction operations with
  | refl => exact situated
  | tail _ last ih => exact ih.operation last

end SituatedSince

end Program

end CppTemplates
