import CppTemplates.Proofs.Program.Completion
import CppTemplates.Proofs.Program.Declarations
import CppTemplates.Proofs.Program.SymbolTable

/-!
# How a template holds together

A template is spread over the scopes, symbols and types of a program.  Its type knows the symbol of
its name, its generic definition, its specializations and its instances; each of these leads back to
the template type, and the parameters of the generic definition stand in its template scope.  Every
operation that makes such a link makes all the others that belong to it.
-/

namespace CppTemplates

def ParameterKind.symbolKind : ParameterKind → SymbolKind
  | .type => .typeParameter
  | .template => .templateParameter
  | .nonType => .nonTypeParameter

theorem ParameterDeclaration.symbolKind_kind (declaration : ParameterDeclaration) :
    declaration.kind.symbolKind = declaration.symbolKind := by
  cases declaration <;> rfl

def Ty.specialization? : Ty → Option Specialization
  | .classType data => data.specialization
  | .functionType data => data.specialization
  | _ => none

theorem Ty.RetainedAs.specialization?_eq {before after : Ty} (retained : before.RetainedAs after) :
    after.specialization? = before.specialization? := by
  cases before with
  | classType data =>
      obtain ⟨later, rfl, same, _⟩ := retained
      exact same
  | templateType data =>
      obtain ⟨later, rfl, _⟩ := retained
      rfl
  | _ =>
      cases retained
      rfl

theorem Ty.not_templateType_of_specialization? {type : Ty} {specialization : Specialization}
    (links : type.specialization? = some specialization) (data : TemplateType) :
    type ≠ .templateType data := by
  rintro rfl
  cases links

namespace Program

variable {program before after : Program}

theorem index_lt_of_templateType {templateType : TypeId} {data : TemplateType}
    (isTemplate : program.type templateType = .templateType data) :
    templateType.index < program.types.size := by
  apply index_lt_of_type_ne_default
  rw [isTemplate]
  intro same
  cases same

theorem specialization?_eq_some {type : TypeId} {specialization : Specialization}
    (carries : (program.type type).specialization? = some specialization) :
    program.specialization? type = some specialization := by
  cases atType : program.type type with
  | classType data =>
      rw [atType] at carries
      rw [Program.specialization?, classData?_eq_self atType]
      exact carries
  | functionType data =>
      have notTypedef : program.aliased? type = none := by simp [aliased?, atType]
      have stripped : program.stripTypedefs type = type := followTypedefs_of_eq_none _ notTypedef
      have notClass : program.classData? type = none := by
        simp [classData?, actualClass?, stripped, atType]
      have isFunction : program.functionData? type = some data := by
        simp [functionData?, stripped, atType]
      rw [atType] at carries
      rw [Program.specialization?, notClass, isFunction]
      exact carries
  | _ =>
      rw [atType] at carries
      cases carries

/-- The type of a symbol is or names a class or function with a certain link to a template. -/
def HasSpecialization (program : Program) (symbol : SymbolId) (specialization : Specialization) :
    Prop :=
  ∃ type, (program.entry symbol).type = some type ∧
    program.specialization? type = some specialization

/-- Moreover the type of the symbol is that class or function itself. -/
def Specializes (program : Program) (symbol : SymbolId) (specialization : Specialization) : Prop :=
  ∃ type, (program.entry symbol).type = some type ∧
    (program.type type).specialization? = some specialization

namespace Specializes

variable {symbol : SymbolId} {specialization other : Specialization}

theorem index_lt (specializes : program.Specializes symbol specialization) :
    symbol.index < program.symbols.size := by
  obtain ⟨type, typed, _⟩ := specializes
  exact index_lt_of_entryType typed

theorem retained (specializes : before.Specializes symbol specialization)
    (retains : before.Retains after) : after.Specializes symbol specialization := by
  obtain ⟨type, typed, carries⟩ := specializes
  refine ⟨type, retains.entryType_eq typed, ?_⟩
  rw [(retains.retainedAs _).specialization?_eq, carries]
  intro isDefault
  rw [isDefault] at carries
  cases carries

theorem hasSpecialization (specializes : program.Specializes symbol specialization) :
    program.HasSpecialization symbol specialization := by
  obtain ⟨type, typed, carries⟩ := specializes
  exact ⟨type, typed, specialization?_eq_some carries⟩

theorem argumentsOf?_eq (specializes : program.Specializes symbol specialization) :
    program.argumentsOf? symbol = some specialization.arguments := by
  obtain ⟨type, typed, carries⟩ := specializes
  simp [argumentsOf?, typed, specialization?_eq_some carries]

theorem primaryParameters?_eq {data : TemplateType}
    (specializes : program.Specializes data.primary specialization) :
    program.primaryParameters? data = some specialization.parameters := by
  obtain ⟨type, typed, carries⟩ := specializes
  simp [primaryParameters?, typed, specialization?_eq_some carries]

end Specializes

/-- A parameter is signed in to a scope and knows its place in the parameter list. -/
structure IsParameter (program : Program) (scope : ScopeId) (nesting position : Nat)
    (parameter : TemplateParameter) : Prop where
  declared : parameter.entry.index < program.symbols.size
  listed : parameter.entry ∈
    program.scopes.lookupLocal scope (program.symbolName parameter.entry)
  nesting_eq : (program.entry parameter.entry).nesting = nesting
  position_eq : (program.entry parameter.entry).position = position
  kind_eq : (program.entry parameter.entry).kind = parameter.kind.symbolKind

theorem IsParameter.retained {scope : ScopeId} {nesting position : Nat}
    {parameter : TemplateParameter}
    (isParameter : before.IsParameter scope nesting position parameter)
    (retains : before.Retains after) (lists : before.scopes.Lists after.scopes) :
    after.IsParameter scope nesting position parameter := by
  have kept := retains.entry parameter.entry isParameter.declared
  refine ⟨Nat.lt_of_lt_of_le isParameter.declared retains.symbols_le, ?_,
    kept.nesting.trans isParameter.nesting_eq, kept.position.trans isParameter.position_eq,
    kept.kind.trans isParameter.kind_eq⟩
  rw [symbolName, kept.name]
  exact lists.listed _ _ _ isParameter.listed

theorem types_declareParametersFrom (context : DeclContext) (position : Nat)
    (declarations : List ParameterDeclaration) (program : Program) :
    (declareParametersFrom context position declarations program).2.types = program.types := by
  induction declarations generalizing position program with
  | nil => rfl
  | cons declaration rest ih =>
      exact ih (position + 1) (program.declareParameter context position declaration).2

theorem types_declareTemplateParameters (program : Program) (context : DeclContext)
    (declarations : List ParameterDeclaration) :
    (program.declareTemplateParameters context declarations).2.types = program.types :=
  types_declareParametersFrom _ 0 declarations _

theorem type_declareTemplate_of_lt {type : TypeId} (older : type.index < program.types.size)
    (context : DeclContext) (name : String) (declarations : List ParameterDeclaration)
    (kind : SymbolKind) (genericType : Specialization → Ty) (defined : Bool) :
    (program.declareTemplate context name declarations kind genericType defined).2.type type =
      program.type type := by
  obtain ⟨⟨⟨inner, parameters⟩, opened⟩, opens⟩ :
      ∃ opened, program.declareTemplateParameters context declarations = opened := ⟨_, rfl⟩
  obtain ⟨⟨template, declared⟩, declares⟩ :
      ∃ declared, program.declareTemplate context name declarations kind genericType defined =
        declared := ⟨_, rfl⟩
  obtain ⟨primary, -, -, -, -, others, -⟩ :=
    declareTemplate_spec opens name kind genericType defined declares
  have types := types_declareTemplateParameters program context declarations
  rw [opens] at types
  rw [declares, others type (types ▸ older), Program.type, types]
  rfl

/-- A declared parameter is listed in the scope of the context, if that is one of the program. -/
theorem isParameter_declareParameter {context : DeclContext}
    (inTree : context.currentScope.index < program.scopes.scopes.size) (position : Nat)
    (declaration : ParameterDeclaration) :
    (program.declareParameter context position declaration).2.IsParameter context.currentScope
      context.templateNesting position
      ⟨declaration.kind, (program.declareParameter context position declaration).1⟩ := by
  let listed := program.newSymbol context context.currentScope declaration.name
    declaration.symbolKind
  have size : listed.2.symbols.size = program.symbols.size + 1 := size_addEntry _
  have isLast : listed.1.index < listed.2.symbols.size := size ▸ Nat.lt_succ_self _
  have atNew : (program.declareParameter context position declaration).2.entry listed.1 =
      { name := declaration.name, kind := declaration.symbolKind, type := declaration.valueType,
        declContext := context, scope := context.currentScope,
        nesting := context.templateNesting, position } := by
    rw [show (program.declareParameter context position declaration).2.entry listed.1 = _ from
      entry_modifyEntry_self isLast _]
    rw [show listed.2.entry listed.1 = _ from entry_addEntry_self _]
  refine ⟨Nat.lt_of_lt_of_eq isLast (size_modifyEntry _ _).symm, ?_, ?_, ?_, ?_⟩
  · change listed.1 ∈ (program.scopes.insert context.currentScope declaration.name
      listed.1).lookupLocal context.currentScope
        ((program.declareParameter context position declaration).2.entry listed.1).name
    rw [atNew, ScopeTree.lookupLocal, ScopeTree.scope_insert_self inTree,
      ScopeEntries.candidates_insert]
    simp
  · exact congrArg SymbolEntry.nesting atNew
  · exact congrArg SymbolEntry.position atNew
  · exact (congrArg SymbolEntry.kind atNew).trans declaration.symbolKind_kind.symm

theorem isParameter_declareParametersFrom {context : DeclContext}
    (inTree : context.currentScope.index < program.scopes.scopes.size) (position : Nat)
    (declarations : List ParameterDeclaration) {index : Nat} {parameter : TemplateParameter}
    (isNth : (declareParametersFrom context position declarations program).1[index]? =
      some parameter) :
    (declareParametersFrom context position declarations program).2.IsParameter
      context.currentScope context.templateNesting (position + index) parameter := by
  induction declarations generalizing position program index with
  | nil => cases isNth
  | cons declaration rest ih =>
      let first := program.declareParameter context position declaration
      have firstLists : program.scopes.Lists first.2.scopes := ScopeTree.Lists.insert _ _ _ _
      cases index with
      | zero =>
          cases isNth
          have keeps := (KeepsEntities.refl first.2).declareParametersFrom context (position + 1)
            rest
          have leaves : Leaves default first.2 _ :=
            leaves_declareParametersFrom context (position + 1) rest
          exact (isParameter_declareParameter inTree position declaration).retained
            (.of_keepsEntities keeps) leaves.lists
      | succ index =>
          have later := ih (Nat.lt_of_lt_of_le inTree firstLists.size_le) (position + 1) isNth
          rwa [Nat.add_right_comm] at later

theorem isParameter_declareTemplateParameters {context inner : DeclContext}
    {declarations : List ParameterDeclaration} {parameters : List TemplateParameter}
    {opened : Program}
    (opens : program.declareTemplateParameters context declarations =
      ((inner, parameters), opened)) :
    inner.templateScope = some inner.currentScope ∧
      ∀ (position : Nat) (parameter : TemplateParameter), parameters[position]? = some parameter →
        opened.IsParameter inner.currentScope inner.templateNesting position parameter := by
  unfold declareTemplateParameters at opens
  obtain ⟨isPair, rfl⟩ := Prod.mk.inj opens
  obtain ⟨rfl, rfl⟩ := Prod.mk.inj isPair
  refine ⟨rfl, fun position parameter isNth => ?_⟩
  have inTree : program.scopes.scopes.size <
      (program.scopes.newTemplateContext context).2.scopes.size := by
    simp [ScopeTree.newTemplateContext]
  rw [← Nat.zero_add position]
  exact isParameter_declareParametersFrom inTree 0 declarations isNth

/-- A template and everything that belongs to it lead to each other. -/
structure IsTemplate (program : Program) (templateType : TypeId) (data : TemplateType)
    (parameters : List TemplateParameter) : Prop where
  nameKind : (program.entry data.name).kind = .templateName
  named : (program.entry data.name).type = some templateType
  primary : program.Specializes data.primary { template := templateType, parameters }
  scope : ∃ scope nesting, (program.entry data.primary).declContext.templateScope = some scope ∧
    ∀ (position : Nat) (parameter : TemplateParameter), parameters[position]? = some parameter →
      program.IsParameter scope nesting position parameter
  specializations : ∀ symbol ∈ data.specializations, ∃ specialization,
    program.Specializes symbol specialization ∧ specialization.template = templateType
  instances : ∀ symbol ∈ data.instances, ∃ arguments,
    program.Specializes symbol { template := templateType, parameters, arguments }
  nodup : data.instances.Nodup

/-- All templates of a program hold together. -/
def HasTemplates (program : Program) : Prop :=
  ∀ templateType data, program.type templateType = .templateType data →
    ∃ parameters, program.IsTemplate templateType data parameters

theorem hasTemplates_empty : ({} : Program).HasTemplates := by
  intro templateType data isTemplate
  cases isTemplate

theorem IsTemplate.retained {templateType : TypeId} {data : TemplateType}
    {parameters : List TemplateParameter}
    (isTemplate : before.IsTemplate templateType data parameters)
    (retains : before.Retains after) (lists : before.scopes.Lists after.scopes) :
    after.IsTemplate templateType data parameters where
  nameKind :=
    (retains.entry data.name (index_lt_of_entryType isTemplate.named)).kind.trans
      isTemplate.nameKind
  named := retains.entryType_eq isTemplate.named
  primary := isTemplate.primary.retained retains
  scope := by
    obtain ⟨scope, nesting, inScope, areParameters⟩ := isTemplate.scope
    refine ⟨scope, nesting, ?_, fun position parameter isNth =>
      (areParameters position parameter isNth).retained retains lists⟩
    rw [(retains.entry data.primary isTemplate.primary.index_lt).declContext, inScope]
  specializations := by
    intro symbol member
    obtain ⟨specialization, specializes, ofTemplate⟩ := isTemplate.specializations symbol member
    exact ⟨specialization, specializes.retained retains, ofTemplate⟩
  instances := by
    intro symbol member
    obtain ⟨arguments, specializes⟩ := isTemplate.instances symbol member
    exact ⟨arguments, specializes.retained retains⟩
  nodup := isTemplate.nodup

/-- What is declared stays, what is listed stays listed, and no template comes about or changes. -/
structure KeepsTemplates (before after : Program) : Prop extends before.Retains after where
  lists : before.scopes.Lists after.scopes
  templates : ∀ type data, after.type type = .templateType data →
    before.type type = .templateType data

theorem HasTemplates.kept (has : before.HasTemplates) (keeps : before.KeepsTemplates after) :
    after.HasTemplates := by
  intro templateType data isTemplate
  obtain ⟨parameters, holds⟩ := has templateType data (keeps.templates _ _ isTemplate)
  exact ⟨parameters, holds.retained keeps.toRetains keeps.lists⟩

namespace KeepsTemplates

theorem of_sameTypes (retains : before.Retains after) (lists : before.scopes.Lists after.scopes)
    (types : after.types = before.types) : before.KeepsTemplates after where
  toRetains := retains
  lists := lists
  templates type data isTemplate := by rwa [Program.type, types] at isTemplate

theorem refl (program : Program) : program.KeepsTemplates program :=
  .of_sameTypes (.refl program) (.refl _) rfl

theorem trans {first second third : Program} (earlier : first.KeepsTemplates second)
    (later : second.KeepsTemplates third) : first.KeepsTemplates third where
  toRetains := earlier.toRetains.trans later.toRetains
  lists := earlier.lists.trans later.lists
  templates type data isTemplate :=
    earlier.templates type data (later.templates type data isTemplate)

theorem newType {added : Ty} (notTemplate : ∀ data, added ≠ .templateType data) :
    before.KeepsTemplates (before.newType added).2 where
  toRetains := .of_keepsEntities ((KeepsEntities.refl before).newType added)
  lists := .refl _
  templates type data isTemplate := by
    have bound := index_lt_of_templateType isTemplate
    simp only [Program.newType, Array.size_push] at bound
    rcases Nat.lt_succ_iff_lt_or_eq.mp bound with older | isNew
    · rwa [type_newType_of_lt older] at isTemplate
    · have isLast : type = (before.newType added).1 := by
        cases type
        exact congrArg TypeId.mk isNew
      rw [isLast, type_newType_self] at isTemplate
      exact absurd isTemplate (notTemplate data)

theorem modifyClass {type : TypeId} {change : ClassType → ClassType}
    (retains : before.Retains (before.modifyClass type change)) :
    before.KeepsTemplates (before.modifyClass type change) where
  toRetains := retains
  lists := by
    rw [(scopes_modifyClass type change).1]
    exact .refl _
  templates id data isTemplate := by
    unfold Program.modifyClass at isTemplate
    split at isTemplate
    · rw [type_modifyType] at isTemplate
      split at isTemplate
      · cases atType : before.type id <;> simp_all
      · exact isTemplate
    · exact isTemplate

theorem createChild (program : Program) (parent : ScopeId) (kind : ScopeKind)
    (owner : Option SymbolId) : program.KeepsTemplates
      { program with scopes := (program.scopes.createChild parent kind owner).2 } :=
  .of_sameTypes (.of_keepsEntities ((KeepsEntities.refl program).withScopes _))
    (.createChild _ _ _ _) rfl

theorem addEntry (program : Program) (added : SymbolEntry) :
    program.KeepsTemplates (program.addEntry added).2 :=
  .of_sameTypes (.of_keepsEntities ((KeepsEntities.refl program).addEntry added)) (.refl _) rfl

theorem newSymbol (program : Program) (context : DeclContext) (scope : ScopeId) (name : String)
    (kind : SymbolKind) :
    program.KeepsTemplates (program.newSymbol context scope name kind).2 :=
  .of_sameTypes (.of_keepsEntities ((KeepsEntities.refl program).newSymbol context scope name kind))
    (.insert _ _ _ _) rfl

/-- A symbol that has just been created may still change. -/
theorem modifyEntry_new (keeps : before.KeepsTemplates after)
    (retains : before.KeepsEntities after) {symbol : SymbolId}
    (isNew : before.symbols.size ≤ symbol.index) (change : SymbolEntry → SymbolEntry) :
    before.KeepsTemplates (after.modifyEntry symbol change) where
  toRetains := .of_keepsEntities (retains.modifyEntry_new isNew change)
  lists := keeps.lists
  templates := keeps.templates

theorem declareTemplateParameters (program : Program) (context : DeclContext)
    (declarations : List ParameterDeclaration) :
    program.KeepsTemplates (program.declareTemplateParameters context declarations).2 := by
  have keeps := (KeepsEntities.refl program).declareTemplateParameters context declarations
  have leaves : Leaves default program _ := leaves_declareTemplateParameters context declarations
  exact .of_sameTypes (.of_keepsEntities keeps) leaves.lists
    (types_declareTemplateParameters program context declarations)

end KeepsTemplates

theorem specializes_created (program : Program) (added : SymbolEntry) {linked : Ty}
    {specialization : Specialization} (links : linked.specialization? = some specialization)
    {change : SymbolEntry → SymbolEntry}
    (typed : ∀ entry, (change entry).type = some ⟨program.types.size⟩) :
    let created := ((program.addEntry added).2.newType linked).2.modifyEntry
      ⟨program.symbols.size⟩ change
    program.KeepsTemplates created ∧ created.Specializes ⟨program.symbols.size⟩ specialization := by
  intro created
  let listed := program.addEntry added
  have size : listed.2.symbols.size = program.symbols.size + 1 := size_addEntry _
  have keeps : program.KeepsTemplates (listed.2.newType linked).2 :=
    (KeepsTemplates.addEntry program added).trans
      (.newType (Ty.not_templateType_of_specialization? links))
  refine ⟨keeps.modifyEntry_new (((KeepsEntities.refl program).addEntry added).newType linked)
    (Nat.le_refl _) change, ⟨program.types.size⟩, ?_, ?_⟩
  · rw [show created.entry ⟨program.symbols.size⟩ = _ from
      entry_modifyEntry_self (Nat.lt_of_lt_of_eq (Nat.lt_succ_self _) size.symm) change, typed]
  · exact (congrArg Ty.specialization? (@type_newType_self listed.2 linked)).trans links

/-- A specialization is created and leads back to its template, and then it is added to that. -/
theorem exists_created_of_declareClassSpecialization? {template symbol : SymbolId}
    {declarations : List ParameterDeclaration} {arguments : List TemplateArgument}
    {trees : InstantiationTrees}
    (declares : program.declareClassSpecialization? template declarations arguments trees =
      some (symbol, after)) :
    ∃ created specialization, program.KeepsTemplates created ∧
      created.Specializes symbol specialization ∧
      after = created.modifyTemplate specialization.template fun data =>
        { data with specializations := data.specializations ++ [symbol] } := by
  unfold declareClassSpecialization? at declares
  obtain ⟨templateType, -, declares⟩ := Option.bind_eq_some_iff.mp declares
  let outer :=
    if declarations.isEmpty then
      { (program.entry template).declContext with
        flags :=
          { (program.entry template).declContext.flags with explicitSpecialization := true } }
    else
      (program.entry template).declContext
  have keepsOpened := KeepsTemplates.declareTemplateParameters program outer declarations
  obtain ⟨⟨⟨inner, parameters⟩, opened⟩, opens⟩ :
      ∃ opened, program.declareTemplateParameters outer declarations = opened := ⟨_, rfl⟩
  rw [opens] at keepsOpened
  dsimp only at declares
  dsimp only [outer] at opens
  rw [opens] at declares
  cases declares
  let specialization : Specialization := { template := templateType, parameters, arguments }
  obtain ⟨keeps, specializes⟩ := @specializes_created opened
    { name := opened.symbolName template, kind := .className, declContext := inner,
      scope := inner.currentScope }
    (.classType
      { completeness :=
          if declarations.isEmpty then .completeIndependent else .completeDependent
        specialization := some specialization
        trees })
    specialization rfl
    (fun entry => { entry with type := some ⟨opened.types.size⟩, defined := true })
    (fun _ => rfl)
  exact ⟨_, specialization, keepsOpened.trans keeps, specializes, rfl⟩

theorem templateTypeOf?_eq_some {template : SymbolId} {templateType : TypeId} :
    program.templateTypeOf? template = some templateType ↔
      (program.entry template).type = some templateType ∧
        ∃ data, program.type templateType = .templateType data := by
  constructor
  · intro ofType
    obtain ⟨type, typed, ofType⟩ := Option.bind_eq_some_iff.mp ofType
    split at ofType
    · next data isTemplate =>
      cases ofType
      exact ⟨typed, data, isTemplate⟩
    · cases ofType
  · rintro ⟨typed, data, isTemplate⟩
    simp [templateTypeOf?, typed, isTemplate]

theorem exists_template_of_templateInstance? {template symbol : SymbolId}
    {arguments : List TemplateArgument} {kind : SymbolKind} {instanceType : Specialization → Ty}
    (names : program.templateInstance? template arguments kind instanceType =
      some (symbol, after)) :
    ∃ templateType data, (program.entry template).type = some templateType ∧
      program.type templateType = .templateType data := by
  obtain ⟨templateType, -, ofType, -⟩ := templateInstance?_cases names
  obtain ⟨typed, data, isTemplate⟩ := templateTypeOf?_eq_some.mp ofType
  exact ⟨templateType, data, typed, isTemplate⟩

namespace HasTemplates

theorem modifyTemplate (has : program.HasTemplates) (type : TypeId)
    {change : TemplateType → TemplateType}
    (keeps : ∀ data, (change data).name = data.name ∧ (change data).primary = data.primary)
    (holds : ∀ data, program.type type = .templateType data →
      ∃ parameters, program.IsTemplate type (change data) parameters) :
    (program.modifyTemplate type change).HasTemplates := by
  have retains := (Retains.refl program).modifyTemplate type keeps
  have lists : program.scopes.Lists (program.modifyTemplate type change).scopes := .refl _
  intro templateType data isTemplate
  rw [Program.modifyTemplate, type_modifyType] at isTemplate
  split at isTemplate
  case isFalse =>
    obtain ⟨parameters, held⟩ := has templateType data isTemplate
    exact ⟨parameters, held.retained retains lists⟩
  case isTrue atType =>
    obtain ⟨rfl, -⟩ := atType
    cases before : program.type templateType with
    | templateType original =>
        simp only [before, Ty.templateType.injEq] at isTemplate
        subst isTemplate
        obtain ⟨parameters, held⟩ := holds original before
        exact ⟨parameters, held.retained retains lists⟩
    | _ => simp [before] at isTemplate

/-- A declared template holds together. -/
theorem declareTemplate (has : program.HasTemplates) (context : DeclContext) (name : String)
    (declarations : List ParameterDeclaration) (kind : SymbolKind)
    {genericType : Specialization → Ty}
    (links : ∀ specialization, (genericType specialization).specialization? = some specialization)
    (defined : Bool) :
    (program.declareTemplate context name declarations kind genericType
      defined).2.HasTemplates := by
  obtain ⟨⟨⟨inner, parameters⟩, opened⟩, opens⟩ :
      ∃ opened, program.declareTemplateParameters context declarations = opened := ⟨_, rfl⟩
  obtain ⟨⟨template, declared⟩, declares⟩ :
      ∃ declared, program.declareTemplate context name declarations kind genericType defined =
        declared := ⟨_, rfl⟩
  have hasOpened : opened.HasTemplates := by
    have keeps := KeepsTemplates.declareTemplateParameters program context declarations
    rw [opens] at keeps
    exact has.kept keeps
  have retains : opened.Retains declared := by
    have keeps := KeepsEntities.declareTemplate_of_parameters program context name declarations
      kind genericType defined
    rw [opens, declares] at keeps
    exact .of_keepsEntities keeps
  have lists : opened.scopes.Lists declared.scopes := by
    unfold Program.declareTemplate at declares
    rw [opens] at declares
    obtain ⟨-, rfl⟩ := Prod.mk.inj declares
    exact .insert _ _ _ _
  obtain ⟨inScope, areParameters⟩ := isParameter_declareTemplateParameters opens
  obtain ⟨primary, atName, atPrimary, atTemplate, atGeneric, others, size⟩ :=
    declareTemplate_spec opens name kind genericType defined declares
  rw [declares]
  intro templateType data isTemplate
  have bound := index_lt_of_templateType isTemplate
  rw [size] at bound
  -- The type is an old one, or that of the new template; that of the definition is no template.
  obtain older | isNew | isGeneric : templateType.index < opened.types.size ∨
      templateType = ⟨opened.types.size⟩ ∨ templateType = ⟨opened.types.size + 1⟩ := by
    obtain ⟨index⟩ := templateType
    simp only [TypeId.mk.injEq] at bound ⊢
    omega
  · rw [others templateType older] at isTemplate
    obtain ⟨ofParameters, held⟩ := hasOpened templateType data isTemplate
    exact ⟨ofParameters, held.retained retains lists⟩
  · subst isNew
    rw [atTemplate, Ty.templateType.injEq] at isTemplate
    subst isTemplate
    refine ⟨parameters, ⟨by rw [atName], by rw [atName], ?_, ?_, ?_, ?_, List.nodup_nil⟩⟩
    · exact ⟨_, by rw [atPrimary], by rw [atGeneric, links]⟩
    · refine ⟨inner.currentScope, inner.templateNesting, ?_, fun position parameter isNth =>
        (areParameters position parameter isNth).retained retains lists⟩
      rw [atPrimary, inScope]
    · exact fun _ member => nomatch member
    · exact fun _ member => nomatch member
  · have linked := links { template := ⟨opened.types.size⟩, parameters }
    rw [← atGeneric, ← isGeneric, isTemplate] at linked
    cases linked

theorem declareClassSpecialization? (has : program.HasTemplates) {template symbol : SymbolId}
    {declarations : List ParameterDeclaration} {arguments : List TemplateArgument}
    {trees : InstantiationTrees}
    (declares : program.declareClassSpecialization? template declarations arguments trees =
      some (symbol, after)) : after.HasTemplates := by
  obtain ⟨created, specialization, keeps, specializes, rfl⟩ :=
    exists_created_of_declareClassSpecialization? declares
  have hasCreated := has.kept keeps
  refine hasCreated.modifyTemplate _ (fun _ => ⟨rfl, rfl⟩) fun data isTemplate => ?_
  obtain ⟨parameters, held⟩ := hasCreated _ data isTemplate
  refine ⟨parameters, { held with specializations := fun other member => ?_ }⟩
  rcases List.mem_append.mp member with old | isNew
  · exact held.specializations other old
  · cases List.mem_singleton.mp isNew
    exact ⟨specialization, specializes, rfl⟩

/-- An instance that is created leads back to its template and is none of those before it. -/
theorem templateInstance? (has : program.HasTemplates) {template symbol : SymbolId}
    {arguments : List TemplateArgument} {kind : SymbolKind} {instanceType : Specialization → Ty}
    (links : ∀ specialization, (instanceType specialization).specialization? = some specialization)
    (names : program.templateInstance? template arguments kind instanceType =
      some (symbol, after)) : after.HasTemplates := by
  obtain ⟨templateType, data, typed, isTemplate⟩ := exists_template_of_templateInstance? names
  rw [templateInstance?_eq isTemplate typed] at names
  split at names
  · cases names
    exact has
  · obtain ⟨parameters, found, created⟩ := Option.map_eq_some_iff.mp names
    cases created
    obtain ⟨ofTemplate, held⟩ := has templateType data isTemplate
    rw [held.primary.primaryParameters?_eq] at found
    cases found
    obtain ⟨keeps, specializes⟩ := specializes_created program
      { name := program.symbolName template, kind
        declContext := (program.entry template).declContext
        scope := (program.entry template).declContext.currentScope }
      (links { template := templateType, parameters := ofTemplate, arguments })
      (show ∀ entry, ({ entry with type := some ⟨program.types.size⟩ } : SymbolEntry).type =
        some ⟨program.types.size⟩ from fun _ => rfl)
    refine (has.kept keeps).modifyTemplate templateType (fun _ => ⟨rfl, rfl⟩)
      fun later isLater => ?_
    have same := keeps.templates templateType later isLater
    rw [isTemplate, Ty.templateType.injEq] at same
    subst same
    have heldLater := held.retained keeps.toRetains keeps.lists
    refine ⟨ofTemplate, { heldLater with instances := fun other member => ?_, nodup := ?_ }⟩
    · rcases List.mem_append.mp member with old | isNew
      · exact heldLater.instances other old
      · cases List.mem_singleton.mp isNew
        exact ⟨arguments, specializes⟩
    · have isFresh : (⟨program.symbols.size⟩ : SymbolId) ∉ data.instances := by
        intro member
        obtain ⟨_, old⟩ := held.instances _ member
        exact Nat.lt_irrefl _ old.index_lt
      rw [← List.concat_eq_append]
      exact held.nodup.concat isFresh

/-- There is an instance for whatever arguments exactly if the type of the symbol is a template. -/
theorem templateInstance?_eq_none_iff (has : program.HasTemplates) (symbol : SymbolId)
    (arguments : List TemplateArgument) (kind : SymbolKind) (instanceType : Specialization → Ty) :
    program.templateInstance? symbol arguments kind instanceType = none ↔
      ∀ type, (program.entry symbol).type = some type →
        ∀ data, program.type type ≠ .templateType data := by
  constructor
  · intro isNone type typed data isTemplate
    obtain ⟨parameters, held⟩ := has type data isTemplate
    rw [templateInstance?_eq isTemplate typed, held.primary.primaryParameters?_eq] at isNone
    cases found : program.findInstance? data arguments <;> simp [found] at isNone
  · intro noTemplate
    rw [Option.eq_none_iff_forall_ne_some]
    rintro ⟨named, later⟩ names
    obtain ⟨type, data, typed, isTemplate⟩ := exists_template_of_templateInstance? names
    exact noTemplate type typed data isTemplate

end HasTemplates

end Program

end CppTemplates
