import CppTemplates.Program.TemplateInstance
import CppTemplates.Proofs.Program.Growth

/-!
# Declared class templates and their instances

Declaring a class template leaves behind a name, a template type, a generic definition and a list
of parameters at consecutive positions.  Later declarations and instantiations retain all of that.
So an instance that is created later still finds the parameters as they were declared.
-/

namespace CppTemplates

/-- Whether a symbol is still what it was declared as. -/
structure SymbolEntry.RetainedAs (before after : SymbolEntry) : Prop where
  name : after.name = before.name
  kind : after.kind = before.kind
  declContext : after.declContext = before.declContext
  nesting : after.nesting = before.nesting
  position : after.position = before.position
  type : ∀ type, before.type = some type → after.type = some type

namespace SymbolEntry.RetainedAs

theorem refl (entry : SymbolEntry) : entry.RetainedAs entry :=
  ⟨rfl, rfl, rfl, rfl, rfl, fun _ typed => typed⟩

theorem trans {first second third : SymbolEntry} (earlier : first.RetainedAs second)
    (later : second.RetainedAs third) : first.RetainedAs third where
  name := later.name.trans earlier.name
  kind := later.kind.trans earlier.kind
  declContext := later.declContext.trans earlier.declContext
  nesting := later.nesting.trans earlier.nesting
  position := later.position.trans earlier.position
  type := fun type typed => later.type type (earlier.type type typed)

end SymbolEntry.RetainedAs

/-- Whether a type is still what it was declared as, however far it has been filled in and however
many instances and specializations it has got since. -/
def Ty.RetainedAs : Ty → Ty → Prop
  | .classType before, after =>
      ∃ data, after = .classType data ∧ data.specialization = before.specialization ∧
        data.trees = before.trees
  | .templateType before, after =>
      ∃ data, after = .templateType data ∧ data.name = before.name ∧ data.primary = before.primary
  | before, after => after = before

namespace Ty.RetainedAs

theorem refl (type : Ty) : type.RetainedAs type := by
  cases type <;> simp [Ty.RetainedAs]

theorem trans {first second third : Ty} (earlier : first.RetainedAs second)
    (later : second.RetainedAs third) : first.RetainedAs third := by
  cases first with
  | classType data =>
      obtain ⟨middle, rfl, specialization, trees⟩ := earlier
      obtain ⟨last, rfl, lastSpecialization, lastTrees⟩ := later
      exact ⟨last, rfl, lastSpecialization.trans specialization, lastTrees.trans trees⟩
  | templateType data =>
      obtain ⟨middle, rfl, name, primary⟩ := earlier
      obtain ⟨last, rfl, lastName, lastPrimary⟩ := later
      exact ⟨last, rfl, lastName.trans name, lastPrimary.trans primary⟩
  | _ =>
      cases earlier
      exact later

theorem of_keptAs {before after : Ty} (kept : before.KeptAs after) : before.RetainedAs after := by
  cases before with
  | classType data =>
      obtain ⟨later, isClass, specialization, trees, _⟩ := kept
      exact ⟨later, isClass, specialization, trees⟩
  | _ =>
      cases kept
      exact refl _

end Ty.RetainedAs

namespace Program

/-- The symbols and types of one program are in another what they were declared as. -/
structure Retains (before after : Program) : Prop where
  symbols_le : before.symbols.size ≤ after.symbols.size
  types_le : before.types.size ≤ after.types.size
  entry : ∀ id : SymbolId, id.index < before.symbols.size →
    (before.entry id).RetainedAs (after.entry id)
  type : ∀ id : TypeId, id.index < before.types.size →
    (before.type id).RetainedAs (after.type id)

namespace Retains

theorem trans {first second third : Program} (earlier : first.Retains second)
    (later : second.Retains third) : first.Retains third where
  symbols_le := Nat.le_trans earlier.symbols_le later.symbols_le
  types_le := Nat.le_trans earlier.types_le later.types_le
  entry := fun id bound =>
    (earlier.entry id bound).trans (later.entry id (Nat.lt_of_lt_of_le bound earlier.symbols_le))
  type := fun id bound =>
    (earlier.type id bound).trans (later.type id (Nat.lt_of_lt_of_le bound earlier.types_le))

variable {before after : Program}

theorem of_keepsEntities (keeps : before.KeepsEntities after) : before.Retains after where
  symbols_le := keeps.symbols_le
  types_le := keeps.types_le
  entry := by
    intro id bound
    obtain ⟨defined, _, same⟩ := keeps.entry id bound
    rw [same]
    exact ⟨rfl, rfl, rfl, rfl, rfl, fun _ typed => typed⟩
  type := fun id bound => .of_keptAs (keeps.type id bound)

theorem refl (program : Program) : program.Retains program :=
  of_keepsEntities (KeepsEntities.refl program)

theorem modifyTemplate (retains : before.Retains after) (type : TypeId)
    {change : TemplateType → TemplateType}
    (keeps : ∀ data, (change data).name = data.name ∧ (change data).primary = data.primary) :
    before.Retains (after.modifyTemplate type change) := by
  refine retains.trans ⟨Nat.le_refl _, by simp [Program.modifyTemplate], fun _ _ => .refl _, ?_⟩
  intro id bound
  unfold Program.modifyTemplate
  by_cases same : id = type
  · subst same
    rw [type_modifyType_self bound]
    cases after.type id with
    | templateType data => exact ⟨change data, rfl, keeps data⟩
    | _ => exact .refl _
  · rw [type_modifyType_of_ne same]
    exact .refl _

end Retains

namespace KeepsEntities

variable {before after : Program}

theorem newSymbol (keeps : before.KeepsEntities after) (context : DeclContext) (scope : ScopeId)
    (name : String) (kind : SymbolKind) :
    before.KeepsEntities (after.newSymbol context scope name kind).2 :=
  (keeps.addEntry _).withScopes _

theorem declareVariable (keeps : before.KeepsEntities after) (context : DeclContext)
    (name : String) (type : TypeId) (initializer : Option NodeId) :
    before.KeepsEntities (after.declareVariable context name type initializer).2 :=
  (keeps.newSymbol context context.currentScope name .variableName).modifyEntry_new
    keeps.symbols_le _

theorem declareEnumerator (keeps : before.KeepsEntities after) (context : DeclContext)
    (name : String) (type : TypeId) (value : NodeId) :
    before.KeepsEntities (after.declareEnumerator context name type value).2 :=
  (keeps.newSymbol context context.currentScope name .enumerator).modifyEntry_new
    keeps.symbols_le _

theorem declareNamespace (keeps : before.KeepsEntities after) (context : DeclContext)
    (name : String) : before.KeepsEntities (after.declareNamespace context name).2 :=
  ((keeps.newSymbol context context.currentScope name .namespaceName).withScopes _).modifyEntry_new
    keeps.symbols_le _

theorem declareParameter (keeps : before.KeepsEntities after) (context : DeclContext)
    (position : Nat) (declaration : ParameterDeclaration) :
    before.KeepsEntities (after.declareParameter context position declaration).2 :=
  (keeps.newSymbol context context.currentScope declaration.name
    declaration.symbolKind).modifyEntry_new keeps.symbols_le _

theorem declareParametersFrom (keeps : before.KeepsEntities after) (context : DeclContext)
    (position : Nat) (declarations : List ParameterDeclaration) :
    before.KeepsEntities (declareParametersFrom context position declarations after).2 := by
  induction declarations generalizing position after with
  | nil => exact keeps
  | cons declaration rest ih =>
      exact ih (keeps.declareParameter context position declaration) (position + 1)

theorem declareTemplateParameters (keeps : before.KeepsEntities after) (context : DeclContext)
    (declarations : List ParameterDeclaration) :
    before.KeepsEntities (after.declareTemplateParameters context declarations).2 :=
  (keeps.withScopes _).declareParametersFrom _ 0 declarations

/-- What a template declares after its parameters leaves the parameters alone. -/
theorem declareTemplate_of_parameters (program : Program) (context : DeclContext) (name : String)
    (declarations : List ParameterDeclaration) (kind : SymbolKind)
    (genericType : Specialization → Ty) (defined : Bool) :
    (program.declareTemplateParameters context declarations).2.KeepsEntities
      (program.declareTemplate context name declarations kind genericType defined).2 := by
  have named := (KeepsEntities.refl
    (program.declareTemplateParameters context declarations).2).newSymbol context
      context.currentScope name .templateName
  refine KeepsEntities.modifyEntry_new (KeepsEntities.newType
    (KeepsEntities.modifyEntry_new ((named.addEntry _).newType _) ?_ _) _) ?_ _
  · exact Nat.le_refl _
  · exact named.symbols_le

theorem declareTemplate (keeps : before.KeepsEntities after) (context : DeclContext)
    (name : String) (declarations : List ParameterDeclaration) (kind : SymbolKind)
    (genericType : Specialization → Ty) (defined : Bool) :
    before.KeepsEntities
      (after.declareTemplate context name declarations kind genericType defined).2 :=
  (keeps.declareTemplateParameters context declarations).trans
    (declareTemplate_of_parameters after context name declarations kind genericType defined)

end KeepsEntities

/-- Creates an instance of a template under one of its names. -/
def createInstance (program : Program) (symbol : SymbolId) (symbolKind : SymbolKind)
    (templateType : TypeId) (instanceType : Ty) : SymbolId × Program :=
  let (id, created) := program.newUnscopedSymbol (program.entry symbol).declContext
    (program.symbolName symbol) symbolKind
  let (type, created) := created.newType instanceType
  let created := created.modifyEntry id fun entry => { entry with type := some type }
  (id, created.modifyTemplate templateType fun data =>
    { data with instances := data.instances ++ [id] })

theorem templateInstance?_cases {program requested : Program} {template entry : SymbolId}
    {arguments : List TemplateArgument} {kind : SymbolKind} {instanceType : Specialization → Ty}
    (names : program.templateInstance? template arguments kind instanceType =
      some (entry, requested)) :
    ∃ templateType data, program.templateTypeOf? template = some templateType ∧
      program.templateData? templateType = some data ∧
      (program.findInstance? data arguments = some entry ∧ requested = program ∨
        ∃ parameters, program.createInstance template kind templateType
          (instanceType { template := templateType, parameters, arguments }) =
            (entry, requested)) := by
  unfold templateInstance? at names
  obtain ⟨templateType, ofType, names⟩ := Option.bind_eq_some_iff.mp names
  obtain ⟨data, ofData, names⟩ := Option.bind_eq_some_iff.mp names
  refine ⟨templateType, data, ofType, ofData, ?_⟩
  split at names
  case h_1 existing found =>
    cases names
    exact .inl ⟨found, rfl⟩
  case h_2 =>
    obtain ⟨parameters, -, created⟩ := Option.bind_eq_some_iff.mp names
    exact .inr ⟨parameters, Option.some.inj created⟩

theorem retains_of_templateInstance? {program requested : Program} {template entry : SymbolId}
    {arguments : List TemplateArgument} {kind : SymbolKind} {instanceType : Specialization → Ty}
    (creates : program.templateInstance? template arguments kind instanceType =
      some (entry, requested)) : program.Retains requested := by
  obtain ⟨templateType, data, -, -, ⟨-, rfl⟩ | ⟨parameters, created⟩⟩ :=
    templateInstance?_cases creates
  · exact Retains.refl _
  · cases created
    have keeps := ((KeepsEntities.refl program).addEntry
      { name := program.symbolName template, kind
        declContext := (program.entry template).declContext
        scope := (program.entry template).declContext.currentScope }).newType
          (instanceType { template := templateType, parameters, arguments })
    exact (Retains.of_keepsEntities (keeps.modifyEntry_new (Nat.le_refl _) _)).modifyTemplate _
      fun _ => ⟨rfl, rfl⟩

theorem retains_of_declareClassSpecialization? {program declared : Program}
    {template entry : SymbolId} {declarations : List ParameterDeclaration}
    {arguments : List TemplateArgument} {trees : InstantiationTrees}
    (declares : program.declareClassSpecialization? template declarations arguments trees =
      some (entry, declared)) : program.Retains declared := by
  unfold declareClassSpecialization? at declares
  obtain ⟨templateType, _, declares⟩ := Option.bind_eq_some_iff.mp declares
  cases declares
  have parameters := (KeepsEntities.refl program).declareTemplateParameters
    (if declarations.isEmpty then
      { (program.entry template).declContext with
        flags :=
          { (program.entry template).declContext.flags with explicitSpecialization := true } }
    else
      (program.entry template).declContext) declarations
  exact (Retains.of_keepsEntities (((parameters.addEntry _).newType _).modifyEntry_new
    parameters.symbols_le _)).modifyTemplate _ fun _ => ⟨rfl, rfl⟩

/-- The steps by which an analyzer adds to a program: it makes types, declares names, names
instances and records bases. -/
inductive Enlarges (program : Program) : Program → Prop
  | ofType (added : Ty) : program.Enlarges (program.newType added).2
  | ofVariable (context : DeclContext) (name : String) (type : TypeId)
      (initializer : Option NodeId) :
      program.Enlarges (program.declareVariable context name type initializer).2
  | ofEnumerator (context : DeclContext) (name : String) (type : TypeId) (value : NodeId) :
      program.Enlarges (program.declareEnumerator context name type value).2
  | ofNamespace (context : DeclContext) (name : String) :
      program.Enlarges (program.declareNamespace context name).2
  | ofTemplate (context : DeclContext) (name : String)
      (declarations : List ParameterDeclaration) (kind : SymbolKind)
      (genericType : Specialization → Ty) (defined : Bool) :
      program.Enlarges
        (program.declareTemplate context name declarations kind genericType defined).2
  | ofSpecialization {template symbol : SymbolId} {declarations : List ParameterDeclaration}
      {arguments : List TemplateArgument} {trees : InstantiationTrees} {after : Program}
      (declares : program.declareClassSpecialization? template declarations arguments trees =
        some (symbol, after)) : program.Enlarges after
  | ofInstance {template symbol : SymbolId} {arguments : List TemplateArgument}
      {kind : SymbolKind} {instanceType : Specialization → Ty} {after : Program}
      (names : program.templateInstance? template arguments kind instanceType =
        some (symbol, after)) : program.Enlarges after
  | ofBase (classType base : TypeId) :
      program.Enlarges
        (program.modifyClass classType fun data => { data with bases := data.bases ++ [base] })

theorem Enlarges.retains {program after : Program} (enlarges : program.Enlarges after) :
    program.Retains after := by
  have same := KeepsEntities.refl program
  cases enlarges with
  | ofType added => exact .of_keepsEntities (same.newType added)
  | ofVariable context name type initializer =>
      exact .of_keepsEntities (same.declareVariable context name type initializer)
  | ofEnumerator context name type value =>
      exact .of_keepsEntities (same.declareEnumerator context name type value)
  | ofNamespace context name => exact .of_keepsEntities (same.declareNamespace context name)
  | ofTemplate context name declarations kind genericType defined =>
      exact .of_keepsEntities
        (same.declareTemplate context name declarations kind genericType defined)
  | ofSpecialization declares => exact retains_of_declareClassSpecialization? declares
  | ofInstance names => exact retains_of_templateInstance? names
  | ofBase classType base =>
      apply Retains.of_keepsEntities
      apply same.modifyClass
      intro data _
      exact ⟨_, rfl, rfl, rfl, fun _ recorded => recorded⟩

/-- Parameters stand in the program as they were declared, at consecutive positions of one list. -/
inductive ParametersDeclared (program : Program) (nesting : Nat) :
    Nat → List TemplateParameter → List ParameterDeclaration → Prop where
  | nil {position : Nat} : ParametersDeclared program nesting position [] []
  | cons {position : Nat} {parameter : TemplateParameter} {parameters : List TemplateParameter}
      {declaration : ParameterDeclaration} {declarations : List ParameterDeclaration}
      (bound : parameter.entry.index < program.symbols.size)
      (kind : parameter.kind = declaration.kind)
      (name : (program.entry parameter.entry).name = declaration.name)
      (inList : (program.entry parameter.entry).nesting = nesting)
      (atPosition : (program.entry parameter.entry).position = position)
      (rest : ParametersDeclared program nesting (position + 1) parameters declarations) :
      ParametersDeclared program nesting position (parameter :: parameters)
        (declaration :: declarations)

theorem ParametersDeclared.retained {before after : Program} (retains : before.Retains after)
    {nesting position : Nat} {parameters : List TemplateParameter}
    {declarations : List ParameterDeclaration}
    (declared : before.ParametersDeclared nesting position parameters declarations) :
    after.ParametersDeclared nesting position parameters declarations := by
  induction declared with
  | nil => exact .nil
  | cons bound kind name inList atPosition _ ih =>
      have entry := retains.entry _ bound
      exact .cons (Nat.lt_of_lt_of_le bound retains.symbols_le) kind (entry.name.trans name)
        (entry.nesting.trans inList) (entry.position.trans atPosition) ih

theorem parametersDeclared_declareParametersFrom (program : Program) (context : DeclContext)
    (position : Nat) (declarations : List ParameterDeclaration) :
    (declareParametersFrom context position declarations program).2.ParametersDeclared
      context.templateNesting position
      (declareParametersFrom context position declarations program).1 declarations := by
  induction declarations generalizing position program with
  | nil => exact .nil
  | cons declaration rest ih =>
      have isLast : (program.newSymbol context context.currentScope declaration.name
          declaration.symbolKind).1.index <
          (program.newSymbol context context.currentScope declaration.name
            declaration.symbolKind).2.symbols.size := by
        simp [newSymbol, signIn, addEntry]
      have entry : (program.declareParameter context position declaration).2.entry
          (program.declareParameter context position declaration).1 =
          { name := declaration.name, kind := declaration.symbolKind, type := declaration.valueType
            declContext := context, scope := context.currentScope
            nesting := context.templateNesting, position } := by
        unfold declareParameter
        rw [entry_modifyEntry_self isLast]
        simp [newSymbol]
      have bound : (program.declareParameter context position declaration).1.index <
          (program.declareParameter context position declaration).2.symbols.size := by
        simpa [declareParameter] using isLast
      have keeps := (KeepsEntities.refl
        (program.declareParameter context position declaration).2).declareParametersFrom
          context (position + 1) rest
      have retained := (Retains.of_keepsEntities keeps).entry _ bound
      rw [entry] at retained
      exact .cons (Nat.lt_of_lt_of_le bound keeps.symbols_le) rfl retained.name retained.nesting
        retained.position (ih (program.declareParameter context position declaration).2
          (position + 1))

theorem parametersDeclared_declareTemplateParameters (program : Program) (context : DeclContext)
    (declarations : List ParameterDeclaration) :
    (program.declareTemplateParameters context declarations).2.ParametersDeclared
      (context.templateNesting + 1) 0 (program.declareTemplateParameters context declarations).1.2
      declarations :=
  parametersDeclared_declareParametersFrom _ _ 0 declarations

/-- What a class template is made of: its template type, its generic definition and its
parameters. -/
structure IsClassTemplate (program : Program) (declarations : List ParameterDeclaration)
    (trees : InstantiationTrees) (templateType : TypeId) (primary : SymbolId)
    (parameters : List TemplateParameter) : Prop where
  names : ∃ data, program.type templateType = .templateType data ∧ data.primary = primary
  defines : ∃ primaryType data specialization,
    (program.entry primary).type = some primaryType ∧
      program.type primaryType = .classType data ∧ data.trees = trees ∧
      data.specialization = some specialization ∧ specialization.parameters = parameters
  lists : ∃ nesting, program.ParametersDeclared nesting 0 parameters declarations

theorem IsClassTemplate.retained {before after : Program} (retains : before.Retains after)
    {declarations : List ParameterDeclaration} {trees : InstantiationTrees}
    {templateType : TypeId} {primary : SymbolId} {parameters : List TemplateParameter}
    (isTemplate : before.IsClassTemplate declarations trees templateType primary parameters) :
    after.IsClassTemplate declarations trees templateType primary parameters where
  names := by
    obtain ⟨data, atType, isPrimary⟩ := isTemplate.names
    have retained := retains.type templateType
      (index_lt_of_type_ne_default (by rw [atType]; intro same; cases same))
    rw [atType] at retained
    obtain ⟨later, atTypeLater, _, samePrimary⟩ := retained
    exact ⟨later, atTypeLater, samePrimary.trans isPrimary⟩
  defines := by
    obtain ⟨primaryType, data, specialization, typed, atType, ofTrees, special, ofParameters⟩ :=
      isTemplate.defines
    have retained := retains.type primaryType
      (index_lt_of_type_ne_default (by rw [atType]; intro same; cases same))
    rw [atType] at retained
    obtain ⟨later, atTypeLater, sameSpecialization, sameTrees⟩ := retained
    exact ⟨primaryType, later, specialization,
      (retains.entry primary (index_lt_of_entryType typed)).type primaryType typed, atTypeLater,
      sameTrees.trans ofTrees, sameSpecialization.trans special, ofParameters⟩
  lists := by
    obtain ⟨nesting, declared⟩ := isTemplate.lists
    exact ⟨nesting, declared.retained retains⟩

/-- What a declared template adds to the program with its parameters: the symbol of its name, its
generic definition, and their types. -/
theorem declareTemplate_spec {program : Program} {context : DeclContext}
    {declarations : List ParameterDeclaration} {inner : DeclContext}
    {parameters : List TemplateParameter} {opened : Program}
    (opens : program.declareTemplateParameters context declarations =
      ((inner, parameters), opened)) (name : String) (kind : SymbolKind)
    (genericType : Specialization → Ty) (defined : Bool) {template : SymbolId}
    {declared : Program}
    (declares : program.declareTemplate context name declarations kind genericType defined =
      (template, declared)) :
    ∃ primary,
      declared.entry template =
        { name, kind := .templateName, type := some ⟨opened.types.size⟩, declContext := context,
          scope := context.currentScope } ∧
      declared.entry primary =
        { name, kind, type := some ⟨opened.types.size + 1⟩, declContext := inner,
          scope := inner.currentScope, defined } ∧
      declared.type ⟨opened.types.size⟩ = .templateType { name := template, primary } ∧
      declared.type ⟨opened.types.size + 1⟩ =
        genericType { template := ⟨opened.types.size⟩, parameters } ∧
      (∀ id : TypeId, id.index < opened.types.size → declared.type id = opened.type id) ∧
      declared.types.size = opened.types.size + 2 := by
  unfold declareTemplate at declares
  rw [opens] at declares
  obtain ⟨rfl, rfl⟩ := Prod.mk.inj declares
  -- The two symbols and two types, in the order of their creation.
  let named := opened.newSymbol context context.currentScope name .templateName
  let generic := named.2.newUnscopedSymbol inner name kind
  let template := generic.2.newType (.templateType { name := named.1, primary := generic.1 })
  let typed := template.2.modifyEntry named.1 fun entry => { entry with type := some template.1 }
  let definition := typed.newType (genericType { template := template.1, parameters })
  have namedSize : named.2.symbols.size = opened.symbols.size + 1 := size_addEntry _
  have genericSize : generic.2.symbols.size = named.2.symbols.size + 1 := size_addEntry _
  have definitionSize : definition.2.symbols.size = generic.2.symbols.size := size_modifyEntry _ _
  have namedBound : named.1.index < named.2.symbols.size := namedSize ▸ Nat.lt_succ_self _
  have genericBound : generic.1.index < generic.2.symbols.size := genericSize ▸ Nat.lt_succ_self _
  have different : named.1 ≠ generic.1 := fun same =>
    Nat.lt_irrefl _ (Nat.lt_of_lt_of_eq namedBound (congrArg SymbolId.index same).symm)
  have templateBound : template.1.index < typed.types.size := by
    simp [typed, template, newType, modifyEntry]
  have definitionIndex : definition.1 = ⟨opened.types.size + 1⟩ := by
    simp [definition, newType, typed, template, modifyEntry, generic, newUnscopedSymbol,
      addEntry, named, newSymbol, signIn]
  refine ⟨generic.1, ?name, ?primary, ?templateType, ?genericType, ?others, ?size⟩
  case name =>
    calc (definition.2.modifyEntry generic.1 _).entry named.1
      _ = definition.2.entry named.1 := entry_modifyEntry_of_ne different _
      _ = { generic.2.entry named.1 with type := some template.1 } :=
        @entry_modifyEntry_self template.2 _
          (Nat.lt_trans namedBound (genericSize ▸ Nat.lt_succ_self _)) _
      _ = { named.2.entry named.1 with type := some template.1 } := by
        rw [show generic.2.entry named.1 = _ from entry_addEntry_of_lt namedBound _]
      _ = _ := by
        rw [show named.2.entry named.1 = _ from entry_addEntry_self _]
        rfl
  case primary =>
    calc (definition.2.modifyEntry generic.1 _).entry generic.1
      _ = { definition.2.entry generic.1 with type := some definition.1, defined } :=
        entry_modifyEntry_self (definitionSize ▸ genericBound) _
      _ = { generic.2.entry generic.1 with type := some definition.1, defined } := by
        rw [show definition.2.entry generic.1 = _ from entry_modifyEntry_of_ne different.symm _]
        rfl
      _ = _ := by
        rw [show generic.2.entry generic.1 = _ from entry_addEntry_self _, definitionIndex]
  case templateType =>
    exact (type_newType_of_lt templateBound _).trans (type_newType_self _)
  case genericType =>
    exact definitionIndex ▸ @type_newType_self typed _
  case others =>
    exact fun id older => (type_newType_of_lt (Nat.lt_trans older templateBound) _).trans
      (type_newType_of_lt older _)
  case size =>
    simp [modifyEntry, signIn]

/-- A declared class template is one, under the name and with the parameters and trees that were
declared. -/
theorem isClassTemplate_of_declareClassTemplate {start declared : Program}
    {context : DeclContext} {name : String} {declarations : List ParameterDeclaration}
    {trees : InstantiationTrees} {template : SymbolId}
    (declares : start.declareClassTemplate context name declarations trees =
      (template, declared)) :
    ∃ templateType primary parameters,
      (declared.entry template).name = name ∧
        (declared.entry template).type = some templateType ∧
        declared.IsClassTemplate declarations trees templateType primary parameters := by
  obtain ⟨⟨⟨inner, parameters⟩, opened⟩, opens⟩ :
      ∃ opened, start.declareTemplateParameters context declarations = opened := ⟨_, rfl⟩
  have listed := parametersDeclared_declareTemplateParameters start context declarations
  have keeps := KeepsEntities.declareTemplate_of_parameters start context name declarations
    .className (fun specialization => .classType
      { completeness := .completeDependent, specialization := some specialization, trees }) true
  unfold declareClassTemplate at declares
  rw [declares, opens] at keeps
  rw [opens] at listed
  obtain ⟨primary, atName, atPrimary, atTemplate, atGeneric, -⟩ :=
    declareTemplate_spec opens name _ _ _ declares
  exact ⟨⟨opened.types.size⟩, primary, parameters, by rw [atName], by rw [atName],
    ⟨⟨_, atTemplate, rfl⟩,
      ⟨_, _, { template := ⟨opened.types.size⟩, parameters }, by rw [atPrimary], atGeneric, rfl,
        rfl, rfl⟩,
      ⟨_, listed.retained (Retains.of_keepsEntities keeps)⟩⟩⟩

/-- What an instance of a class template is: a class that is linked to the template and to the
arguments that it was requested with. -/
structure IsInstance (program : Program) (name : String) (arguments : List TemplateArgument)
    (templateType : TypeId) (entry : SymbolId) (classType : TypeId) : Prop where
  kind : (program.entry entry).kind = .className
  symbolName : (program.entry entry).name = name
  typed : (program.entry entry).type = some classType
  special : ∃ data specialization, program.type classType = .classType data ∧
    data.specialization = some specialization ∧ specialization.template = templateType ∧
      specialization.arguments = arguments

theorem IsInstance.retained {before after : Program} (retains : before.Retains after)
    {name : String} {arguments : List TemplateArgument} {templateType classType : TypeId}
    {entry : SymbolId}
    (isInstance : before.IsInstance name arguments templateType entry classType) :
    after.IsInstance name arguments templateType entry classType := by
  have kept := retains.entry entry (index_lt_of_entryType isInstance.typed)
  refine ⟨kept.kind.trans isInstance.kind, kept.name.trans isInstance.symbolName,
    kept.type classType isInstance.typed, ?_⟩
  obtain ⟨data, specialization, atType, special, ofTemplate, ofArguments⟩ := isInstance.special
  have retained := retains.type classType
    (index_lt_of_type_ne_default (by rw [atType]; intro same; cases same))
  rw [atType] at retained
  obtain ⟨later, atTypeLater, sameSpecialization, _⟩ := retained
  exact ⟨later, specialization, atTypeLater, sameSpecialization.trans special, ofTemplate,
    ofArguments⟩

/-- Whether nothing of a class has been filled in. -/
def IsUnfilled (program : Program) (classType : TypeId) : Prop :=
  ∃ data, program.type classType = .classType data ∧
    data.completeness = .incompleteIndependent ∧ data.innerContext = none

theorem createInstance_spec (program : Program) (symbol : SymbolId) (symbolKind : SymbolKind)
    (templateType : TypeId) (instanceType : Ty) :
    (program.createInstance symbol symbolKind templateType instanceType).1 =
        ⟨program.symbols.size⟩ ∧
      (program.createInstance symbol symbolKind templateType instanceType).2.symbols.size =
        program.symbols.size + 1 ∧
      (program.createInstance symbol symbolKind templateType instanceType).2.entry
          ⟨program.symbols.size⟩ =
        { name := program.symbolName symbol
          kind := symbolKind
          declContext := (program.entry symbol).declContext
          scope := (program.entry symbol).declContext.currentScope
          type := some ⟨program.types.size⟩ } := by
  let listed := program.newUnscopedSymbol (program.entry symbol).declContext
    (program.symbolName symbol) symbolKind
  let typed := listed.2.newType instanceType
  have size : typed.2.symbols.size = program.symbols.size + 1 := size_addEntry _
  have atNew : typed.2.entry listed.1 = _ := entry_addEntry_self _
  refine ⟨rfl, (size_modifyEntry _ _).trans size, ?_⟩
  calc (typed.2.modifyEntry listed.1 fun entry => { entry with type := some typed.1 }).entry
          listed.1
    _ = { typed.2.entry listed.1 with type := some typed.1 } :=
      entry_modifyEntry_self (by rw [size]; exact Nat.lt_succ_self _) _
    _ = _ := by
      rw [atNew]
      rfl

theorem type_createInstance {program : Program} {templateType : TypeId}
    (bound : templateType.index < program.types.size) (symbol : SymbolId)
    (symbolKind : SymbolKind) (instanceType : Ty) :
    (program.createInstance symbol symbolKind templateType instanceType).2.type
      ⟨program.types.size⟩ = instanceType := by
  have notTemplate : (⟨program.types.size⟩ : TypeId) ≠ templateType := by
    rintro rfl
    exact Nat.lt_irrefl _ bound
  unfold createInstance modifyTemplate
  rw [type_modifyType_of_ne notTemplate]
  exact type_newType_self _

/-- A request that finds an instance returns it.  Any other request creates one under the name that
it uses, if the template has a generic definition. -/
theorem templateInstance?_eq {program : Program} {templateType : TypeId} {data : TemplateType}
    {symbol : SymbolId} {arguments : List TemplateArgument}
    (isTemplate : program.type templateType = .templateType data)
    (names : (program.entry symbol).type = some templateType) (symbolKind : SymbolKind)
    (instanceType : Specialization → Ty) :
    program.templateInstance? symbol arguments symbolKind instanceType =
      match program.findInstance? data arguments with
      | some existing => some (existing, program)
      | none => (program.primaryParameters? data).map fun parameters =>
          program.createInstance symbol symbolKind templateType
            (instanceType { template := templateType, parameters, arguments }) := by
  have notTypedef : program.aliased? templateType = none := by simp [aliased?, isTemplate]
  have ofType : program.templateTypeOf? symbol = some templateType := by
    simp [templateTypeOf?, names, isTemplate]
  have ofData : program.templateData? templateType = some data := by
    simp [templateData?, stripTypedefs, followTypedefs_of_eq_none _ notTypedef, isTemplate]
  simp only [templateInstance?, ofType, ofData, Option.bind_eq_bind, Option.bind_some]
  cases program.findInstance? data arguments with
  | some existing => rfl
  | none =>
      cases program.primaryParameters? data with
      | none => rfl
      | some parameters => rfl

/-- An instance that had to be created is one of the template for the given arguments, and nothing
of it is filled in. -/
theorem isInstance_of_classInstance? {current requested : Program}
    {declarations : List ParameterDeclaration} {trees : InstantiationTrees} {template : SymbolId}
    {templateType : TypeId} {primary : SymbolId} {parameters : List TemplateParameter}
    (typed : (current.entry template).type = some templateType)
    (isTemplate : current.IsClassTemplate declarations trees templateType primary parameters)
    {arguments : List TemplateArgument} {entry : SymbolId}
    (creates : current.classInstance? template arguments = some (entry, requested))
    (isNew : current.symbols.size ≤ entry.index) :
    ∃ classType,
      requested.IsInstance (current.symbolName template) arguments templateType entry classType ∧
        requested.IsUnfilled classType := by
  obtain ⟨data, atTemplate, isPrimary⟩ := isTemplate.names
  rw [classInstance?, templateInstance?_eq atTemplate typed] at creates
  split at creates
  · -- An instance that is found is a symbol of the program, so it is not new.
    rename_i existing found
    cases creates
    have known := List.find?_some found
    obtain ⟨type, hasType⟩ : ∃ type, (current.entry entry).type = some type := by
      cases hasType : (current.entry entry).type with
      | none => simp [argumentsOf?, hasType] at known
      | some type => exact ⟨type, rfl⟩
    have := index_lt_of_entryType hasType
    omega
  · obtain ⟨listed, -, created⟩ := Option.map_eq_some_iff.mp creates
    let specialization : Specialization :=
      { template := templateType, parameters := listed, arguments }
    have templateBound : templateType.index < current.types.size :=
      index_lt_of_type_ne_default (by rw [atTemplate]; intro same; cases same)
    obtain ⟨isEntry, -, atEntry⟩ := current.createInstance_spec template .className templateType
      (.classType { specialization := some specialization })
    have atType := type_createInstance templateBound template .className
      (.classType { specialization := some specialization })
    rw [created] at isEntry atEntry atType
    dsimp only at isEntry atEntry atType
    rw [← isEntry] at atEntry
    refine ⟨⟨current.types.size⟩, ⟨?_, ?_, ?_, ?_⟩, _, atType, rfl, rfl⟩
    · rw [atEntry]
    · rw [atEntry]
    · rw [atEntry]
    · exact ⟨_, specialization, atType, rfl, rfl, rfl⟩

/-- A class that was created as an instance of a class template and has not been filled in since.
It may have been requested through any symbol of the template's type, such as a template argument,
and bears the name of that symbol.  In the meantime anything may have been declared. -/
inductive FreshInstance (name : String) (declarations : List ParameterDeclaration)
    (arguments : List TemplateArgument) (program : Program) (entry : SymbolId) : Prop where
  | intro {start declared current requested : Program} {context : DeclContext}
      {templateName : String} {trees : InstantiationTrees} {template symbol : SymbolId}
      (declares : start.declareClassTemplate context templateName declarations trees =
        (template, declared))
      (later : declared.Retains current)
      (names : (current.entry symbol).type = (current.entry template).type)
      (called : current.symbolName symbol = name)
      (creates : current.classInstance? symbol arguments = some (entry, requested))
      (isNew : current.symbols.size ≤ entry.index)
      (since : requested.Retains program)
      (unfilled : ∀ type, (program.entry entry).type = some type → program.IsUnfilled type)

namespace FreshInstance

/-- A fresh instance leads to its template, the template's parameters and its own arguments. -/
theorem facts {name : String} {declarations : List ParameterDeclaration}
    {arguments : List TemplateArgument} {program : Program} {entry : SymbolId}
    (fresh : FreshInstance name declarations arguments program entry) :
    ∃ templateType primary parameters trees classType,
      program.IsClassTemplate declarations trees templateType primary parameters ∧
        program.IsInstance name arguments templateType entry classType ∧
        program.IsUnfilled classType := by
  obtain ⟨declares, later, names, called, creates, isNew, since, unfilled⟩ := fresh
  obtain ⟨templateType, primary, parameters, _, typed, isTemplate⟩ :=
    isClassTemplate_of_declareClassTemplate declares
  have kept := later.entry _ (index_lt_of_entryType typed)
  obtain ⟨classType, isInstance, _⟩ := isInstance_of_classInstance?
    (names.trans (kept.type templateType typed)) (isTemplate.retained later) creates isNew
  rw [called] at isInstance
  have isInstanceLater := isInstance.retained since
  exact ⟨templateType, primary, parameters, _, classType,
    isTemplate.retained ((later.trans (retains_of_templateInstance? creates)).trans since),
    isInstanceLater, unfilled classType isInstanceLater.typed⟩

/-- An instance is fresh right after its creation. -/
theorem of_created {name templateName : String} {declarations : List ParameterDeclaration}
    {arguments : List TemplateArgument} {entry template symbol : SymbolId}
    {start declared current requested : Program} {context : DeclContext}
    {trees : InstantiationTrees}
    (declares : start.declareClassTemplate context templateName declarations trees =
      (template, declared))
    (later : declared.Retains current)
    (names : (current.entry symbol).type = (current.entry template).type)
    (called : current.symbolName symbol = name)
    (creates : current.classInstance? symbol arguments = some (entry, requested))
    (isNew : current.symbols.size ≤ entry.index) :
    FreshInstance name declarations arguments requested entry := by
  refine .intro declares later names called creates isNew (Retains.refl requested) ?_
  intro type hasType
  obtain ⟨templateType, primary, parameters, _, typed, isTemplate⟩ :=
    isClassTemplate_of_declareClassTemplate declares
  have kept := later.entry _ (index_lt_of_entryType typed)
  obtain ⟨classType, isInstance, unfilled⟩ := isInstance_of_classInstance?
    (names.trans (kept.type templateType typed)) (isTemplate.retained later) creates isNew
  rw [isInstance.typed] at hasType
  cases hasType
  exact unfilled

end FreshInstance

end Program

end CppTemplates
