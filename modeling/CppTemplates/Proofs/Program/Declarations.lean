import CppTemplates.Proofs.Program.ClassTemplates

/-!
# What declarations leave alone

What a symbol or a type was declared as, it stays.  So the questions about types that have been
answered are answered alike later: a class symbol remains one, and so does an instance of a
function template.  Moreover declarations change no symbol that is there already.  In particular
they define none, which is up to the instantiation of it.
-/

namespace CppTemplates

namespace Program

namespace Retains

variable {before after : Program} {type target found : TypeId} {symbol : SymbolId}

theorem entryType_eq (retains : before.Retains after)
    (hasType : (before.entry symbol).type = some type) :
    (after.entry symbol).type = some type :=
  (retains.entry symbol (index_lt_of_entryType hasType)).type type hasType

theorem retainedAs (retains : before.Retains after) (notDefault : before.type type ≠ default) :
    (before.type type).RetainedAs (after.type type) :=
  retains.type type (index_lt_of_type_ne_default notDefault)

theorem named_eq (retains : before.Retains after) (isName : before.type type = .named symbol) :
    after.type type = .named symbol := by
  have kept : (before.type type).RetainedAs (after.type type) :=
    retains.retainedAs (by rw [isName]; intro same; cases same)
  rw [isName] at kept
  exact kept

theorem typedef_eq (retains : before.Retains after)
    (isTypedef : before.type type = .typedefOf target) : after.type type = .typedefOf target := by
  have kept : (before.type type).RetainedAs (after.type type) :=
    retains.retainedAs (by rw [isTypedef]; intro same; cases same)
  rw [isTypedef] at kept
  exact kept

theorem functionType_eq (retains : before.Retains after) {data : FunctionType}
    (isFunction : before.type type = .functionType data) :
    after.type type = .functionType data := by
  have kept : (before.type type).RetainedAs (after.type type) :=
    retains.retainedAs (by rw [isFunction]; intro same; cases same)
  rw [isFunction] at kept
  exact kept

theorem classType (retains : before.Retains after) {data : ClassType}
    (isClass : before.type type = .classType data) :
    ∃ later, after.type type = .classType later ∧ later.specialization = data.specialization ∧
      later.trees = data.trees := by
  have kept : (before.type type).RetainedAs (after.type type) :=
    retains.retainedAs (by rw [isClass]; intro same; cases same)
  rw [isClass] at kept
  exact kept

theorem templateType (retains : before.Retains after) {data : TemplateType}
    (isTemplate : before.type type = .templateType data) :
    ∃ later, after.type type = .templateType later ∧ later.name = data.name ∧
      later.primary = data.primary := by
  have kept : (before.type type).RetainedAs (after.type type) :=
    retains.retainedAs (by rw [isTemplate]; intro same; cases same)
  rw [isTemplate] at kept
  exact kept

theorem aliased?_eq_some (retains : before.Retains after)
    (aliases : before.aliased? type = some target) : after.aliased? type = some target := by
  rw [Program.aliased?_eq_some] at aliases ⊢
  rcases aliases with isTypedef | ⟨symbol, isName, ofKind, named⟩
  · exact .inl (retains.typedef_eq isTypedef)
  · right
    refine ⟨symbol, retains.named_eq isName, ?_, retains.entryType_eq named⟩
    rw [(retains.entry symbol (index_lt_of_entryType named)).kind, ofKind]

theorem stripTypedefs_eq (retains : before.Retains after)
    (stops : after.aliased? (before.stripTypedefs type) = none) :
    after.stripTypedefs type = before.stripTypedefs type :=
  followTypedefs_eq_of_aliased? (fun _ _ => retains.aliased?_eq_some) retains.types_le stops

theorem directClass?_eq_some (retains : before.Retains after)
    (direct : before.directClass? type = some found) : after.directClass? type = some found := by
  rw [Program.directClass?_eq_some] at direct ⊢
  obtain ⟨⟨data, isClass⟩, rfl | ⟨symbol, isName, named⟩⟩ := direct
  · obtain ⟨later, isClassLater, _⟩ := retains.classType isClass
    exact ⟨⟨later, isClassLater⟩, .inl rfl⟩
  · obtain ⟨later, isClassLater, _⟩ := retains.classType isClass
    exact ⟨⟨later, isClassLater⟩,
      .inr ⟨symbol, retains.named_eq isName, retains.entryType_eq named⟩⟩

theorem actualClass?_eq_some (retains : before.Retains after)
    (actual : before.actualClass? type = some found) : after.actualClass? type = some found :=
  directClass?_followTypedefs_of_aliased? (fun _ _ => retains.aliased?_eq_some)
    (fun _ _ => retains.directClass?_eq_some) retains.types_le actual

theorem functionData?_eq_some (retains : before.Retains after) {data : FunctionType}
    (isFunction : before.functionData? type = some data) :
    after.functionData? type = some data := by
  unfold functionData? at isFunction
  split at isFunction
  case h_2 => cases isFunction
  case h_1 stripped =>
    cases isFunction
    have strippedLater := retains.functionType_eq stripped
    rw [functionData?, retains.stripTypedefs_eq (by simp [aliased?, strippedLater]),
      strippedLater]

theorem templateData?_eq_some (retains : before.Retains after) {data : TemplateType}
    (isTemplate : before.templateData? type = some data) :
    ∃ later, after.templateData? type = some later ∧ later.name = data.name ∧
      later.primary = data.primary := by
  unfold templateData? at isTemplate
  split at isTemplate
  case h_2 => cases isTemplate
  case h_1 stripped =>
    cases isTemplate
    obtain ⟨later, strippedLater, kept⟩ := retains.templateType stripped
    refine ⟨later, ?_, kept⟩
    rw [templateData?, retains.stripTypedefs_eq (by simp [aliased?, strippedLater]),
      strippedLater]

end Retains

/-- A symbol is a function, as far as its type tells. -/
def IsFunction (program : Program) (symbol : SymbolId) : Prop :=
  ∃ type data, (program.entry symbol).type = some type ∧ program.functionData? type = some data

/-- A symbol is an instance of a function template whose generic definition is `primary`. -/
def Instantiates (program : Program) (symbol primary : SymbolId) : Prop :=
  ∃ type data specialization template, (program.entry symbol).type = some type ∧
    program.functionData? type = some data ∧ data.specialization = some specialization ∧
      program.templateData? specialization.template = some template ∧ template.primary = primary

/-- An instance of a function template could be built: the template is defined and the instance is
not. -/
structure Awaits (program : Program) (symbol primary : SymbolId) : Prop where
  ofKind : (program.entry symbol).kind = .function
  instantiates : program.Instantiates symbol primary
  primaryDefined : (program.entry primary).defined = true
  undefined : (program.entry symbol).defined = false

variable {before after : Program} {symbol primary : SymbolId}

theorem Awaits.other (awaits : before.Awaits symbol primary) : symbol ≠ primary := by
  intro same
  have undefined := awaits.undefined
  rw [same, awaits.primaryDefined] at undefined
  cases undefined

theorem Instantiates.index_lt (instantiates : before.Instantiates symbol primary) :
    symbol.index < before.symbols.size := by
  obtain ⟨type, _, _, _, typed, _⟩ := instantiates
  exact index_lt_of_entryType typed

theorem Instantiates.isFunction (instantiates : before.Instantiates symbol primary) :
    before.IsFunction symbol := by
  obtain ⟨type, data, _, _, typed, isFunction, _⟩ := instantiates
  exact ⟨type, data, typed, isFunction⟩

theorem Instantiates.retained (instantiates : before.Instantiates symbol primary)
    (retains : before.Retains after) : after.Instantiates symbol primary := by
  obtain ⟨type, data, specialization, template, typed, isFunction, special, isTemplate, rfl⟩ :=
    instantiates
  obtain ⟨later, isTemplateLater, _, samePrimary⟩ := retains.templateData?_eq_some isTemplate
  exact ⟨type, data, specialization, later, retains.entryType_eq typed,
    retains.functionData?_eq_some isFunction, special, isTemplateLater, samePrimary⟩

/-- A symbol is a class or names one, as far as its type tells. -/
def NamesClass (program : Program) (symbol : SymbolId) : Prop :=
  ∃ type classType, (program.entry symbol).type = some type ∧
    program.actualClass? type = some classType

theorem NamesClass.retained (names : before.NamesClass symbol) (retains : before.Retains after) :
    after.NamesClass symbol := by
  obtain ⟨type, classType, typed, actual⟩ := names
  exact ⟨type, classType, retains.entryType_eq typed, retains.actualClass?_eq_some actual⟩

/-- No function is a class. -/
theorem IsFunction.not_namesClass (isFunction : before.IsFunction symbol) :
    ¬before.NamesClass symbol := by
  rintro ⟨type, classType, typed, actual⟩
  obtain ⟨own, data, typedOwn, isFunction⟩ := isFunction
  rw [typed, Option.some.injEq] at typedOwn
  subst typedOwn
  unfold functionData? at isFunction
  split at isFunction
  case h_2 => cases isFunction
  case h_1 stripped => simp [actualClass?, stripped] at actual

/-- No symbol of one program has changed in another. -/
structure KeepsSymbols (before after : Program) : Prop where
  size_le : before.symbols.size ≤ after.symbols.size
  entry : ∀ id : SymbolId, id.index < before.symbols.size → after.entry id = before.entry id

namespace KeepsSymbols

theorem refl (program : Program) : program.KeepsSymbols program :=
  ⟨Nat.le_refl _, fun _ _ => rfl⟩

theorem trans {first second third : Program} (earlier : first.KeepsSymbols second)
    (later : second.KeepsSymbols third) : first.KeepsSymbols third := by
  refine ⟨Nat.le_trans earlier.size_le later.size_le, fun id bound => ?_⟩
  rw [later.entry id (Nat.lt_of_lt_of_le bound earlier.size_le), earlier.entry id bound]

theorem withScopes (keeps : before.KeepsSymbols after) (scopes : ScopeTree) :
    before.KeepsSymbols { after with scopes } :=
  ⟨keeps.size_le, keeps.entry⟩

theorem newType (keeps : before.KeepsSymbols after) (type : Ty) :
    before.KeepsSymbols (after.newType type).2 :=
  ⟨keeps.size_le, keeps.entry⟩

theorem modifyTemplate (keeps : before.KeepsSymbols after) (type : TypeId)
    (change : TemplateType → TemplateType) :
    before.KeepsSymbols (after.modifyTemplate type change) :=
  ⟨keeps.size_le, keeps.entry⟩

theorem modifyClass (keeps : before.KeepsSymbols after) (type : TypeId)
    (change : ClassType → ClassType) : before.KeepsSymbols (after.modifyClass type change) := by
  have same : (after.modifyClass type change).symbols = after.symbols :=
    (scopes_modifyClass type change).2
  refine ⟨by rw [same]; exact keeps.size_le, fun id bound => ?_⟩
  rw [Program.entry, same]
  exact keeps.entry id bound

theorem addEntry (keeps : before.KeepsSymbols after) (added : SymbolEntry) :
    before.KeepsSymbols (after.addEntry added).2 :=
  keeps.trans ⟨by simp, fun _ bound => entry_addEntry_of_lt bound added⟩

theorem modifyEntry_new (keeps : before.KeepsSymbols after)
    (isNew : before.symbols.size ≤ symbol.index) (change : SymbolEntry → SymbolEntry) :
    before.KeepsSymbols (after.modifyEntry symbol change) := by
  refine ⟨by simpa using keeps.size_le, fun id bound => ?_⟩
  have other : id ≠ symbol := by
    rintro rfl
    omega
  rw [entry_modifyEntry_of_ne other]
  exact keeps.entry id bound

theorem newSymbol (keeps : before.KeepsSymbols after) (context : DeclContext) (scope : ScopeId)
    (name : String) (kind : SymbolKind) :
    before.KeepsSymbols (after.newSymbol context scope name kind).2 :=
  (keeps.addEntry _).withScopes _

theorem declareVariable (keeps : before.KeepsSymbols after) (context : DeclContext)
    (name : String) (type : TypeId) (initializer : Option NodeId) :
    before.KeepsSymbols (after.declareVariable context name type initializer).2 :=
  (keeps.newSymbol context context.currentScope name .variableName).modifyEntry_new
    keeps.size_le _

theorem declareEnumerator (keeps : before.KeepsSymbols after) (context : DeclContext)
    (name : String) (type : TypeId) (value : NodeId) :
    before.KeepsSymbols (after.declareEnumerator context name type value).2 :=
  (keeps.newSymbol context context.currentScope name .enumerator).modifyEntry_new keeps.size_le _

theorem declareNamespace (keeps : before.KeepsSymbols after) (context : DeclContext)
    (name : String) : before.KeepsSymbols (after.declareNamespace context name).2 :=
  ((keeps.newSymbol context context.currentScope name .namespaceName).withScopes _).modifyEntry_new
    keeps.size_le _

theorem declareParameter (keeps : before.KeepsSymbols after) (context : DeclContext)
    (position : Nat) (declaration : ParameterDeclaration) :
    before.KeepsSymbols (after.declareParameter context position declaration).2 :=
  (keeps.newSymbol context context.currentScope declaration.name
    declaration.symbolKind).modifyEntry_new keeps.size_le _

theorem declareParametersFrom (keeps : before.KeepsSymbols after) (context : DeclContext)
    (position : Nat) (declarations : List ParameterDeclaration) :
    before.KeepsSymbols (declareParametersFrom context position declarations after).2 := by
  induction declarations generalizing position after with
  | nil => exact keeps
  | cons declaration rest ih =>
      exact ih (keeps.declareParameter context position declaration) (position + 1)

theorem declareTemplateParameters (keeps : before.KeepsSymbols after) (context : DeclContext)
    (declarations : List ParameterDeclaration) :
    before.KeepsSymbols (after.declareTemplateParameters context declarations).2 :=
  (keeps.withScopes _).declareParametersFrom _ 0 declarations

theorem declareTemplate (program : Program) (context : DeclContext) (name : String)
    (declarations : List ParameterDeclaration) (kind : SymbolKind)
    (genericType : Specialization → Ty) (defined : Bool) :
    program.KeepsSymbols
      (program.declareTemplate context name declarations kind genericType defined).2 := by
  have parameters := (refl program).declareTemplateParameters context declarations
  have named := parameters.newSymbol context context.currentScope name .templateName
  refine modifyEntry_new (newType (modifyEntry_new ((named.addEntry _).newType _) ?_ _) _) ?_ _
  · exact parameters.size_le
  · exact named.size_le

end KeepsSymbols

theorem keepsSymbols_of_templateInstance? {program requested : Program}
    {template entry : SymbolId} {arguments : List TemplateArgument} {kind : SymbolKind}
    {instanceType : Specialization → Ty}
    (creates : program.templateInstance? template arguments kind instanceType =
      some (entry, requested)) : program.KeepsSymbols requested := by
  obtain ⟨templateType, data, -, -, ⟨-, rfl⟩ | ⟨parameters, created⟩⟩ :=
    templateInstance?_cases creates
  · exact .refl _
  · cases created
    have created := ((KeepsSymbols.refl program).addEntry
      { name := program.symbolName template, kind
        declContext := (program.entry template).declContext
        scope := (program.entry template).declContext.currentScope }).newType
          (instanceType { template := templateType, parameters, arguments })
    exact (created.modifyEntry_new (Nat.le_refl _) _).modifyTemplate _ _

theorem keepsSymbols_of_declareClassSpecialization? {program declared : Program}
    {template entry : SymbolId} {declarations : List ParameterDeclaration}
    {arguments : List TemplateArgument} {trees : InstantiationTrees}
    (declares : program.declareClassSpecialization? template declarations arguments trees =
      some (entry, declared)) : program.KeepsSymbols declared := by
  unfold declareClassSpecialization? at declares
  obtain ⟨templateType, _, declares⟩ := Option.bind_eq_some_iff.mp declares
  cases declares
  have parameters := (KeepsSymbols.refl program).declareTemplateParameters
    (if declarations.isEmpty then
      { (program.entry template).declContext with
        flags :=
          { (program.entry template).declContext.flags with explicitSpecialization := true } }
    else
      (program.entry template).declContext) declarations
  exact (((parameters.addEntry _).newType _).modifyEntry_new parameters.size_le _).modifyTemplate
    _ _

theorem Enlarges.keepsSymbols {program after : Program} (enlarges : program.Enlarges after) :
    program.KeepsSymbols after := by
  have same := KeepsSymbols.refl program
  cases enlarges with
  | ofType added => exact same.newType added
  | ofVariable context name type initializer =>
      exact same.declareVariable context name type initializer
  | ofEnumerator context name type value => exact same.declareEnumerator context name type value
  | ofNamespace context name => exact same.declareNamespace context name
  | ofTemplate context name declarations kind genericType defined =>
      exact .declareTemplate program context name declarations kind genericType defined
  | ofSpecialization declares => exact keepsSymbols_of_declareClassSpecialization? declares
  | ofInstance names => exact keepsSymbols_of_templateInstance? names
  | ofBase classType base => exact same.modifyClass classType _

/-- What the analyzer may do to a program by itself: what is declared is retained, what is defined
stays defined, and instances of function templates are left for instantiation to define. -/
structure Declares (before after : Program) : Prop extends before.Retains after where
  defined : ∀ id, (before.entry id).defined = true → (after.entry id).defined = true
  instances : ∀ id primary, before.Instantiates id primary → id ≠ primary →
    (before.entry id).defined = false → (after.entry id).defined = false

theorem index_lt_of_defined {program : Program}
    (isDefined : (program.entry symbol).defined = true) :
    symbol.index < program.symbols.size := by
  apply index_lt_of_entry_ne_default
  intro isDefault
  rw [isDefault] at isDefined
  cases isDefined

/-- Changing no symbol is a way to define none. -/
theorem Declares.of_keepsSymbols (retains : before.Retains after)
    (keeps : before.KeepsSymbols after) : before.Declares after where
  toRetains := retains
  defined := by
    intro id isDefined
    rw [keeps.entry id (index_lt_of_defined isDefined)]
    exact isDefined
  instances := by
    rintro id primary ⟨_, _, _, _, typed, _⟩ _ undefined
    rw [keeps.entry id (index_lt_of_entryType typed)]
    exact undefined

theorem Declares.refl (program : Program) : program.Declares program :=
  .of_keepsSymbols (.refl program) (.refl program)

end Program

end CppTemplates
