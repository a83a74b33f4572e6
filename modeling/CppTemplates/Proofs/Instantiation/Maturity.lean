import CppTemplates.Proofs.Instantiation.Memoisation
import CppTemplates.Proofs.Instantiation.Sparing

/-!
# Programs that mature

How far an instance has come shows in its marks: whether its symbol is defined, whether its class is
complete, and whether the class has a context for its members.  No mark is ever taken back.  What is
declared in between sets no mark of what was there, and a new instance starts without any.
-/

namespace CppTemplates

namespace Program

variable {program before after : Program} {type : TypeId} {symbol : SymbolId}

/-- A type is a class that is complete and independent. -/
def IsComplete (program : Program) (type : TypeId) : Prop :=
  ∃ data, program.type type = .classType data ∧ data.completeness = .completeIndependent

/-- A type is a class with a context for its members. -/
def HasInner (program : Program) (type : TypeId) : Prop :=
  ∃ data, program.type type = .classType data ∧ data.innerContext ≠ none

/-- The class that a symbol stands for is complete and has a context for its members. -/
def IsFilledIn (program : Program) (symbol : SymbolId) : Prop :=
  ∃ type, program.classOf? symbol = some type ∧ program.IsComplete type ∧ program.HasInner type

def HasInstance (program : Program) (symbol : SymbolId) : Prop :=
  ∃ type data, program.type type = .templateType data ∧ symbol ∈ data.instances

theorem classOf?_eq_some :
    program.classOf? symbol = some type ↔
      ∃ own, (program.entry symbol).type = some own ∧ program.actualClass? own = some type :=
  Option.bind_eq_some_iff

theorem isClass_of_classOf? (isClass : program.classOf? symbol = some type) :
    program.IsClass type := by
  obtain ⟨own, -, actual⟩ := classOf?_eq_some.mp isClass
  exact (directClass?_eq_some.mp actual).1

theorem Retains.classOf?_eq_some (retains : before.Retains after)
    (isClass : before.classOf? symbol = some type) : after.classOf? symbol = some type := by
  obtain ⟨own, typed, actual⟩ := Program.classOf?_eq_some.mp isClass
  exact Program.classOf?_eq_some.mpr
    ⟨own, retains.entryType_eq typed, retains.actualClass?_eq_some actual⟩

theorem IsFilledIn.namesClass (isFilledIn : program.IsFilledIn symbol) :
    program.NamesClass symbol := by
  obtain ⟨type, isClass, -⟩ := isFilledIn
  obtain ⟨own, typed, actual⟩ := classOf?_eq_some.mp isClass
  exact ⟨own, type, typed, actual⟩

theorem NamesClass.index_lt (names : program.NamesClass symbol) :
    symbol.index < program.symbols.size := by
  obtain ⟨_, _, typed, _⟩ := names
  exact index_lt_of_entryType typed

theorem IsFunction.index_lt (isFunction : program.IsFunction symbol) :
    symbol.index < program.symbols.size := by
  obtain ⟨_, _, typed, _⟩ := isFunction
  exact index_lt_of_entryType typed

theorem IsFunction.retained (isFunction : before.IsFunction symbol)
    (retains : before.Retains after) : after.IsFunction symbol := by
  obtain ⟨type, data, typed, isFunction⟩ := isFunction
  exact ⟨type, data, retains.entryType_eq typed, retains.functionData?_eq_some isFunction⟩

theorem isFunction_of_functionType {data : FunctionType}
    (typed : (program.entry symbol).type = some type)
    (isFunction : program.type type = .functionType data) : program.IsFunction symbol := by
  refine ⟨type, data, typed, ?_⟩
  have notTypedef : program.aliased? type = none := by simp [aliased?, isFunction]
  have stripped : program.stripTypedefs type = type := followTypedefs_of_eq_none _ notTypedef
  simp [functionData?, stripped, isFunction]

/-- Nothing is taken back: neither what is declared nor any mark. -/
structure Matures (before after : Program) : Prop extends before.Retains after where
  defined : ∀ symbol, (before.entry symbol).defined = true → (after.entry symbol).defined = true
  complete : ∀ type, before.IsComplete type → after.IsComplete type
  inner : ∀ type, before.HasInner type → after.HasInner type

namespace Matures

theorem refl (program : Program) : program.Matures program :=
  ⟨.refl program, fun _ isDefined => isDefined, fun _ isComplete => isComplete,
    fun _ hasInner => hasInner⟩

theorem trans {first second third : Program} (earlier : first.Matures second)
    (later : second.Matures third) : first.Matures third where
  toRetains := earlier.toRetains.trans later.toRetains
  defined symbol isDefined := later.defined symbol (earlier.defined symbol isDefined)
  complete type isComplete := later.complete type (earlier.complete type isComplete)
  inner type hasInner := later.inner type (earlier.inner type hasInner)

theorem isFilledIn (matures : before.Matures after) (isFilledIn : before.IsFilledIn symbol) :
    after.IsFilledIn symbol := by
  obtain ⟨type, isClass, isComplete, hasInner⟩ := isFilledIn
  exact ⟨type, matures.toRetains.classOf?_eq_some isClass, matures.complete type isComplete,
    matures.inner type hasInner⟩

/-- It is enough that every class keeps its marks where it is changed. -/
theorem of_classes (retains : before.Retains after)
    (defined : ∀ symbol, (before.entry symbol).defined = true →
      (after.entry symbol).defined = true)
    (classes : ∀ type data, before.type type = .classType data →
      ∃ later, after.type type = .classType later ∧
        (data.completeness = .completeIndependent → later.completeness = .completeIndependent) ∧
        (data.innerContext ≠ none → later.innerContext ≠ none)) : before.Matures after where
  toRetains := retains
  defined := defined
  complete := by
    rintro type ⟨data, isClass, isComplete⟩
    obtain ⟨later, isClassLater, complete, -⟩ := classes type data isClass
    exact ⟨later, isClassLater, complete isComplete⟩
  inner := by
    rintro type ⟨data, isClass, hasInner⟩
    obtain ⟨later, isClassLater, -, inner⟩ := classes type data isClass
    exact ⟨later, isClassLater, inner hasInner⟩

theorem of_leaves (retains : before.Retains after)
    (defined : ∀ symbol, (before.entry symbol).defined = true →
      (after.entry symbol).defined = true)
    (leaves : ∀ type, Leaves type before after) : before.Matures after :=
  .of_classes retains defined fun type data isClass =>
    ⟨data, (leaves type).classType data isClass, id, id⟩

end Matures

theorem KeepsSymbols.defined (keeps : before.KeepsSymbols after) (symbol : SymbolId)
    (isDefined : (before.entry symbol).defined = true) : (after.entry symbol).defined = true := by
  rw [keeps.entry symbol (index_lt_of_defined isDefined)]
  exact isDefined

/-- A declaration that leaves the marks of what was there alone. -/
structure Introduction (before after : Program) : Prop extends before.Declaration after where
  defined : ∀ symbol : SymbolId, symbol.index < before.symbols.size →
    (after.entry symbol).defined = (before.entry symbol).defined
  classes : ∀ type data, before.type type = .classType data →
    ∃ later, after.type type = .classType later ∧ later.completeness = data.completeness ∧
      later.innerContext = data.innerContext

theorem marks_of_addBase (classType base : TypeId) {data : ClassType}
    (isClass : program.type type = .classType data) :
    ∃ later, (program.modifyClass classType fun data =>
        { data with bases := data.bases ++ [base] }).type type = .classType later ∧
      later.completeness = data.completeness ∧ later.innerContext = data.innerContext := by
  unfold modifyClass
  split
  · rw [type_modifyType, isClass]
    split
    · exact ⟨_, rfl, rfl, rfl⟩
    · exact ⟨data, rfl, rfl, rfl⟩
  · exact ⟨data, isClass, rfl, rfl⟩

theorem Enlarges.marks (enlarges : before.Enlarges after) {data : ClassType}
    (isClass : before.type type = .classType data) :
    ∃ later, after.type type = .classType later ∧ later.completeness = data.completeness ∧
      later.innerContext = data.innerContext := by
  have unchanged : Leaves type before after → ∃ later, after.type type = .classType later ∧
      later.completeness = data.completeness ∧ later.innerContext = data.innerContext :=
    fun leaves => ⟨data, leaves.classType data isClass, rfl, rfl⟩
  cases enlarges with
  | ofType added => exact unchanged (leaves_newType added)
  | ofVariable context name ofType initializer =>
      exact unchanged (leaves_declareVariable context name ofType initializer)
  | ofEnumerator context name ofType value =>
      exact unchanged (leaves_declareEnumerator context name ofType value)
  | ofNamespace context name => exact unchanged (leaves_declareNamespace context name)
  | ofTemplate context name declarations kind genericType defined =>
      exact unchanged
        (leaves_declareTemplate context name declarations kind genericType defined)
  | ofSpecialization declares => exact unchanged (leaves_declareClassSpecialization? declares)
  | ofInstance names => exact unchanged (leaves_templateInstance? names)
  | ofBase classType base => exact marks_of_addBase classType base isClass

theorem Enlarges.introduction (enlarges : before.Enlarges after)
    (operation : before.Operation after) : before.Introduction after where
  operation := operation
  retains := enlarges.retains
  defined symbol bound := by rw [enlarges.keepsSymbols.entry symbol bound]
  classes _ _ isClass := enlarges.marks isClass

/-- What declarations do to marks: they set none, and new instances have none. -/
structure Introduces (before after : Program) : Prop extends before.Matures after where
  undefined : ∀ symbol : SymbolId, symbol.index < before.symbols.size →
    (before.entry symbol).defined = false → (after.entry symbol).defined = false
  instances : ∀ symbol, after.HasInstance symbol → before.HasInstance symbol ∨
    before.symbols.size ≤ symbol.index ∧ symbol.index < after.symbols.size ∧
      (after.entry symbol).defined = false ∧
      ((after.entry symbol).kind = .function → after.IsFunction symbol)

namespace Introduces

theorem refl (program : Program) : program.Introduces program :=
  ⟨.refl program, fun _ _ undefined => undefined, fun _ isInstance => .inl isInstance⟩

theorem trans {first second third : Program} (earlier : first.Introduces second)
    (later : second.Introduces third) : first.Introduces third where
  toMatures := earlier.toMatures.trans later.toMatures
  undefined symbol bound undefined :=
    later.undefined symbol (Nat.lt_of_lt_of_le bound earlier.symbols_le)
      (earlier.undefined symbol bound undefined)
  instances symbol isInstance := by
    rcases later.instances symbol isInstance with
      inSecond | ⟨isNew, bound, undefined, isFunction⟩
    · rcases earlier.instances symbol inSecond with
        inFirst | ⟨isNew, bound, undefined, isFunction⟩
      · exact .inl inFirst
      · refine .inr ⟨isNew, Nat.lt_of_lt_of_le bound later.symbols_le,
          later.undefined symbol bound undefined, fun ofKind => ?_⟩
        have kept := (later.entry symbol bound).kind
        exact (isFunction (kept ▸ ofKind)).retained later.toRetains
    · exact .inr ⟨Nat.le_trans earlier.symbols_le isNew, bound, undefined, isFunction⟩

end Introduces

theorem KeepsTemplates.hasInstance (keeps : before.KeepsTemplates after)
    (isInstance : after.HasInstance symbol) : before.HasInstance symbol := by
  obtain ⟨type, data, isTemplate, member⟩ := isInstance
  exact ⟨type, data, keeps.templates type data isTemplate, member⟩

/-- A new template has no instances. -/
theorem hasInstance_declareTemplate {context : DeclContext} {name : String}
    {declarations : List ParameterDeclaration} {kind : SymbolKind}
    {genericType : Specialization → Ty}
    (links : ∀ specialization, (genericType specialization).specialization? = some specialization)
    {defined : Bool} (isInstance : (program.declareTemplate context name declarations kind
      genericType defined).2.HasInstance symbol) : program.HasInstance symbol := by
  obtain ⟨⟨⟨inner, parameters⟩, opened⟩, opens⟩ :
      ∃ opened, program.declareTemplateParameters context declarations = opened := ⟨_, rfl⟩
  obtain ⟨⟨template, declared⟩, declares⟩ :
      ∃ declared, program.declareTemplate context name declarations kind genericType defined =
        declared := ⟨_, rfl⟩
  obtain ⟨primary, -, -, atTemplate, atGeneric, others, size⟩ :=
    declareTemplate_spec opens name kind genericType defined declares
  have types : opened.types = program.types := by
    have types := types_declareTemplateParameters program context declarations
    rwa [opens] at types
  rw [declares] at isInstance
  obtain ⟨type, data, isTemplate, member⟩ := isInstance
  have bound := index_lt_of_templateType isTemplate
  rw [size] at bound
  obtain older | isNew | isGeneric : type.index < opened.types.size ∨
      type = ⟨opened.types.size⟩ ∨ type = ⟨opened.types.size + 1⟩ := by
    obtain ⟨index⟩ := type
    simp only [TypeId.mk.injEq] at bound ⊢
    omega
  · rw [others type older, Program.type, types] at isTemplate
    exact ⟨type, data, isTemplate, member⟩
  · rw [isNew, atTemplate, Ty.templateType.injEq] at isTemplate
    subst isTemplate
    cases member
  · rw [isGeneric, atGeneric] at isTemplate
    exact absurd isTemplate (Ty.not_templateType_of_specialization? (links _) data)

theorem hasInstance_of_declareClassSpecialization? {template declared : SymbolId}
    {declarations : List ParameterDeclaration} {arguments : List TemplateArgument}
    {trees : InstantiationTrees}
    (declares : program.declareClassSpecialization? template declarations arguments trees =
      some (declared, after)) (isInstance : after.HasInstance symbol) :
    program.HasInstance symbol := by
  obtain ⟨created, specialization, keeps, -, rfl⟩ :=
    exists_created_of_declareClassSpecialization? declares
  obtain ⟨type, data, isTemplate, member⟩ := isInstance
  rw [modifyTemplate, type_modifyType] at isTemplate
  split at isTemplate
  · cases atType : created.type type with
    | templateType original =>
        rw [atType] at isTemplate
        cases isTemplate
        exact keeps.hasInstance ⟨type, original, atType, member⟩
    | _ =>
        rw [atType] at isTemplate
        cases isTemplate
  · exact keeps.hasInstance ⟨type, data, isTemplate, member⟩

theorem AddsInstance.hasInstance {kind : RequestKind} {template added : SymbolId}
    {data : TemplateType} {specialization : Specialization}
    (adds : before.AddsInstance after kind template data specialization added)
    (isTemplate : before.type specialization.template = .templateType data)
    (isInstance : after.HasInstance symbol) : before.HasInstance symbol ∨ symbol = added := by
  obtain ⟨type, later, isLater, member⟩ := isInstance
  by_cases same : type = specialization.template
  · rw [same, adds.type_template, Ty.templateType.injEq] at isLater
    subst isLater
    rcases List.mem_append.mp member with old | isNew
    · exact .inl ⟨_, data, isTemplate, old⟩
    · exact .inr (List.mem_singleton.mp isNew)
  · have bound := index_lt_of_templateType isLater
    rw [adds.types_size] at bound
    rcases Nat.lt_succ_iff_lt_or_eq.mp bound with older | isNew
    · rw [adds.type type older same] at isLater
      exact .inl ⟨type, later, isLater, member⟩
    · have isLast : type = ⟨before.types.size⟩ := congrArg TypeId.mk isNew
      have links := kind.specialization?_instanceType specialization
      rw [← adds.type_new, ← isLast] at links
      exact absurd isLater (Ty.not_templateType_of_specialization? links later)

/-- A new instance is not defined, and a function if it is one of a function template. -/
theorem instances_of_instanceOf? {kind : RequestKind} {template answer : SymbolId}
    {arguments : List TemplateArgument}
    (answers : before.instanceOf? kind template arguments = some (answer, after))
    (isInstance : after.HasInstance symbol) : before.HasInstance symbol ∨
      before.symbols.size ≤ symbol.index ∧ symbol.index < after.symbols.size ∧
        (after.entry symbol).defined = false ∧
        ((after.entry symbol).kind = .function → after.IsFunction symbol) := by
  obtain ⟨ofType, data, -, isTemplate, ⟨rfl, -⟩ | ⟨parameters, adds⟩⟩ :=
    exists_template_of_instanceOf? answers
  · exact .inl isInstance
  · rcases adds.hasInstance isTemplate isInstance with old | rfl
    · exact .inl old
    · refine .inr ⟨?_, ?_, by rw [adds.entry_new], fun ofKind => ?_⟩
      · exact Nat.le_of_eq (congrArg SymbolId.index adds.isNew).symm
      · rw [congrArg SymbolId.index adds.isNew, adds.symbols_size]
        exact Nat.lt_succ_self _
      · have typed : (after.entry symbol).type = some ⟨before.types.size⟩ := by
          rw [adds.entry_new]
        rw [adds.entry_new] at ofKind
        cases kind with
        | classTemplate => cases ofKind
        | functionTemplate => exact isFunction_of_functionType typed adds.type_new

/-- Declarations set no marks, and new instances have none. -/
theorem Introduction.introduces (introduction : before.Introduction after) :
    before.Introduces after where
  toMatures := by
    refine .of_classes introduction.retains (fun symbol isDefined => ?_) ?_
    · rw [introduction.defined symbol (index_lt_of_defined isDefined)]
      exact isDefined
    · intro type data isClass
      obtain ⟨later, isClassLater, completeness, inner⟩ := introduction.classes type data isClass
      exact ⟨later, isClassLater, completeness.trans, inner ▸ id⟩
  undefined symbol bound undefined := (introduction.defined symbol bound).trans undefined
  instances symbol isInstance := by
    rcases introduction.toDeclaration.keeps_or_changes with keeps | changes
    · exact .inl (keeps.hasInstance isInstance)
    · cases changes with
      | declares context name declarations kind links defined =>
          exact .inl (hasInstance_declareTemplate links isInstance)
      | specializes declares =>
          exact .inl (hasInstance_of_declareClassSpecialization? declares isInstance)
      | @namesClass _ template answer arguments names =>
          have answers : before.instanceOf? .classTemplate template arguments =
            some (answer, after) := names
          exact instances_of_instanceOf? answers isInstance
      | @namesFunction _ template answer arguments names =>
          have answers : before.instanceOf? .functionTemplate template arguments =
            some (answer, after) := names
          exact instances_of_instanceOf? answers isInstance

theorem Introduces.of_introductions
    (introductions : Relation.ReflTransGen Introduction before after) :
    before.Introduces after := by
  induction introductions with
  | refl => exact .refl before
  | tail _ last ih => exact ih.trans last.introduces

end Program

end CppTemplates
