import CppTemplates.Proofs.Program.Declarations
import CppTemplates.Instantiation.Class

/-!
# Classes that are filled in

Nothing that is done to a program takes listed symbols out of their scopes or makes an injected
class name something else.  Declarations moreover leave classes alone.  What the analyzer and nested
instantiations do to a class may fill it in, but once a class is no longer incomplete they leave its
completeness and its inner context alone.
-/

namespace CppTemplates

/-- Whatever is listed in one tree of scopes is listed in another. -/
structure ScopeTree.Lists (before after : ScopeTree) : Prop where
  size_le : before.scopes.size ≤ after.scopes.size
  listed : ∀ scope name symbol, symbol ∈ before.lookupLocal scope name →
    symbol ∈ after.lookupLocal scope name

namespace ScopeTree.Lists

theorem refl (tree : ScopeTree) : tree.Lists tree :=
  ⟨Nat.le_refl _, fun _ _ _ listed => listed⟩

theorem trans {first second third : ScopeTree} (earlier : first.Lists second)
    (later : second.Lists third) : first.Lists third := by
  constructor
  · exact Nat.le_trans earlier.size_le later.size_le
  · intro scope name symbol listed
    exact later.listed scope name symbol (earlier.listed scope name symbol listed)

theorem index_lt_of_mem {tree : ScopeTree} {scope : ScopeId} {name : String} {symbol : SymbolId}
    (listed : symbol ∈ tree.lookupLocal scope name) : scope.index < tree.scopes.size := by
  apply Nat.lt_of_not_le
  intro outside
  simp [lookupLocal, ScopeTree.scope, Array.getElem?_eq_none outside,
    show (default : Scope).entries = [] from rfl] at listed

theorem createChild (tree : ScopeTree) (parent : ScopeId) (kind : ScopeKind)
    (owner : Option SymbolId) : tree.Lists (tree.createChild parent kind owner).2 := by
  constructor
  · simp
  · intro scope name symbol listed
    rw [lookupLocal, scope_createChild_of_lt (index_lt_of_mem listed)]
    exact listed

theorem insert (tree : ScopeTree) (target : ScopeId) (name : String) (symbol : SymbolId) :
    tree.Lists (tree.insert target name symbol) := by
  constructor
  · simp
  · intro scope other candidate listed
    by_cases same : scope = target
    · subst same
      rw [lookupLocal, scope_insert_self (index_lt_of_mem listed),
        ScopeEntries.candidates_insert]
      by_cases sameName : other = name
      · subst sameName
        rw [if_pos rfl]
        exact List.mem_append_left _ listed
      · rw [if_neg sameName]
        exact listed
    · rw [lookupLocal, scope_insert_of_ne same]
      exact listed

end ScopeTree.Lists

namespace Program

/-- Listed symbols stay listed and injected class names stay injected. -/
structure KeepsNames (before after : Program) : Prop where
  lists : before.scopes.Lists after.scopes
  injected : ∀ symbol, (before.entry symbol).isInjectedClassName = true →
    (after.entry symbol).isInjectedClassName = true ∧
      (after.entry symbol).refersTo = (before.entry symbol).refersTo

/-- Moreover a class, if the type is one, stays as it is. -/
structure Leaves (type : TypeId) (before after : Program) : Prop
    extends KeepsNames before after where
  classType : ∀ data, before.type type = .classType data → after.type type = .classType data

/-- Moreover a class, if the type is one, stays a class, and once it is no longer incomplete it
stays so and keeps its inner context. -/
structure Sustains (type : TypeId) (before after : Program) : Prop
    extends KeepsNames before after where
  classType : ∀ data, before.type type = .classType data →
    ∃ later, after.type type = .classType later ∧
      (data.completeness ≠ .incompleteIndependent →
        later.completeness ≠ .incompleteIndependent ∧ later.innerContext = data.innerContext)

namespace KeepsNames

theorem refl (program : Program) : program.KeepsNames program :=
  ⟨ScopeTree.Lists.refl _, fun _ marked => ⟨marked, rfl⟩⟩

theorem trans {first second third : Program} (earlier : first.KeepsNames second)
    (later : second.KeepsNames third) : first.KeepsNames third := by
  constructor
  · exact earlier.lists.trans later.lists
  · intro symbol marked
    obtain ⟨markedSecond, same⟩ := earlier.injected symbol marked
    obtain ⟨markedThird, sameLater⟩ := later.injected symbol markedSecond
    exact ⟨markedThird, sameLater.trans same⟩

end KeepsNames

namespace Leaves

variable {type : TypeId} {first second third : Program}

theorem refl (program : Program) : Leaves type program program :=
  ⟨KeepsNames.refl program, fun _ isClass => isClass⟩

theorem trans (earlier : Leaves type first second) (later : Leaves type second third) :
    Leaves type first third := by
  constructor
  · exact earlier.toKeepsNames.trans later.toKeepsNames
  · intro data isClass
    exact later.classType data (earlier.classType data isClass)

theorem sustains (leaves : Leaves type first second) : Sustains type first second := by
  constructor
  · exact leaves.toKeepsNames
  · intro data isClass
    exact ⟨data, leaves.classType data isClass, fun complete => ⟨complete, rfl⟩⟩

end Leaves

theorem Sustains.refl {type : TypeId} (program : Program) : Sustains type program program :=
  (Leaves.refl program).sustains

def innerContext? (program : Program) (type : TypeId) : Option DeclContext :=
  match program.type type with
  | .classType data => data.innerContext
  | _ => none

def classOf? (program : Program) (entry : SymbolId) : Option TypeId :=
  (program.entry entry).type.bind program.actualClass?

theorem innerContext?_eq {program : Program} {type : TypeId} {data : ClassType}
    (isClass : program.type type = .classType data) :
    program.innerContext? type = data.innerContext := by
  simp [innerContext?, isClass]

def IsClass (program : Program) (type : TypeId) : Prop :=
  ∃ data, program.type type = .classType data

theorem Retains.isClass {type : TypeId} {before after : Program} (retains : before.Retains after)
    (isClass : before.IsClass type) : after.IsClass type := by
  obtain ⟨data, isClass⟩ := isClass
  obtain ⟨later, isClassLater, _⟩ := retains.classType isClass
  exact ⟨later, isClassLater⟩

/-- A type is a class that is no longer incomplete. -/
def IsSettled (program : Program) (type : TypeId) : Prop :=
  ∃ data, program.type type = .classType data ∧ data.completeness ≠ .incompleteIndependent

theorem not_isSettled {program : Program} {type : TypeId} {data : ClassType}
    (isClass : program.type type = .classType data)
    (incomplete : data.completeness = .incompleteIndependent) : ¬ program.IsSettled type := by
  rintro ⟨found, isFound, complete⟩
  rw [isClass, Ty.classType.injEq] at isFound
  subst isFound
  exact complete incomplete

/-- A class stays a class, and a settled one stays settled with its inner context. -/
theorem Sustains.isSettled {before after : Program} {type : TypeId}
    (sustains : Sustains type before after) (settled : before.IsSettled type) :
    after.IsSettled type ∧ after.innerContext? type = before.innerContext? type := by
  obtain ⟨data, isClass, complete⟩ := settled
  obtain ⟨later, isClassLater, kept⟩ := sustains.classType data isClass
  obtain ⟨completeLater, sameInner⟩ := kept complete
  refine ⟨⟨later, isClassLater, completeLater⟩, ?_⟩
  rw [innerContext?_eq isClass, innerContext?_eq isClassLater, sameInner]

theorem Sustains.isClass {before after : Program} {type : TypeId}
    (sustains : Sustains type before after) (isClass : before.IsClass type) :
    after.IsClass type := by
  obtain ⟨data, isClass⟩ := isClass
  obtain ⟨later, isClassLater, _⟩ := sustains.classType data isClass
  exact ⟨later, isClassLater⟩

theorem Leaves.innerContext?_eq {before after : Program} {type : TypeId}
    (leaves : Leaves type before after) (isClass : before.IsClass type) :
    after.innerContext? type = before.innerContext? type := by
  obtain ⟨data, isClass⟩ := isClass
  rw [Program.innerContext?_eq isClass, Program.innerContext?_eq (leaves.classType data isClass)]

section Operations

variable {type : TypeId} {program : Program}

theorem leaves_withScopes {scopes : ScopeTree} (lists : program.scopes.Lists scopes) :
    Leaves type program { program with scopes } :=
  ⟨⟨lists, fun _ marked => ⟨marked, rfl⟩⟩, fun _ isClass => isClass⟩

theorem leaves_newType (added : Ty) : Leaves type program (program.newType added).2 := by
  constructor
  · exact ⟨ScopeTree.Lists.refl _, fun _ marked => ⟨marked, rfl⟩⟩
  · intro data isClass
    rw [type_newType_of_lt (index_lt_of_type_ne_default (by rw [isClass]; intro same; cases same))]
    exact isClass

theorem leaves_addEntry (added : SymbolEntry) :
    Leaves type program (program.addEntry added).2 := by
  constructor
  · constructor
    · exact ScopeTree.Lists.refl _
    · intro symbol marked
      have bound : symbol.index < program.symbols.size := by
        apply Nat.lt_of_not_le
        intro outside
        simp [entry, Array.getElem?_eq_none outside,
          show (default : SymbolEntry).isInjectedClassName = false from rfl] at marked
      rw [entry_addEntry_of_lt bound]
      exact ⟨marked, rfl⟩
  · intro data isClass
    exact isClass

theorem leaves_signIn (scope : ScopeId) (name : String) (symbol : SymbolId) :
    Leaves type program (program.signIn scope name symbol) :=
  leaves_withScopes (ScopeTree.Lists.insert _ _ _ _)

theorem leaves_newSymbol (context : DeclContext) (scope : ScopeId) (name : String)
    (kind : SymbolKind) : Leaves type program (program.newSymbol context scope name kind).2 :=
  (leaves_addEntry _).trans (leaves_signIn _ _ _)

/-- A symbol may change as long as an injected class name stays what it is. -/
theorem leaves_modifyEntry (symbol : SymbolId) {change : SymbolEntry → SymbolEntry}
    (keepsMark : ∀ entry, (change entry).isInjectedClassName = entry.isInjectedClassName)
    (keepsReferent : ∀ entry, (change entry).refersTo = entry.refersTo) :
    Leaves type program (program.modifyEntry symbol change) := by
  constructor
  · constructor
    · exact ScopeTree.Lists.refl _
    · intro other marked
      by_cases same : other = symbol
      · subst same
        by_cases bound : other.index < program.symbols.size
        · rw [entry_modifyEntry_self bound, keepsMark, keepsReferent]
          exact ⟨marked, rfl⟩
        · simp [entry, Array.getElem?_eq_none (Nat.le_of_not_lt bound),
            show (default : SymbolEntry).isInjectedClassName = false from rfl] at marked
      · rw [entry_modifyEntry_of_ne same]
        exact ⟨marked, rfl⟩
  · intro data isClass
    exact isClass

theorem leaves_modifyType {other : TypeId} {change : Ty → Ty}
    (keepsClasses : other = type → ∀ data, change (.classType data) = .classType data) :
    Leaves type program (program.modifyType other change) := by
  constructor
  · exact ⟨ScopeTree.Lists.refl _, fun _ marked => ⟨marked, rfl⟩⟩
  · intro data isClass
    by_cases same : type = other
    · subst same
      rw [type_modifyType_self (index_lt_of_type_ne_default
        (by rw [isClass]; intro same; cases same)), isClass]
      exact keepsClasses rfl data
    · rw [type_modifyType_of_ne same]
      exact isClass

theorem leaves_modifyTemplate (template : TypeId) (change : TemplateType → TemplateType) :
    Leaves type program (program.modifyTemplate template change) :=
  leaves_modifyType fun _ _ => rfl

theorem leaves_declareArgument (context : DeclContext) (name : String) (kind : SymbolKind)
    (argument : TypeId) (value : Option NodeId) :
    Leaves type program (program.declareArgument context name kind argument value).2 := by
  exact (leaves_newSymbol _ _ _ _).trans (leaves_modifyEntry _ (fun _ => rfl) fun _ => rfl)

theorem leaves_declareVariable (context : DeclContext) (name : String) (ofType : TypeId)
    (initializer : Option NodeId) :
    Leaves type program (program.declareVariable context name ofType initializer).2 :=
  (leaves_newSymbol _ _ _ _).trans (leaves_modifyEntry _ (fun _ => rfl) fun _ => rfl)

theorem leaves_declareEnumerator (context : DeclContext) (name : String) (ofType : TypeId)
    (value : NodeId) :
    Leaves type program (program.declareEnumerator context name ofType value).2 :=
  (leaves_newSymbol _ _ _ _).trans (leaves_modifyEntry _ (fun _ => rfl) fun _ => rfl)

theorem leaves_declareNamespace (context : DeclContext) (name : String) :
    Leaves type program (program.declareNamespace context name).2 :=
  ((leaves_newSymbol _ _ _ _).trans
    (leaves_withScopes (ScopeTree.Lists.createChild _ _ _ _))).trans
      (leaves_modifyEntry _ (fun _ => rfl) fun _ => rfl)

theorem leaves_declareParametersFrom (context : DeclContext) (position : Nat)
    (declarations : List ParameterDeclaration) :
    Leaves type program (declareParametersFrom context position declarations program).2 := by
  induction declarations generalizing position program with
  | nil => exact Leaves.refl program
  | cons declaration rest ih =>
      have first : Leaves type program (program.declareParameter context position declaration).2 :=
        (leaves_newSymbol _ _ _ _).trans (leaves_modifyEntry _ (fun _ => rfl) fun _ => rfl)
      exact first.trans (ih (position + 1))

theorem leaves_declareTemplateParameters (context : DeclContext)
    (declarations : List ParameterDeclaration) :
    Leaves type program (program.declareTemplateParameters context declarations).2 :=
  (leaves_withScopes (ScopeTree.Lists.createChild _ _ _ _)).trans
    (leaves_declareParametersFrom _ _ _)

theorem leaves_declareTemplate (context : DeclContext) (name : String)
    (declarations : List ParameterDeclaration) (kind : SymbolKind)
    (genericType : Specialization → Ty) (defined : Bool) :
    Leaves type program
      (program.declareTemplate context name declarations kind genericType defined).2 := by
  exact ((((((leaves_declareTemplateParameters context declarations).trans
    (leaves_newSymbol context context.currentScope name .templateName)).trans
      (leaves_addEntry _)).trans (leaves_newType _)).trans
        (leaves_modifyEntry _ (by intro _; rfl) (by intro _; rfl))).trans (leaves_newType _)).trans
          (leaves_modifyEntry _ (by intro _; rfl) (by intro _; rfl))

theorem leaves_templateInstance? {template symbol : SymbolId} {arguments : List TemplateArgument}
    {kind : SymbolKind} {instanceType : Specialization → Ty} {after : Program}
    (names : program.templateInstance? template arguments kind instanceType =
      some (symbol, after)) : Leaves type program after := by
  obtain ⟨templateType, data, -, -, ⟨-, rfl⟩ | ⟨parameters, created⟩⟩ :=
    templateInstance?_cases names
  · exact Leaves.refl _
  · cases created
    exact (((leaves_addEntry _).trans (leaves_newType _)).trans
      (leaves_modifyEntry _ (by intro _; rfl) (by intro _; rfl))).trans (leaves_modifyTemplate _ _)

theorem leaves_declareClassSpecialization? {template symbol : SymbolId}
    {declarations : List ParameterDeclaration} {arguments : List TemplateArgument}
    {trees : InstantiationTrees} {after : Program}
    (declares : program.declareClassSpecialization? template declarations arguments trees =
      some (symbol, after)) : Leaves type program after := by
  unfold declareClassSpecialization? at declares
  obtain ⟨templateType, _, declares⟩ := Option.bind_eq_some_iff.mp declares
  cases declares
  exact ((((leaves_declareTemplateParameters _ _).trans (leaves_addEntry _)).trans
    (leaves_newType _)).trans (leaves_modifyEntry _ (by intro _; rfl) (by intro _; rfl))).trans
      (leaves_modifyTemplate _ _)

/-- Any class may change as long as its completeness and its inner context stay what they are. -/
theorem sustains_modifyClass (classType : TypeId) {change : ClassType → ClassType}
    (keepsCompleteness : ∀ data, (change data).completeness = data.completeness)
    (keepsContext : ∀ data, (change data).innerContext = data.innerContext) :
    Sustains type program (program.modifyClass classType change) := by
  unfold modifyClass
  split
  · next actual _ =>
    refine ⟨⟨ScopeTree.Lists.refl _, fun _ marked => ⟨marked, rfl⟩⟩, fun data isClass => ?_⟩
    by_cases same : type = actual
    · subst same
      rw [type_modifyType_self (index_lt_of_type_ne_default
        (by rw [isClass]; intro same; cases same)), isClass]
      refine ⟨change data, rfl, fun complete => ⟨?_, keepsContext data⟩⟩
      rw [keepsCompleteness]
      exact complete
    · rw [type_modifyType_of_ne same]
      exact ⟨data, isClass, fun complete => ⟨complete, rfl⟩⟩
  · exact Sustains.refl program

/-- Adding to a program takes no names away and no completed class back. -/
theorem Enlarges.sustains {after : Program} (enlarges : program.Enlarges after) :
    Sustains type program after := by
  cases enlarges with
  | ofType added => exact (leaves_newType added).sustains
  | ofVariable context name type initializer => exact (leaves_declareVariable _ _ _ _).sustains
  | ofEnumerator context name type value => exact (leaves_declareEnumerator _ _ _ _).sustains
  | ofNamespace context name => exact (leaves_declareNamespace _ _).sustains
  | ofTemplate context name declarations kind genericType defined =>
      exact (leaves_declareTemplate _ _ _ _ _ _).sustains
  | ofSpecialization declares => exact (leaves_declareClassSpecialization? declares).sustains
  | ofInstance names => exact (leaves_templateInstance? names).sustains
  | ofBase classType base => exact sustains_modifyClass classType (fun _ => rfl) fun _ => rfl

theorem Leaves.modifyEntry_new {before after : Program} (leaves : Leaves type before after)
    {symbol : SymbolId} (isNew : before.symbols.size ≤ symbol.index)
    (change : SymbolEntry → SymbolEntry) :
    Leaves type before (after.modifyEntry symbol change) := by
  constructor
  · constructor
    · exact leaves.lists
    · intro other marked
      have old : other ≠ symbol := by
        rintro rfl
        simp [entry, Array.getElem?_eq_none isNew,
          show (default : SymbolEntry).isInjectedClassName = false from rfl] at marked
      rw [entry_modifyEntry_of_ne old]
      exact leaves.injected other marked
  · intro data isClass
    exact leaves.classType data isClass

end Operations

/-- A scope lists the name of a class as that of the class that it is the inside of. -/
def NamesInside (program : Program) (entry : SymbolId) (scope : ScopeId) : Prop :=
  ∃ name symbol, symbol ∈ program.scopes.lookupLocal scope name ∧
    (program.entry symbol).isInjectedClassName = true ∧
      (program.entry symbol).refersTo = some entry

theorem KeepsNames.namesInside {before after : Program} (keeps : before.KeepsNames after)
    {entry : SymbolId} {scope : ScopeId} (names : before.NamesInside entry scope) :
    after.NamesInside entry scope := by
  obtain ⟨name, symbol, listed, marked, refers⟩ := names
  obtain ⟨markedLater, same⟩ := keeps.injected symbol marked
  exact ⟨name, symbol, keeps.lists.listed scope name symbol listed, markedLater,
    same.trans refers⟩

section Instances

variable {program : Program} {classType : TypeId} {data : ClassType}

theorem type_modifyClass_self (isClass : program.type classType = .classType data)
    (change : ClassType → ClassType) :
    (program.modifyClass classType change).type classType = .classType (change data) := by
  unfold modifyClass
  rw [actualClass?_eq_self isClass]
  dsimp only
  rw [type_modifyType_self (index_lt_of_type_ne_default (by rw [isClass]; intro same; cases same)),
    isClass]

theorem leaves_modifyClass {type : TypeId} (isClass : program.type classType = .classType data)
    (other : type ≠ classType) (change : ClassType → ClassType) :
    Leaves type program (program.modifyClass classType change) := by
  unfold modifyClass
  rw [actualClass?_eq_self isClass]
  exact leaves_modifyType fun same => absurd same.symm other

theorem keepsNames_modifyClass (type : TypeId) (change : ClassType → ClassType) :
    program.KeepsNames (program.modifyClass type change) := by
  unfold modifyClass
  split
  · exact ⟨ScopeTree.Lists.refl _, fun _ marked => ⟨marked, rfl⟩⟩
  · exact KeepsNames.refl program

variable (entry : SymbolId)

/-- Opening an instance records the new context for it and changes no other class. -/
theorem openInstance_spec (isClass : program.type classType = .classType data) :
    program.KeepsNames (program.openInstance entry classType).2 ∧
      (∀ type, type ≠ classType → Leaves type program (program.openInstance entry classType).2) ∧
      (program.openInstance entry classType).2.type classType =
        .classType { data with innerContext := some (program.openInstance entry classType).1.2 } ∧
      (program.openInstance entry classType).1.2.currentScope.index <
        (program.openInstance entry classType).2.scopes.scopes.size := by
  let outer := program.scopes.createChild (program.entry entry).declContext.currentScope
    .templateScope
  let both := outer.2.createChild outer.1 .classScope (some entry)
  let inner := (program.openInstance entry classType).1.2
  let widened : Program := { program with scopes := both.2 }
  have opened : (program.openInstance entry classType).2 =
      widened.modifyClass classType fun data => { data with innerContext := some inner } := rfl
  have lists : program.scopes.Lists both.2 :=
    (ScopeTree.Lists.createChild _ _ _ _).trans (ScopeTree.Lists.createChild _ _ _ _)
  have widens : ∀ type, Leaves type program widened := fun _ => leaves_withScopes lists
  have isClassWidened : widened.type classType = .classType data := isClass
  rw [opened]
  refine ⟨?_, ?_, ?_, ?_⟩
  · exact (widens classType).toKeepsNames.trans (keepsNames_modifyClass _ _)
  · intro type other
    exact (widens type).trans (leaves_modifyClass isClassWidened other _)
  · exact type_modifyClass_self isClassWidened _
  · have sameScopes : (widened.modifyClass classType fun data =>
        { data with innerContext := some inner }).scopes = both.2 :=
      (scopes_modifyClass _ _).1
    rw [sameScopes]
    simp [openInstance, ScopeTree.newTemplateContext, ScopeTree.newClassContext, both,
      outer, ScopeTree.createChild]

theorem completeInstance_completes (isClass : program.type classType = .classType data)
    (inner : DeclContext) :
    program.KeepsNames (program.completeInstance entry classType inner) ∧
      (∀ type, type ≠ classType →
        Leaves type program (program.completeInstance entry classType inner)) ∧
      (program.completeInstance entry classType inner).type classType =
        .classType { data with completeness := .completeIndependent } ∧
      (inner.currentScope.index < program.scopes.scopes.size →
        (program.completeInstance entry classType inner).NamesInside entry
          inner.currentScope) := by
  let copied := program.copySymbolInto entry inner.currentScope
  let marked := copied.2.modifyEntry copied.1 fun copy =>
    { copy with hidden := true, isInjectedClassName := true, refersTo := some entry }
  have completed : program.completeInstance entry classType inner =
      marked.modifyClass classType fun data =>
        { data with completeness := .completeIndependent } := rfl
  have marks : ∀ type, Leaves type program marked := by
    intro type
    apply Leaves.modifyEntry_new
    · exact (leaves_addEntry _).trans (leaves_signIn _ _ _)
    · exact Nat.le_refl _
  have isClassMarked : marked.type classType = .classType data := isClass
  have bound : copied.1.index < copied.2.symbols.size := by
    simp [copied, copySymbolInto, addEntry, signIn]
  rw [completed]
  refine ⟨?_, ?_, ?_, ?_⟩
  · exact (marks classType).toKeepsNames.trans (keepsNames_modifyClass _ _)
  · intro type other
    exact (marks type).trans (leaves_modifyClass isClassMarked other _)
  · exact type_modifyClass_self isClassMarked _
  · intro inTree
    apply (keepsNames_modifyClass classType _).namesInside
    refine ⟨program.symbolName entry, copied.1, ?_, ?_, ?_⟩
    · have scopes : marked.scopes = program.scopes.insert inner.currentScope
          (program.symbolName entry) copied.1 := rfl
      rw [scopes, ScopeTree.lookupLocal, ScopeTree.scope_insert_self inTree,
        ScopeEntries.candidates_insert, if_pos rfl]
      exact List.mem_append_right _ List.mem_cons_self
    · rw [entry_modifyEntry_self bound]
    · rw [entry_modifyEntry_self bound]

end Instances

end Program

theorem Session.eligibleClass?_eq_some {session : Session} {entry : SymbolId}
    {classType template : TypeId}
    (eligible : session.eligibleClass? entry = some (classType, template)) :
    session.program.classOf? entry = some classType ∧
      ∃ data, session.program.type classType = .classType data ∧
        data.completeness = .incompleteIndependent := by
  unfold eligibleClass? at eligible
  obtain ⟨named, typed, eligible⟩ := Option.bind_eq_some_iff.mp eligible
  obtain ⟨actual, isActual, eligible⟩ := Option.bind_eq_some_iff.mp eligible
  obtain ⟨data, ofData, eligible⟩ := Option.bind_eq_some_iff.mp eligible
  obtain ⟨specialization, special, eligible⟩ := Option.bind_eq_some_iff.mp eligible
  split at eligible
  case isFalse => cases eligible
  case isTrue incomplete =>
    cases eligible
    obtain ⟨⟨found, isClass⟩, _⟩ := Program.directClass?_eq_some.mp isActual
    rw [Program.classData?_eq_self isClass, Option.some.injEq] at ofData
    subst ofData
    refine ⟨?_, found, isClass, incomplete⟩
    rw [Program.classOf?, typed, Option.bind_some, isActual]

end CppTemplates
