import CppTemplates.Program.Declare
import CppTemplates.Proofs.Program.Lookup
import CppTemplates.Proofs.Program.Typedefs

/-!
# Programs that grow

Instantiating a class adds scopes, symbols and types to a program.  Of what was there before it
changes only which symbols are defined, how complete classes are, and the inner context of classes
that had none.  So whatever lookup and the questions about types have found before, they find again.
-/

namespace CppTemplates

/-- Whether a type is still what it was, up to how far a class has been filled in. -/
def Ty.KeptAs : Ty → Ty → Prop
  | .classType before, after =>
      ∃ data, after = .classType data ∧ data.specialization = before.specialization ∧
        data.trees = before.trees ∧
        ∀ inner, before.innerContext = some inner → data.innerContext = some inner
  | before, after => after = before

namespace Ty.KeptAs

theorem refl (type : Ty) : type.KeptAs type := by
  cases type <;> simp [Ty.KeptAs]

theorem trans {first second third : Ty} (earlier : first.KeptAs second)
    (later : second.KeptAs third) : first.KeptAs third := by
  cases first with
  | classType data =>
      obtain ⟨middle, rfl, specialization, trees, inner⟩ := earlier
      obtain ⟨last, rfl, lastSpecialization, lastTrees, lastInner⟩ := later
      exact ⟨last, rfl, lastSpecialization.trans specialization, lastTrees.trans trees,
        fun context recorded => lastInner context (inner context recorded)⟩
  | _ =>
      cases earlier
      exact later

theorem eq_of_notClass {before after : Ty} (kept : before.KeptAs after)
    (notClass : ∀ data, before ≠ .classType data) : after = before := by
  cases before with
  | classType data => exact absurd rfl (notClass data)
  | _ => exact kept

/-- A type that is no class later was none before. -/
theorem eq_of_notClassLater {before after : Ty} (kept : before.KeptAs after)
    (notClass : ∀ data, after ≠ .classType data) : before = after := by
  cases before with
  | classType data =>
      obtain ⟨later, isClass, _⟩ := kept
      exact absurd isClass (notClass later)
  | _ => exact Eq.symm kept

end Ty.KeptAs

/-- Whether a symbol is still what it was, up to having become defined. -/
def SymbolEntry.KeptAs (before after : SymbolEntry) : Prop :=
  ∃ defined, (before.defined = true → defined = true) ∧ after = { before with defined }

namespace SymbolEntry.KeptAs

theorem refl (entry : SymbolEntry) : entry.KeptAs entry :=
  ⟨entry.defined, id, rfl⟩

theorem trans {first second third : SymbolEntry} (earlier : first.KeptAs second)
    (later : second.KeptAs third) : first.KeptAs third := by
  obtain ⟨_, stays, rfl⟩ := earlier
  obtain ⟨defined, staysLater, rfl⟩ := later
  exact ⟨defined, fun wasDefined => staysLater (stays wasDefined), rfl⟩

end SymbolEntry.KeptAs

/-- The scopes of one tree are still there in another, with the same declarations. -/
structure ScopeTree.Keeps (before after : ScopeTree) : Prop where
  size_le : before.scopes.size ≤ after.scopes.size
  scope : ∀ id : ScopeId, id.index < before.scopes.size → after.scope id = before.scope id

namespace ScopeTree.Keeps

theorem refl (tree : ScopeTree) : tree.Keeps tree :=
  ⟨Nat.le_refl _, fun _ _ => rfl⟩

theorem trans {first second third : ScopeTree} (earlier : first.Keeps second)
    (later : second.Keeps third) : first.Keeps third := by
  refine ⟨Nat.le_trans earlier.size_le later.size_le, fun id bound => ?_⟩
  rw [later.scope id (Nat.lt_of_lt_of_le bound earlier.size_le)]
  exact earlier.scope id bound

theorem createChild {before after : ScopeTree} (keeps : before.Keeps after) (parent : ScopeId)
    (kind : ScopeKind) (owner : Option SymbolId) :
    before.Keeps (after.createChild parent kind owner).2 := by
  refine keeps.trans ⟨by simp, fun id bound => ?_⟩
  exact scope_createChild_of_lt bound parent kind owner

theorem insert {before after : ScopeTree} (keeps : before.Keeps after) {scope : ScopeId}
    (isNew : before.scopes.size ≤ scope.index) (name : String) (symbol : SymbolId) :
    before.Keeps (after.insert scope name symbol) := by
  refine ⟨by simpa using keeps.size_le, fun id bound => ?_⟩
  have other : id ≠ scope := by
    rintro rfl
    omega
  rw [scope_insert_of_ne other]
  exact keeps.scope id bound

theorem lookupLocal_eq {before after : ScopeTree} (keeps : before.Keeps after) {scope : ScopeId}
    {name : String} (found : before.lookupLocal scope name ≠ []) :
    after.lookupLocal scope name = before.lookupLocal scope name := by
  by_cases bound : scope.index < before.scopes.size
  · simp only [lookupLocal, keeps.scope scope bound]
  · exfalso
    apply found
    simp [lookupLocal, ScopeTree.scope, Array.getElem?_eq_none (Nat.le_of_not_lt bound),
      show (default : Scope).entries = [] from rfl]

/-- A name that lookup has found, lookup finds again. -/
theorem lookup_eq {before after : ScopeTree} (keeps : before.Keeps after) (scope : ScopeId)
    {name : String} (found : before.lookup scope name ≠ []) :
    after.lookup scope name = before.lookup scope name := by
  rw [lookup] at found
  rw [lookup, lookup.eq_def before]
  cases atLocal : before.lookupLocal scope name with
  | cons first rest =>
      rw [keeps.lookupLocal_eq (by simp [atLocal]), atLocal]
  | nil =>
      simp only [atLocal] at found ⊢
      have bound : scope.index < before.scopes.size := by
        apply Nat.lt_of_not_le
        intro outside
        simp [ScopeTree.scope, Array.getElem?_eq_none outside,
          show (default : Scope).parent = none from rfl] at found
      have sameLocal : after.lookupLocal scope name = [] := by
        rw [← atLocal]
        simp only [lookupLocal, keeps.scope scope bound]
      simp only [sameLocal, keeps.scope scope bound]
      cases atParent : (before.scope scope).parent with
      | none => rfl
      | some parent =>
          simp only [atParent] at found ⊢
          by_cases older : parent.index < scope.index
          · simp only [older, if_true] at found ⊢
            exact lookup_eq keeps parent found
          · simp only [older, if_false]
termination_by scope.index

/-- From a kept scope, lookup finds for every name what it has found before. -/
theorem lookup_eq_of_lt {before after : ScopeTree} (keeps : before.Keeps after) {scope : ScopeId}
    (bound : scope.index < before.scopes.size) (name : String) :
    after.lookup scope name = before.lookup scope name := by
  have sameLocal : after.lookupLocal scope name = before.lookupLocal scope name := by
    simp only [lookupLocal, keeps.scope scope bound]
  rw [lookup, lookup.eq_def before, sameLocal, keeps.scope scope bound]
  cases before.lookupLocal scope name with
  | cons first rest => rfl
  | nil =>
      cases (before.scope scope).parent with
      | none => rfl
      | some parent =>
          by_cases older : parent.index < scope.index
          · simp only [older, if_true]
            exact lookup_eq_of_lt keeps (Nat.lt_trans older bound) name
          · simp only [older, if_false]
termination_by scope.index

end ScopeTree.Keeps

namespace Program

/-- The symbols and types of one program are still there in another, changed at most as an
instantiation changes them. -/
structure KeepsEntities (before after : Program) : Prop where
  symbols_le : before.symbols.size ≤ after.symbols.size
  types_le : before.types.size ≤ after.types.size
  entry : ∀ id : SymbolId, id.index < before.symbols.size →
    (before.entry id).KeptAs (after.entry id)
  type : ∀ id : TypeId, id.index < before.types.size → (before.type id).KeptAs (after.type id)

/-- Moreover the scopes of the one program have gained no declarations in the other. -/
structure Preserves (before after : Program) : Prop extends KeepsEntities before after where
  scopes : before.scopes.Keeps after.scopes

namespace KeepsEntities

theorem refl (program : Program) : program.KeepsEntities program :=
  ⟨Nat.le_refl _, Nat.le_refl _, fun _ _ => SymbolEntry.KeptAs.refl _,
    fun _ _ => Ty.KeptAs.refl _⟩

theorem trans {first second third : Program} (earlier : first.KeepsEntities second)
    (later : second.KeepsEntities third) : first.KeepsEntities third where
  symbols_le := Nat.le_trans earlier.symbols_le later.symbols_le
  types_le := Nat.le_trans earlier.types_le later.types_le
  entry := fun id bound =>
    (earlier.entry id bound).trans (later.entry id (Nat.lt_of_lt_of_le bound earlier.symbols_le))
  type := fun id bound =>
    (earlier.type id bound).trans (later.type id (Nat.lt_of_lt_of_le bound earlier.types_le))

end KeepsEntities

namespace Preserves

theorem refl (program : Program) : program.Preserves program where
  toKeepsEntities := KeepsEntities.refl program
  scopes := ScopeTree.Keeps.refl program.scopes

theorem trans {first second third : Program} (earlier : first.Preserves second)
    (later : second.Preserves third) : first.Preserves third where
  toKeepsEntities := earlier.toKeepsEntities.trans later.toKeepsEntities
  scopes := earlier.scopes.trans later.scopes

theorem of_others {first second third : Program} (preserves : first.Preserves second)
    (keeps : second.KeepsEntities third)
    (size_le : second.scopes.scopes.size ≤ third.scopes.scopes.size) {scope : ScopeId}
    (isNew : first.scopes.scopes.size ≤ scope.index)
    (others : ∀ other : ScopeId, other ≠ scope →
      third.scopes.scope other = second.scopes.scope other) : first.Preserves third where
  toKeepsEntities := preserves.toKeepsEntities.trans keeps
  scopes := by
    refine ⟨Nat.le_trans preserves.scopes.size_le size_le, fun id bound => ?_⟩
    have different : id ≠ scope := by
      rintro rfl
      exact Nat.not_lt.mpr isNew bound
    rw [others id different, preserves.scopes.scope id bound]

end Preserves

theorem index_lt_of_entry_ne_default {program : Program} {id : SymbolId}
    (notDefault : program.entry id ≠ default) : id.index < program.symbols.size := by
  apply Nat.lt_of_not_le
  intro outside
  apply notDefault
  simp [entry, Array.getElem?_eq_none outside]

theorem index_lt_of_entryType {program : Program} {id : SymbolId} {type : TypeId}
    (hasType : (program.entry id).type = some type) : id.index < program.symbols.size := by
  apply index_lt_of_entry_ne_default
  intro isDefault
  rw [isDefault] at hasType
  cases hasType

namespace KeepsEntities

variable {before after : Program}

theorem withScopes (keeps : before.KeepsEntities after) (scopes : ScopeTree) :
    before.KeepsEntities { after with scopes } :=
  ⟨keeps.symbols_le, keeps.types_le, keeps.entry, keeps.type⟩

theorem newType (keeps : before.KeepsEntities after) (type : Ty) :
    before.KeepsEntities (after.newType type).2 := by
  refine keeps.trans ⟨Nat.le_refl _, by simp [Program.newType],
    fun _ _ => SymbolEntry.KeptAs.refl _, ?_⟩
  intro id bound
  rw [type_newType_of_lt bound]
  exact Ty.KeptAs.refl _

theorem addEntry (keeps : before.KeepsEntities after) (added : SymbolEntry) :
    before.KeepsEntities (after.addEntry added).2 := by
  refine keeps.trans ⟨by simp, Nat.le_refl _, ?_, fun id _ => Ty.KeptAs.refl _⟩
  intro id bound
  rw [entry_addEntry_of_lt bound]
  exact SymbolEntry.KeptAs.refl _

theorem modifyEntry_new (keeps : before.KeepsEntities after) {symbol : SymbolId}
    (isNew : before.symbols.size ≤ symbol.index) (change : SymbolEntry → SymbolEntry) :
    before.KeepsEntities (after.modifyEntry symbol change) where
  symbols_le := by simpa using keeps.symbols_le
  types_le := keeps.types_le
  entry := by
    intro id bound
    have other : id ≠ symbol := by
      rintro rfl
      omega
    rw [entry_modifyEntry_of_ne other]
    exact keeps.entry id bound
  type := keeps.type

theorem modifyEntry_defined (keeps : before.KeepsEntities after) (symbol : SymbolId) :
    before.KeepsEntities
      (after.modifyEntry symbol fun entry => { entry with defined := true }) := by
  refine keeps.trans ⟨by simp, Nat.le_refl _, ?_, fun id _ => Ty.KeptAs.refl _⟩
  intro id bound
  by_cases same : id = symbol
  · subst same
    exact ⟨true, fun _ => rfl, entry_modifyEntry_self bound _⟩
  · rw [entry_modifyEntry_of_ne same]
    exact SymbolEntry.KeptAs.refl _

/-- A class may be filled in as long as a recorded inner context stays. -/
theorem modifyClass (keeps : before.KeepsEntities after) {type : TypeId}
    {change : ClassType → ClassType}
    (fills : ∀ data, after.classData? type = some data →
      (Ty.classType data).KeptAs (.classType (change data))) :
    before.KeepsEntities (after.modifyClass type change) := by
  unfold Program.modifyClass
  cases isActual : after.actualClass? type with
  | none => exact keeps
  | some actual =>
      refine keeps.trans ⟨Nat.le_refl _, by simp, fun _ _ => SymbolEntry.KeptAs.refl _, ?_⟩
      intro id bound
      by_cases same : id = actual
      · subst same
        rw [type_modifyType_self bound]
        cases atActual : after.type id with
        | classType data => exact fills data (classData?_eq_some_iff.mpr ⟨id, isActual, atActual⟩)
        | _ => exact Ty.KeptAs.refl _
      · rw [type_modifyType_of_ne same]
        exact Ty.KeptAs.refl _

end KeepsEntities

theorem scopes_modifyClass {program : Program} (type : TypeId) (change : ClassType → ClassType) :
    (program.modifyClass type change).scopes = program.scopes ∧
      (program.modifyClass type change).symbols = program.symbols := by
  unfold modifyClass
  split
  · exact ⟨rfl, rfl⟩
  · exact ⟨rfl, rfl⟩

namespace KeepsEntities

variable {before after : Program} {type target found : TypeId} {symbol : SymbolId}

theorem kind_eq (keeps : before.KeepsEntities after) (bound : symbol.index < before.symbols.size) :
    (after.entry symbol).kind = (before.entry symbol).kind := by
  obtain ⟨defined, _, same⟩ := keeps.entry symbol bound
  rw [same]

theorem entryType_eq (keeps : before.KeepsEntities after)
    (hasType : (before.entry symbol).type = some type) :
    (after.entry symbol).type = some type := by
  obtain ⟨defined, _, same⟩ := keeps.entry symbol (index_lt_of_entryType hasType)
  rw [same]
  exact hasType

theorem type_eq (keeps : before.KeepsEntities after) (notDefault : before.type type ≠ default)
    (notClass : ∀ data, before.type type ≠ .classType data) :
    after.type type = before.type type :=
  (keeps.type type (index_lt_of_type_ne_default notDefault)).eq_of_notClass notClass

theorem named_eq (keeps : before.KeepsEntities after) (isName : before.type type = .named symbol) :
    after.type type = .named symbol := by
  rw [← isName]
  apply keeps.type_eq
  · rw [isName]
    intro same
    cases same
  · intro data same
    rw [isName] at same
    cases same

theorem typedef_eq (keeps : before.KeepsEntities after)
    (isTypedef : before.type type = .typedefOf target) : after.type type = .typedefOf target := by
  rw [← isTypedef]
  apply keeps.type_eq
  · rw [isTypedef]
    intro same
    cases same
  · intro data same
    rw [isTypedef] at same
    cases same

/-- A class keeps where it comes from and, once it has one, its inner context. -/
theorem classType (keeps : before.KeepsEntities after) {data : ClassType}
    (isClass : before.type type = .classType data) :
    ∃ later, after.type type = .classType later ∧ later.specialization = data.specialization ∧
      later.trees = data.trees ∧
      ∀ inner, data.innerContext = some inner → later.innerContext = some inner := by
  have bound : type.index < before.types.size := by
    apply index_lt_of_type_ne_default
    rw [isClass]
    intro same
    cases same
  have kept := keeps.type type bound
  rw [isClass] at kept
  exact kept

theorem aliased?_eq_some (keeps : before.KeepsEntities after)
    (aliases : before.aliased? type = some target) : after.aliased? type = some target := by
  rw [Program.aliased?_eq_some] at aliases ⊢
  rcases aliases with isTypedef | ⟨symbol, isName, ofKind, named⟩
  · exact .inl (keeps.typedef_eq isTypedef)
  · right
    refine ⟨symbol, keeps.named_eq isName, ?_, keeps.entryType_eq named⟩
    rw [keeps.kind_eq (index_lt_of_entryType named), ofKind]

/-- A chain of typedefs that ends, ends at the same type again. -/
theorem stripsTo (keeps : before.KeepsEntities after) (strips : before.StripsTo type target) :
    after.StripsTo type target := by
  induction strips with
  | step aliases _ ih => exact .step (keeps.aliased?_eq_some aliases) ih
  | @here type bound names stops =>
      have unchanged : (∀ data, after.type type ≠ .classType data) →
          before.type type = after.type type := (keeps.type type bound).eq_of_notClassLater
      have namedBefore : ∀ symbol, after.type type = .named symbol →
          before.type type = .named symbol := by
        intro symbol isName
        rw [← isName]
        apply unchanged
        simp [isName]
      refine .here (Nat.lt_of_lt_of_le bound keeps.types_le) ?_ ?_
      · intro symbol isName
        exact Nat.lt_of_lt_of_le (names symbol (namedBefore symbol isName)) keeps.symbols_le
      · rw [Option.eq_none_iff_forall_ne_some]
        intro next aliases
        apply absurd stops
        apply Option.ne_none_iff_exists'.mpr
        refine ⟨next, Program.aliased?_eq_some.mpr ?_⟩
        rcases Program.aliased?_eq_some.mp aliases with isTypedef | ⟨symbol, isName, ofKind, named⟩
        · left
          rw [← isTypedef]
          apply unchanged
          simp [isTypedef]
        · right
          have isNameBefore := namedBefore symbol isName
          obtain ⟨defined, _, same⟩ := keeps.entry symbol (names symbol isNameBefore)
          rw [same] at ofKind named
          exact ⟨symbol, isNameBefore, ofKind, named⟩

theorem directClass?_eq_some (keeps : before.KeepsEntities after)
    (direct : before.directClass? type = some found) : after.directClass? type = some found := by
  rw [Program.directClass?_eq_some] at direct ⊢
  obtain ⟨⟨data, isClass⟩, rfl | ⟨symbol, isName, named⟩⟩ := direct
  · obtain ⟨later, isClassLater, _⟩ := keeps.classType isClass
    exact ⟨⟨later, isClassLater⟩, .inl rfl⟩
  · obtain ⟨later, isClassLater, _⟩ := keeps.classType isClass
    exact ⟨⟨later, isClassLater⟩, .inr ⟨symbol, keeps.named_eq isName, keeps.entryType_eq named⟩⟩

theorem followTypedefs_eq (keeps : before.KeepsEntities after) {steps more : Nat}
    (le : steps ≤ more) (stops : after.aliased? (before.followTypedefs steps type) = none) :
    after.followTypedefs more type = before.followTypedefs steps type :=
  followTypedefs_eq_of_aliased? (fun _ _ => keeps.aliased?_eq_some) le stops

theorem actualClass?_eq_some (keeps : before.KeepsEntities after)
    (actual : before.actualClass? type = some found) : after.actualClass? type = some found :=
  directClass?_followTypedefs_of_aliased? (fun _ _ => keeps.aliased?_eq_some)
    (fun _ _ => keeps.directClass?_eq_some) keeps.types_le actual

theorem classData?_eq_some (keeps : before.KeepsEntities after) {data : ClassType}
    (isClass : before.classData? type = some data) :
    ∃ later, after.classData? type = some later ∧ later.specialization = data.specialization ∧
      later.trees = data.trees ∧
      ∀ inner, data.innerContext = some inner → later.innerContext = some inner := by
  obtain ⟨actual, actualBefore, classBefore⟩ := classData?_eq_some_iff.mp isClass
  obtain ⟨later, classAfter, kept⟩ := keeps.classType classBefore
  exact ⟨later, classData?_eq_some_iff.mpr
    ⟨actual, keeps.actualClass?_eq_some actualBefore, classAfter⟩, kept⟩

theorem openedScope?_eq_some (keeps : before.KeepsEntities after) {scope : ScopeId}
    (opens : before.openedScope? symbol = some scope) :
    after.openedScope? symbol = some scope := by
  have bound : symbol.index < before.symbols.size := by
    apply index_lt_of_entry_ne_default
    intro isDefault
    rw [openedScope?, isDefault] at opens
    cases opens
  obtain ⟨defined, _, same⟩ := keeps.entry symbol bound
  have ofClass : ∀ {type : TypeId}, (before.classData? type).bind
      (fun data => data.innerContext.bind fun inner => some inner.currentScope) = some scope →
      (after.classData? type).bind
        (fun data => data.innerContext.bind fun inner => some inner.currentScope) = some scope := by
    intro type opens
    obtain ⟨data, isClass, opens⟩ := Option.bind_eq_some_iff.mp opens
    obtain ⟨inner, recorded, current⟩ := Option.bind_eq_some_iff.mp opens
    obtain ⟨later, isClassLater, _, _, keepsInner⟩ := keeps.classData?_eq_some isClass
    rw [isClassLater, Option.bind_some, keepsInner inner recorded]
    exact current
  unfold openedScope? at opens ⊢
  rw [same]
  dsimp only at opens ⊢
  split at opens
  case h_1 => exact opens
  case h_4 => cases opens
  all_goals
    cases hasType : (before.entry symbol).type with
    | none =>
        rw [hasType] at opens
        cases opens
    | some type =>
        rw [hasType] at opens
        exact ofClass opens

end KeepsEntities

namespace Preserves

variable {before after : Program}

theorem candidates_eq (preserves : before.Preserves after) {context : DeclContext}
    {qualifier : Option ScopeId} {name : String}
    (found : before.candidates context qualifier name ≠ []) :
    after.candidates context qualifier name = before.candidates context qualifier name := by
  cases qualifier with
  | none => exact preserves.scopes.lookup_eq context.currentScope found
  | some scope => exact preserves.scopes.lookupLocal_eq found

theorem resolvePath_eq (preserves : before.Preserves after) {tree : SyntaxTree}
    {context : DeclContext} {qualifier : Option ScopeId} {components : List NodeId}
    {first : SymbolId} {rest : List SymbolId}
    (found : before.resolvePath tree context qualifier components = .ok (first :: rest)) :
    after.resolvePath tree context qualifier components = .ok (first :: rest) := by
  rw [resolvePath_eq_ok_iff] at found ⊢
  generalize isFound : first :: rest = answer at found ⊢
  induction found with
  | last named =>
      rw [← preserves.candidates_eq (isFound ▸ List.cons_ne_nil first rest)]
      exact .last named
  | undeclared named notLast missing => cases isFound
  | @enters _ _ _ _ candidate others _ _ named declared opens _ ih =>
      have declaredToo := preserves.candidates_eq (declared ▸ List.cons_ne_nil candidate others)
      exact .enters named (declaredToo.trans declared) (preserves.openedScope?_eq_some opens)
        (ih isFound)

/-- An id-expression that names something names the same again. -/
theorem queryIdExpression_eq (preserves : before.Preserves after) {tree : SyntaxTree}
    {context : DeclContext} {id : NodeId} {first : SymbolId} {rest : List SymbolId}
    (found : before.queryIdExpression tree context id = .ok (first :: rest)) :
    after.queryIdExpression tree context id = .ok (first :: rest) := by
  unfold queryIdExpression at found ⊢
  split at found
  · cases atName : tree.componentName id with
    | error cause => simp [atName, bind, Except.bind] at found
    | ok name =>
        simp only [atName, bind, Except.bind, pure, Except.pure, Except.ok.injEq] at found ⊢
        rw [preserves.candidates_eq (by simp [found]), found]
  · unfold resolveQualified at found ⊢
    split at found
    · cases found
    · split at found
      · exact preserves.resolvePath_eq found
      · exact preserves.resolvePath_eq found
  · cases found

end Preserves

end Program

end CppTemplates
