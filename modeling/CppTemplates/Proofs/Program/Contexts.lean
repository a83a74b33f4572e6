import CppTemplates.Proofs.Program.ScopeChains
import CppTemplates.Proofs.Program.SymbolTable

/-!
# Contexts that are handed out

A context is handed out for the scope that is opened inside another one.  It takes over what it does
not set itself, so the namespace, template and class scopes that it names are scopes around its
current scope.  Symbols and classes store contexts, from which others are derived later.  As long as
declarations are given contexts that were handed out, all that is stored was handed out, too.
-/

namespace CppTemplates

namespace ScopeTree

/-- A scope of some kind was opened inside another. -/
structure IsOpened (tree : ScopeTree) (kind : ScopeKind) (scope parent : ScopeId) : Prop where
  parent : (tree.scope scope).parent = some parent
  kind : (tree.scope scope).kind = kind

/-- The contexts that are handed out for the scopes of a tree.  Whoever has a context may change its
nesting and its flags. -/
inductive HandsOut (tree : ScopeTree) : DeclContext → Prop
  | ofGlobal : HandsOut tree globalContext
  | inTemplate {context : DeclContext} {scope : ScopeId} (given : HandsOut tree context)
      (isOpened : tree.IsOpened .templateScope scope context.currentScope) :
      HandsOut tree { context with currentScope := scope, templateScope := some scope }
  | inClass {context : DeclContext} {scope : ScopeId} (given : HandsOut tree context)
      (isOpened : tree.IsOpened .classScope scope context.currentScope) :
      HandsOut tree { context with currentScope := scope, classScope := some scope }
  | inNamespace {context : DeclContext} {scope : ScopeId} (given : HandsOut tree context)
      (isOpened : tree.IsOpened .namespaceScope scope context.currentScope) :
      HandsOut tree { context with currentScope := scope, namespaceScope := scope }
  | inBlock {context : DeclContext} {kind : ScopeKind} {scope : ScopeId}
      (given : HandsOut tree context) (isOpened : tree.IsOpened kind scope context.currentScope) :
      HandsOut tree { context with currentScope := scope }
  | marked {context : DeclContext} (given : HandsOut tree context) (flags : ContextFlags)
      (templateNesting : Nat) : HandsOut tree { context with flags, templateNesting }

/-- A scope of a kind is another one or encloses it. -/
structure Surrounds (tree : ScopeTree) (kind : ScopeKind) (outer inner : ScopeId) : Prop where
  encloses : tree.Encloses outer inner
  kind : (tree.scope outer).kind = kind

/-- The scopes that a context names are scopes of their kinds around its current scope. -/
structure IsCoherent (tree : ScopeTree) (context : DeclContext) : Prop where
  currentScope : context.currentScope.index < tree.scopes.size
  globalScope : context.globalScope = global
  namespaceScope : tree.Surrounds .namespaceScope context.namespaceScope context.currentScope
  templateScope : ∀ scope, context.templateScope = some scope →
    tree.Surrounds .templateScope scope context.currentScope
  classScope : ∀ scope, context.classScope = some scope →
    tree.Surrounds .classScope scope context.currentScope

variable {tree : ScopeTree} {kind : ScopeKind} {scope parent outer inner : ScopeId}
variable {context : DeclContext}

theorem Surrounds.opened (surrounds : tree.Surrounds kind outer parent)
    (enclosed : (tree.scope scope).parent = some parent) : tree.Surrounds kind outer scope :=
  ⟨surrounds.encloses.of_parent enclosed, surrounds.kind⟩

theorem IsOpened.surrounds (isOpened : tree.IsOpened kind scope parent) :
    tree.Surrounds kind scope scope :=
  ⟨.refl tree scope, isOpened.kind⟩

/-- In a scope that is opened inside, a context is as coherent as before. -/
theorem IsCoherent.opened (coherent : tree.IsCoherent context)
    (enclosed : (tree.scope scope).parent = some context.currentScope) :
    tree.IsCoherent { context with currentScope := scope } where
  currentScope := index_lt_of_parent enclosed
  globalScope := coherent.globalScope
  namespaceScope := coherent.namespaceScope.opened enclosed
  templateScope outer named := (coherent.templateScope outer named).opened enclosed
  classScope outer named := (coherent.classScope outer named).opened enclosed

/-- Every context that is handed out is coherent. -/
theorem HandsOut.isCoherent (nested : tree.IsNested) (given : tree.HandsOut context) :
    tree.IsCoherent context := by
  induction given with
  | ofGlobal =>
      refine ⟨nested.size_pos, rfl, ⟨.refl tree global, nested.global_kind⟩, ?_, ?_⟩
      · rintro _ ⟨⟩
      · rintro _ ⟨⟩
  | inTemplate _ isOpened ih =>
      refine { ih.opened isOpened.parent with templateScope := ?_ }
      rintro _ ⟨⟩
      exact isOpened.surrounds
  | inClass _ isOpened ih =>
      refine { ih.opened isOpened.parent with classScope := ?_ }
      rintro _ ⟨⟩
      exact isOpened.surrounds
  | inNamespace _ isOpened ih =>
      exact { ih.opened isOpened.parent with namespaceScope := isOpened.surrounds }
  | inBlock _ isOpened ih => exact ih.opened isOpened.parent
  | marked _ _ _ ih =>
      exact ⟨ih.currentScope, ih.globalScope, ih.namespaceScope, ih.templateScope, ih.classScope⟩

/-- Scopes stay where they are and what they are. -/
structure KeepsShape (before after : ScopeTree) : Prop where
  size_le : before.scopes.size ≤ after.scopes.size
  parent : ∀ scope : ScopeId, scope.index < before.scopes.size →
    (after.scope scope).parent = (before.scope scope).parent
  kind : ∀ scope : ScopeId, scope.index < before.scopes.size →
    (after.scope scope).kind = (before.scope scope).kind

namespace KeepsShape

variable {before after : ScopeTree}

theorem refl (tree : ScopeTree) : tree.KeepsShape tree :=
  ⟨Nat.le_refl _, fun _ _ => rfl, fun _ _ => rfl⟩

theorem trans {first second third : ScopeTree} (earlier : first.KeepsShape second)
    (later : second.KeepsShape third) : first.KeepsShape third where
  size_le := Nat.le_trans earlier.size_le later.size_le
  parent scope bound :=
    (later.parent scope (Nat.lt_of_lt_of_le bound earlier.size_le)).trans
      (earlier.parent scope bound)
  kind scope bound :=
    (later.kind scope (Nat.lt_of_lt_of_le bound earlier.size_le)).trans (earlier.kind scope bound)

theorem isOpened (keeps : before.KeepsShape after) (isOpened : before.IsOpened kind scope parent) :
    after.IsOpened kind scope parent := by
  have bound := index_lt_of_parent isOpened.parent
  exact ⟨(keeps.parent scope bound).trans isOpened.parent,
    (keeps.kind scope bound).trans isOpened.kind⟩

theorem handsOut (keeps : before.KeepsShape after) (given : before.HandsOut context) :
    after.HandsOut context := by
  induction given with
  | ofGlobal => exact .ofGlobal
  | inTemplate _ isOpened ih => exact .inTemplate ih (keeps.isOpened isOpened)
  | inClass _ isOpened ih => exact .inClass ih (keeps.isOpened isOpened)
  | inNamespace _ isOpened ih => exact .inNamespace ih (keeps.isOpened isOpened)
  | inBlock _ isOpened ih => exact .inBlock ih (keeps.isOpened isOpened)
  | marked _ flags nesting ih => exact .marked ih flags nesting

theorem createChild (tree : ScopeTree) (parent : ScopeId) (kind : ScopeKind)
    (owner : Option SymbolId) : tree.KeepsShape (tree.createChild parent kind owner).2 where
  size_le := by simp
  parent scope bound := by rw [scope_createChild_of_lt bound]
  kind scope bound := by rw [scope_createChild_of_lt bound]

theorem insert (tree : ScopeTree) (target : ScopeId) (name : String) (symbol : SymbolId) :
    tree.KeepsShape (tree.insert target name symbol) := by
  have atScope : ∀ scope : ScopeId, scope.index < tree.scopes.size →
      ((tree.insert target name symbol).scope scope).parent = (tree.scope scope).parent ∧
        ((tree.insert target name symbol).scope scope).kind = (tree.scope scope).kind := by
    intro scope bound
    by_cases same : scope = target
    · subst same
      rw [scope_insert_self bound]
      exact ⟨rfl, rfl⟩
    · rw [scope_insert_of_ne same]
      exact ⟨rfl, rfl⟩
  exact ⟨by simp, fun scope bound => (atScope scope bound).1, fun scope bound =>
    (atScope scope bound).2⟩

end KeepsShape

theorem isOpened_createChild (tree : ScopeTree) (parent : ScopeId) (kind : ScopeKind)
    (owner : Option SymbolId) : (tree.createChild parent kind owner).2.IsOpened kind
      (tree.createChild parent kind owner).1 parent := by
  constructor <;> rw [scope_createChild_self]

namespace IsNested

theorem of_keepsShape {before after : ScopeTree} (nested : before.IsNested)
    (keeps : before.KeepsShape after)
    (added : ∀ scope : ScopeId, before.scopes.size ≤ scope.index →
      scope.index < after.scopes.size →
        ∃ parent, (after.scope scope).parent = some parent ∧ parent.index < scope.index) :
    after.IsNested where
  size_pos := Nat.lt_of_lt_of_le nested.size_pos keeps.size_le
  global_parent := (keeps.parent global nested.size_pos).trans nested.global_parent
  global_kind := (keeps.kind global nested.size_pos).trans nested.global_kind
  exists_parent scope other bound := by
    by_cases older : scope.index < before.scopes.size
    · rw [keeps.parent scope older]
      exact nested.exists_parent scope other older
    · exact added scope (Nat.le_of_not_lt older) bound

theorem createChild (nested : tree.IsNested) (bound : parent.index < tree.scopes.size)
    (kind : ScopeKind) (owner : Option SymbolId) :
    (tree.createChild parent kind owner).2.IsNested := by
  apply nested.of_keepsShape (.createChild tree parent kind owner)
  intro scope isNew inTree
  rw [size_createChild] at inTree
  have isLast : scope = (tree.createChild parent kind owner).1 := by
    cases scope
    exact congrArg ScopeId.mk (Nat.le_antisymm (Nat.le_of_lt_succ inTree) isNew)
  subst isLast
  exact ⟨parent, (isOpened_createChild tree parent kind owner).parent, bound⟩

theorem insert (nested : tree.IsNested) (target : ScopeId) (name : String) (symbol : SymbolId) :
    (tree.insert target name symbol).IsNested := by
  apply nested.of_keepsShape (.insert tree target name symbol)
  intro scope isNew inTree
  rw [size_insert] at inTree
  exact absurd inTree (Nat.not_lt_of_le isNew)

end IsNested

end ScopeTree

def Ty.innerContext? : Ty → Option DeclContext
  | .classType data => data.innerContext
  | _ => none

namespace Program

/-- The scopes are nested, and every context that is stored has been handed out. -/
structure IsSituated (program : Program) : Prop where
  nested : program.scopes.IsNested
  declContext : ∀ symbol, program.scopes.HandsOut (program.entry symbol).declContext
  innerContext : ∀ type inner, (program.type type).innerContext? = some inner →
    program.scopes.HandsOut inner

/-- The contexts that a program stores have been handed out, and its scopes go on from those of an
earlier program. -/
structure SituatedSince (program start : Program) : Prop extends IsSituated program where
  keeps : start.scopes.KeepsShape program.scopes

theorem isSituated_empty : IsSituated {} where
  nested := by
    refine ⟨by decide, rfl, rfl, fun scope other bound => absurd ?_ other⟩
    cases scope
    exact congrArg ScopeId.mk (Nat.lt_one_iff.mp bound)
  declContext symbol := .ofGlobal
  innerContext type inner stores := by cases stores

theorem IsSituated.since {program : Program} (situated : program.IsSituated) :
    program.SituatedSince program :=
  ⟨situated, .refl _⟩

/-- Unused numbers stand for symbols at global scope. -/
theorem declContext_of_outside {program : Program} {symbol : SymbolId}
    (outside : program.symbols.size ≤ symbol.index) :
    (program.entry symbol).declContext = ScopeTree.globalContext := by
  rw [entry, Array.getElem?_eq_none outside]
  rfl

theorem index_lt_of_innerContext? {program : Program} {type : TypeId} {inner : DeclContext}
    (stores : (program.type type).innerContext? = some inner) :
    type.index < program.types.size := by
  apply index_lt_of_type_ne_default
  intro isDefault
  rw [isDefault] at stores
  cases stores

namespace SituatedSince

variable {program after start : Program} {context : DeclContext}

theorem trans {first second third : Program} (later : third.SituatedSince second)
    (earlier : second.SituatedSince first) : third.SituatedSince first :=
  ⟨later.toIsSituated, earlier.keeps.trans later.keeps⟩

theorem handsOut (situated : program.SituatedSince start) (given : start.scopes.HandsOut context) :
    program.scopes.HandsOut context :=
  situated.keeps.handsOut given

/-- Whatever leaves the scopes alone stores contexts that were stored before or handed out. -/
theorem of_sameScopes (situated : program.SituatedSince start)
    (scopes : after.scopes = program.scopes)
    (declContext : ∀ symbol : SymbolId, symbol.index < after.symbols.size →
      program.scopes.HandsOut (after.entry symbol).declContext)
    (innerContext : ∀ type inner, (after.type type).innerContext? = some inner →
      (program.type type).innerContext? = some inner ∨ program.scopes.HandsOut inner) :
    after.SituatedSince start where
  nested := scopes ▸ situated.nested
  declContext symbol := by
    by_cases bound : symbol.index < after.symbols.size
    · rw [scopes]
      exact declContext symbol bound
    · rw [declContext_of_outside (Nat.le_of_not_lt bound)]
      exact .ofGlobal
  innerContext type inner stores := by
    rw [scopes]
    exact (innerContext type inner stores).elim (situated.innerContext type inner) id
  keeps := scopes ▸ situated.keeps

theorem withScopes (situated : program.SituatedSince start) {scopes : ScopeTree}
    (keeps : program.scopes.KeepsShape scopes) (nested : scopes.IsNested) :
    { program with scopes }.SituatedSince start where
  nested := nested
  declContext symbol := keeps.handsOut (situated.declContext symbol)
  innerContext type inner stores := keeps.handsOut (situated.innerContext type inner stores)
  keeps := situated.keeps.trans keeps

theorem createChild (situated : program.SituatedSince start) {parent : ScopeId}
    (bound : parent.index < program.scopes.scopes.size) (kind : ScopeKind)
    (owner : Option SymbolId) :
    { program with scopes := (program.scopes.createChild parent kind owner).2 }
      |>.SituatedSince start :=
  situated.withScopes (.createChild _ _ _ _) (situated.nested.createChild bound kind owner)

theorem signIn (situated : program.SituatedSince start) (scope : ScopeId) (name : String)
    (symbol : SymbolId) : (program.signIn scope name symbol).SituatedSince start :=
  situated.withScopes (.insert _ _ _ _) (situated.nested.insert scope name symbol)

theorem addEntry (situated : program.SituatedSince start) {added : SymbolEntry}
    (given : program.scopes.HandsOut added.declContext) :
    (program.addEntry added).2.SituatedSince start := by
  refine situated.of_sameScopes rfl (fun symbol bound => ?_) fun _ _ stores => .inl stores
  rw [size_addEntry] at bound
  rcases Nat.lt_succ_iff_lt_or_eq.mp bound with older | isLast
  · rw [entry_addEntry_of_lt older]
    exact situated.declContext symbol
  · obtain rfl : symbol = (program.addEntry added).1 := congrArg SymbolId.mk isLast
    rw [entry_addEntry_self]
    exact given

theorem modifyEntry (situated : program.SituatedSince start) (symbol : SymbolId)
    {change : SymbolEntry → SymbolEntry}
    (stays : ∀ entry, (change entry).declContext = entry.declContext) :
    (program.modifyEntry symbol change).SituatedSince start := by
  refine situated.of_sameScopes rfl (fun id bound => ?_) fun _ _ stores => .inl stores
  rw [size_modifyEntry] at bound
  by_cases same : id = symbol
  · subst same
    rw [entry_modifyEntry_self bound, stays]
    exact situated.declContext id
  · rw [entry_modifyEntry_of_ne same]
    exact situated.declContext id

theorem newType (situated : program.SituatedSince start) {type : Ty}
    (given : ∀ inner, type.innerContext? = some inner → program.scopes.HandsOut inner) :
    (program.newType type).2.SituatedSince start := by
  refine situated.of_sameScopes rfl (fun symbol _ => situated.declContext symbol)
    fun id inner stores => ?_
  have bound := index_lt_of_innerContext? stores
  rw [Program.newType, Array.size_push] at bound
  rcases Nat.lt_succ_iff_lt_or_eq.mp bound with older | isLast
  · rw [type_newType_of_lt older] at stores
    exact .inl stores
  · obtain rfl : id = (program.newType type).1 := congrArg TypeId.mk isLast
    rw [type_newType_self] at stores
    exact .inr (given inner stores)

theorem modifyClass (situated : program.SituatedSince start) (type : TypeId)
    {change : ClassType → ClassType}
    (given : ∀ data inner, (change data).innerContext = some inner →
      data.innerContext = some inner ∨ program.scopes.HandsOut inner) :
    (program.modifyClass type change).SituatedSince start := by
  unfold Program.modifyClass
  split
  case h_2 => exact situated
  case h_1 actual _ =>
    refine situated.of_sameScopes rfl (fun symbol _ => situated.declContext symbol)
      fun id inner stores => ?_
    rw [type_modifyType] at stores
    split at stores
    case isFalse => exact .inl stores
    case isTrue =>
      cases before : program.type id with
      | classType data =>
          rw [before] at stores
          exact given data inner stores
      | _ =>
          rw [before] at stores
          cases stores

theorem modifyTemplate (situated : program.SituatedSince start) (type : TypeId)
    (change : TemplateType → TemplateType) :
    (program.modifyTemplate type change).SituatedSince start := by
  refine situated.of_sameScopes rfl (fun symbol _ => situated.declContext symbol)
    fun id inner stores => ?_
  rw [Program.modifyTemplate, type_modifyType] at stores
  split at stores
  case isFalse => exact .inl stores
  case isTrue =>
    cases before : program.type id with
    | classType data =>
        rw [before] at stores
        exact .inl stores
    | _ =>
        rw [before] at stores
        cases stores

end SituatedSince

end Program

end CppTemplates
