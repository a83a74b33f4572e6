import Mathlib.Logic.Relation
import CppTemplates.Proofs.Program.Growth
import CppTemplates.Proofs.Program.Lookup
import CppTemplates.Proofs.Tree.Extension

/-!
# Conservative extensions

A program can be extended without touching what is there: nodes, types, scopes and symbols are
added at the end, and symbols are listed in new scopes, or in old ones under a name that the scope
declares already.  Every question about the old part then has the answer that it had, provided
that the old part refers to nothing outside of itself.

The first candidate of a name decides, so lists of candidates may grow at their end.  A list that
was empty stays empty.
-/

namespace CppTemplates

/-- A list of candidates that has grown at its end, unless it was empty. -/
def GrownFrom (before after : List SymbolId) : Prop :=
  before <+: after ∧ (before = [] → after = [])

namespace GrownFrom

variable {before after : List SymbolId}

theorem refl (candidates : List SymbolId) : GrownFrom candidates candidates :=
  ⟨List.prefix_refl candidates, id⟩

theorem append (grown : GrownFrom before after) (declared : after ≠ []) (symbol : SymbolId) :
    GrownFrom before (after ++ [symbol]) :=
  ⟨grown.1.trans (List.prefix_append after [symbol]), fun isNew => absurd (grown.2 isNew) declared⟩

theorem eq_nil (grown : GrownFrom [] after) : after = [] :=
  grown.2 rfl

theorem exists_cons {first : SymbolId} {rest : List SymbolId}
    (grown : GrownFrom (first :: rest) after) : ∃ more, after = first :: (rest ++ more) := by
  obtain ⟨⟨more, rfl⟩, -⟩ := grown
  exact ⟨more, by simp⟩

end GrownFrom

/-- Whether the scopes that lookups from a context start in are there. -/
structure ScopeTree.Hosts (scopes : ScopeTree) (context : DeclContext) : Prop where
  globalScope : context.globalScope.index < scopes.scopes.size
  currentScope : context.currentScope.index < scopes.scopes.size

namespace ScopeTree

variable {tree : ScopeTree}

theorem lookupLocal_createChild_of_lt {id : ScopeId} (bound : id.index < tree.scopes.size)
    (parent : ScopeId) (kind : ScopeKind) (owner : Option SymbolId) (name : String) :
    (tree.createChild parent kind owner).2.lookupLocal id name = tree.lookupLocal id name := by
  rw [lookupLocal, scope_createChild_of_lt bound, lookupLocal]

theorem lookupLocal_insert_of_ne {scope id : ScopeId} (other : id ≠ scope) (name : String)
    (symbol : SymbolId) (sought : String) :
    (tree.insert scope name symbol).lookupLocal id sought = tree.lookupLocal id sought := by
  rw [lookupLocal, scope_insert_of_ne other, lookupLocal]

theorem lookupLocal_insert_self {scope : ScopeId} (bound : scope.index < tree.scopes.size)
    (name : String) (symbol : SymbolId) (sought : String) :
    (tree.insert scope name symbol).lookupLocal scope sought =
      if sought = name then tree.lookupLocal scope name ++ [symbol]
      else tree.lookupLocal scope sought := by
  rw [lookupLocal, scope_insert_self bound, ScopeEntries.candidates_insert, lookupLocal,
    lookupLocal]

end ScopeTree

namespace Program

/-- A program that refers to no scope, symbol, type or node that does not exist. -/
structure IsClosed (program : Program) (tree : SyntaxTree) : Prop where
  listed : ∀ scope name, ∀ symbol ∈ program.scopes.lookupLocal scope name,
    symbol.index < program.symbols.size
  declContext : ∀ symbol : SymbolId, symbol.index < program.symbols.size →
    program.scopes.Hosts (program.entry symbol).declContext
  relatedScope : ∀ symbol scope, (program.entry symbol).relatedScope = some scope →
    scope.index < program.scopes.scopes.size
  entryType : ∀ symbol type, (program.entry symbol).type = some type →
    type.index < program.types.size
  value : ∀ symbol expression, (program.entry symbol).value = some expression →
    expression.index < tree.size
  named : ∀ type symbol, program.type type = .named symbol → symbol.index < program.symbols.size
  typedefOf : ∀ type inner, program.type type = .typedefOf inner →
    inner.index < program.types.size
  innerContext : ∀ type data inner, program.type type = .classType data →
    data.innerContext = some inner → program.scopes.Hosts inner

/-- One program extends another without touching it, but for longer lists of candidates. -/
structure ConservativelyExtends (after before : Program) : Prop where
  scopes_le : before.scopes.scopes.size ≤ after.scopes.scopes.size
  symbols_le : before.symbols.size ≤ after.symbols.size
  types_le : before.types.size ≤ after.types.size
  parent : ∀ scope : ScopeId, scope.index < before.scopes.scopes.size →
    (after.scopes.scope scope).parent = (before.scopes.scope scope).parent
  lookupLocal : ∀ (scope : ScopeId) (name : String), scope.index < before.scopes.scopes.size →
    GrownFrom (before.scopes.lookupLocal scope name) (after.scopes.lookupLocal scope name)
  entry : ∀ symbol : SymbolId, symbol.index < before.symbols.size →
    after.entry symbol = before.entry symbol
  type : ∀ type : TypeId, type.index < before.types.size → after.type type = before.type type

/-- One operation that takes part in extending a program, together with the tree that it refers
to. -/
inductive ExtensionStep (start : Program) : SyntaxTree × Program → SyntaxTree × Program → Prop
  | node (tree : SyntaxTree) (program : Program) (node : Node) :
      ExtensionStep start (tree, program) (tree.push node, program)
  | type (tree : SyntaxTree) (program : Program) (type : Ty) :
      ExtensionStep start (tree, program) (tree, (program.newType type).2)
  | scope (tree : SyntaxTree) (program : Program) (parent : ScopeId) (kind : ScopeKind)
      (owner : Option SymbolId) :
      ExtensionStep start (tree, program)
        (tree, { program with scopes := (program.scopes.createChild parent kind owner).2 })
  | symbol (tree : SyntaxTree) (program : Program) (entry : SymbolEntry) :
      ExtensionStep start (tree, program) (tree, (program.addEntry entry).2)
  | signIn (tree : SyntaxTree) (program : Program) (scope : ScopeId) (name : String)
      (symbol : SymbolId)
      (inPlace : start.scopes.scopes.size ≤ scope.index ∨
        program.scopes.lookupLocal scope name ≠ []) :
      ExtensionStep start (tree, program) (tree, program.signIn scope name symbol)
  | newSymbolEdited (tree : SyntaxTree) (program : Program) (symbol : SymbolId)
      (isNew : start.symbols.size ≤ symbol.index) (change : SymbolEntry → SymbolEntry) :
      ExtensionStep start (tree, program) (tree, program.modifyEntry symbol change)
  | newTypeEdited (tree : SyntaxTree) (program : Program) (type : TypeId)
      (isNew : start.types.size ≤ type.index) (change : Ty → Ty) :
      ExtensionStep start (tree, program) (tree, program.modifyType type change)

namespace ConservativelyExtends

variable {start program after : Program}

theorem refl (program : Program) : program.ConservativelyExtends program where
  scopes_le := Nat.le_refl _
  symbols_le := Nat.le_refl _
  types_le := Nat.le_refl _
  parent _ _ := rfl
  lookupLocal _ _ _ := GrownFrom.refl _
  entry _ _ := rfl
  type _ _ := rfl

theorem of_sameScopes (grown : program.ConservativelyExtends start)
    (scopes : after.scopes = program.scopes)
    (symbols_le : program.symbols.size ≤ after.symbols.size)
    (types_le : program.types.size ≤ after.types.size)
    (entry : ∀ symbol : SymbolId, symbol.index < start.symbols.size →
      after.entry symbol = program.entry symbol)
    (type : ∀ type : TypeId, type.index < start.types.size →
      after.type type = program.type type) : after.ConservativelyExtends start where
  scopes_le := scopes ▸ grown.scopes_le
  symbols_le := Nat.le_trans grown.symbols_le symbols_le
  types_le := Nat.le_trans grown.types_le types_le
  parent := scopes ▸ grown.parent
  lookupLocal := scopes ▸ grown.lookupLocal
  entry id bound := (entry id bound).trans (grown.entry id bound)
  type id bound := (type id bound).trans (grown.type id bound)

theorem newType (grown : program.ConservativelyExtends start) (type : Ty) :
    (program.newType type).2.ConservativelyExtends start :=
  grown.of_sameScopes rfl (Nat.le_refl _) (by simp [Program.newType]) (fun _ _ => rfl)
    fun _ bound => type_newType_of_lt (Nat.lt_of_lt_of_le bound grown.types_le) type

theorem addEntry (grown : program.ConservativelyExtends start) (added : SymbolEntry) :
    (program.addEntry added).2.ConservativelyExtends start :=
  grown.of_sameScopes rfl (by simp) (Nat.le_refl _)
    (fun _ bound => entry_addEntry_of_lt (Nat.lt_of_lt_of_le bound grown.symbols_le) added)
    fun _ _ => rfl

theorem modifyEntry (grown : program.ConservativelyExtends start) {symbol : SymbolId}
    (isNew : start.symbols.size ≤ symbol.index) (change : SymbolEntry → SymbolEntry) :
    (program.modifyEntry symbol change).ConservativelyExtends start := by
  refine grown.of_sameScopes rfl (by simp) (Nat.le_refl _) (fun id bound => ?_) fun _ _ => rfl
  apply entry_modifyEntry_of_ne
  rintro rfl
  omega

theorem modifyType (grown : program.ConservativelyExtends start) {type : TypeId}
    (isNew : start.types.size ≤ type.index) (change : Ty → Ty) :
    (program.modifyType type change).ConservativelyExtends start := by
  refine grown.of_sameScopes rfl (Nat.le_refl _) (by simp) (fun _ _ => rfl) fun id bound => ?_
  apply type_modifyType_of_ne
  rintro rfl
  omega

theorem createChild (grown : program.ConservativelyExtends start) (parent : ScopeId)
    (kind : ScopeKind) (owner : Option SymbolId) :
    { program with scopes := (program.scopes.createChild parent kind owner).2 }
      |>.ConservativelyExtends start where
  scopes_le := Nat.le_trans grown.scopes_le (by simp)
  symbols_le := grown.symbols_le
  types_le := grown.types_le
  parent id bound := by
    rw [ScopeTree.scope_createChild_of_lt (Nat.lt_of_lt_of_le bound grown.scopes_le)]
    exact grown.parent id bound
  lookupLocal id name bound := by
    have same := ScopeTree.lookupLocal_createChild_of_lt
      (Nat.lt_of_lt_of_le bound grown.scopes_le) parent kind owner name
    exact same ▸ grown.lookupLocal id name bound
  entry := grown.entry
  type := grown.type

/-- A symbol may be listed in a new scope, or where its name is declared already. -/
theorem signIn (grown : program.ConservativelyExtends start) {scope : ScopeId} {name : String}
    (symbol : SymbolId) (inPlace : start.scopes.scopes.size ≤ scope.index ∨
      program.scopes.lookupLocal scope name ≠ []) :
    (program.signIn scope name symbol).ConservativelyExtends start where
  scopes_le := by simpa [Program.signIn] using grown.scopes_le
  symbols_le := grown.symbols_le
  types_le := grown.types_le
  parent id bound := by
    rw [← grown.parent id bound]
    by_cases same : id = scope
    · subst same
      rw [Program.signIn,
        ScopeTree.scope_insert_self (Nat.lt_of_lt_of_le bound grown.scopes_le)]
    · rw [Program.signIn, ScopeTree.scope_insert_of_ne same]
  lookupLocal id other bound := by
    have longer := grown.lookupLocal id other bound
    change GrownFrom _ ((program.scopes.insert scope name symbol).lookupLocal id other)
    by_cases same : id = scope
    · subst same
      rw [ScopeTree.lookupLocal_insert_self (Nat.lt_of_lt_of_le bound grown.scopes_le)]
      by_cases atName : other = name
      · subst atName
        have declared : program.scopes.lookupLocal id other ≠ [] :=
          inPlace.resolve_left (Nat.not_le_of_lt bound)
        rw [if_pos rfl]
        exact longer.append declared symbol
      · rw [if_neg atName]
        exact longer
    · rw [ScopeTree.lookupLocal_insert_of_ne same]
      exact longer
  entry := grown.entry
  type := grown.type

end ConservativelyExtends

theorem ExtensionStep.extends {start : Program} {current next : SyntaxTree × Program}
    (step : start.ExtensionStep current next) :
    current.1.Extends next.1 ∧ (current.2.ConservativelyExtends start →
      next.2.ConservativelyExtends start) := by
  cases step with
  | node tree program node => exact ⟨SyntaxTree.extends_push tree node, id⟩
  | type tree program type => exact ⟨.refl tree, fun grown => grown.newType type⟩
  | scope tree program parent kind owner =>
      exact ⟨.refl tree, fun grown => grown.createChild parent kind owner⟩
  | symbol tree program entry => exact ⟨.refl tree, fun grown => grown.addEntry entry⟩
  | signIn tree program scope name symbol inPlace =>
      exact ⟨.refl tree, fun grown => grown.signIn symbol inPlace⟩
  | newSymbolEdited tree program symbol isNew change =>
      exact ⟨.refl tree, fun grown => grown.modifyEntry isNew change⟩
  | newTypeEdited tree program type isNew change =>
      exact ⟨.refl tree, fun grown => grown.modifyType isNew change⟩

theorem extends_of_steps {start after : Program} {tree later : SyntaxTree}
    (steps : Relation.ReflTransGen start.ExtensionStep (tree, start) (later, after)) :
    tree.Extends later ∧ after.ConservativelyExtends start := by
  have both : ∀ last : SyntaxTree × Program,
      Relation.ReflTransGen start.ExtensionStep (tree, start) last →
        tree.Extends last.1 ∧ last.2.ConservativelyExtends start := by
    intro last steps
    induction steps with
    | refl => exact ⟨.refl tree, .refl start⟩
    | tail _ step ih => exact ⟨ih.1.trans step.extends.1, step.extends.2 ih.2⟩
  exact both (later, after) steps

/-- Declaring a variable takes such steps in a new scope, and in an old one that declares the name
already. -/
theorem extensionSteps_declareVariable {start program : Program} {tree : SyntaxTree}
    {context : DeclContext} {name : String} (later : start.symbols.size ≤ program.symbols.size)
    (inPlace : start.scopes.scopes.size ≤ context.currentScope.index ∨
      program.scopes.lookupLocal context.currentScope name ≠ [])
    (type : TypeId) (initializer : Option NodeId) :
    Relation.ReflTransGen start.ExtensionStep (tree, program)
      (tree, (program.declareVariable context name type initializer).2) := by
  have created : start.ExtensionStep (tree, program)
      (tree, (program.newUnscopedSymbol context name .variableName).2) := .symbol tree program _
  have listed : start.ExtensionStep
      (tree, (program.newUnscopedSymbol context name .variableName).2)
      (tree, (program.newSymbol context context.currentScope name .variableName).2) :=
    .signIn tree _ context.currentScope name ⟨program.symbols.size⟩ inPlace
  exact .head created (.head listed (.single (.newSymbolEdited tree _ _ later _)))

/-- Two answers of a lookup: the same error, or candidates that have grown at their end. -/
inductive GrownAnswer :
    Except LookupError (List SymbolId) → Except LookupError (List SymbolId) → Prop
  | error (cause : LookupError) : GrownAnswer (.error cause) (.error cause)
  | ok {before after : List SymbolId} (grown : GrownFrom before after) :
      GrownAnswer (.ok before) (.ok after)

namespace IsClosed

variable {program : Program} {tree : SyntaxTree} (closed : program.IsClosed tree)
include closed

theorem index_lt_of_aliased? {type next : TypeId} (aliases : program.aliased? type = some next) :
    next.index < program.types.size := by
  rcases aliased?_eq_some.mp aliases with isTypedef | ⟨symbol, -, -, typed⟩
  · exact closed.typedefOf type next isTypedef
  · exact closed.entryType symbol next typed

theorem index_lt_followTypedefs {type : TypeId} (bound : type.index < program.types.size)
    (steps : Nat) : (program.followTypedefs steps type).index < program.types.size := by
  induction steps generalizing type with
  | zero => exact bound
  | succ steps ih =>
      cases aliases : program.aliased? type with
      | none => rwa [followTypedefs_of_eq_none _ aliases]
      | some next =>
          rw [followTypedefs_succ steps aliases]
          exact ih (closed.index_lt_of_aliased? aliases)

theorem index_lt_of_openedScope? {symbol : SymbolId} {scope : ScopeId}
    (opens : program.openedScope? symbol = some scope) :
    scope.index < program.scopes.scopes.size := by
  simp only [openedScope?] at opens
  split at opens
  · exact closed.relatedScope symbol scope opens
  · simp only [Option.bind_eq_bind, Option.bind_eq_some_iff] at opens
    obtain ⟨type, -, data, isClass, inner, atInner, same⟩ := opens
    obtain ⟨actual, -, atActual⟩ := classData?_eq_some_iff.mp isClass
    cases same
    exact (closed.innerContext actual data inner atActual atInner).currentScope
  · simp only [Option.bind_eq_bind, Option.bind_eq_some_iff] at opens
    obtain ⟨type, -, data, isClass, inner, atInner, same⟩ := opens
    obtain ⟨actual, -, atActual⟩ := classData?_eq_some_iff.mp isClass
    cases same
    exact (closed.innerContext actual data inner atActual atInner).currentScope
  · cases opens

end IsClosed

namespace KeepsEntities

variable {before after : Program} {type : TypeId}

/-- What names a symbol later has always named it. -/
theorem named_eq_of_lt (keeps : before.KeepsEntities after) (bound : type.index < before.types.size)
    {symbol : SymbolId} (isName : after.type type = .named symbol) :
    before.type type = .named symbol := by
  rw [← isName]
  apply (keeps.type type bound).eq_of_notClassLater
  simp [isName]

theorem classType_of_lt (keeps : before.KeepsEntities after)
    (bound : type.index < before.types.size) {data : ClassType}
    (isClass : after.type type = .classType data) :
    ∃ original, before.type type = .classType original ∧
      ∀ inner, original.innerContext = some inner → data.innerContext = some inner := by
  have kept := keeps.type type bound
  rw [isClass] at kept
  cases atType : before.type type with
  | classType original =>
      rw [atType] at kept
      obtain ⟨_, same, -, -, keepsInner⟩ := kept
      cases same
      exact ⟨original, rfl, keepsInner⟩
  | _ =>
      rw [atType] at kept
      cases kept

variable {tree : SyntaxTree}
variable (keeps : before.KeepsEntities after) (closed : before.IsClosed tree)
include keeps closed

theorem aliased?_eq_of_lt (bound : type.index < before.types.size) :
    after.aliased? type = before.aliased? type := by
  apply Option.ext
  intro next
  refine ⟨fun aliases => ?_, keeps.aliased?_eq_some⟩
  rw [Program.aliased?_eq_some] at aliases ⊢
  rcases aliases with isTypedef | ⟨symbol, isName, ofKind, named⟩
  · left
    rw [← isTypedef]
    apply (keeps.type type bound).eq_of_notClassLater
    simp [isTypedef]
  · have isNameBefore := keeps.named_eq_of_lt bound isName
    obtain ⟨defined, _, same⟩ := keeps.entry symbol (closed.named type symbol isNameBefore)
    rw [same] at ofKind named
    exact .inr ⟨symbol, isNameBefore, ofKind, named⟩

theorem followTypedefs_eq_of_lt (bound : type.index < before.types.size) (steps : Nat) :
    after.followTypedefs steps type = before.followTypedefs steps type := by
  induction steps generalizing type with
  | zero => rfl
  | succ steps ih =>
      have same := keeps.aliased?_eq_of_lt closed bound
      cases aliases : before.aliased? type with
      | none =>
          rw [aliases] at same
          rw [followTypedefs_of_eq_none _ same, followTypedefs_of_eq_none _ aliases]
      | some next =>
          rw [aliases] at same
          rw [followTypedefs_succ steps same, followTypedefs_succ steps aliases]
          exact ih (closed.index_lt_of_aliased? aliases)

theorem directClass?_eq_of_lt (bound : type.index < before.types.size) :
    after.directClass? type = before.directClass? type := by
  apply Option.ext
  intro found
  refine ⟨fun direct => ?_, keeps.directClass?_eq_some⟩
  rw [Program.directClass?_eq_some] at direct ⊢
  obtain ⟨⟨data, isClass⟩, rfl | ⟨symbol, isName, named⟩⟩ := direct
  · obtain ⟨original, isClassBefore, -⟩ := keeps.classType_of_lt bound isClass
    exact ⟨⟨original, isClassBefore⟩, .inl rfl⟩
  · have isNameBefore := keeps.named_eq_of_lt bound isName
    obtain ⟨defined, _, same⟩ := keeps.entry symbol (closed.named type symbol isNameBefore)
    rw [same] at named
    obtain ⟨original, isClassBefore, -⟩ :=
      keeps.classType_of_lt (closed.entryType symbol found named) isClass
    exact ⟨⟨original, isClassBefore⟩, .inr ⟨symbol, isNameBefore, named⟩⟩

/-- A type is or names the class that it was or named. -/
theorem actualClass?_eq_of_lt (bound : type.index < before.types.size) :
    after.actualClass? type = before.actualClass? type := by
  calc
    after.actualClass? type =
        before.directClass? (before.followTypedefs after.types.size type) := by
      rw [actualClass?_eq_directClass?, stripTypedefs, keeps.followTypedefs_eq_of_lt closed bound,
        keeps.directClass?_eq_of_lt closed (closed.index_lt_followTypedefs bound _)]
    _ = before.actualClass? type :=
      directClass?_followTypedefs_eq_actualClass? keeps.types_le type

end KeepsEntities

namespace ConservativelyExtends

variable {before after : Program} {tree : SyntaxTree}

theorem lookup (grown : after.ConservativelyExtends before) {scope : ScopeId}
    (bound : scope.index < before.scopes.scopes.size) (name : String) :
    GrownFrom (before.scopes.lookup scope name) (after.scopes.lookup scope name) := by
  have atScope := grown.lookupLocal scope name bound
  rw [ScopeTree.lookup, ScopeTree.lookup.eq_def after.scopes]
  cases found : before.scopes.lookupLocal scope name with
  | cons first rest =>
      rw [found] at atScope
      obtain ⟨more, later⟩ := atScope.exists_cons
      rw [later] at atScope ⊢
      exact atScope
  | nil =>
      rw [found] at atScope
      rw [atScope.eq_nil, grown.parent scope bound]
      cases (before.scopes.scope scope).parent with
      | none => exact .refl []
      | some parent =>
          by_cases older : parent.index < scope.index
          · simp only [older, if_true]
            exact grown.lookup (Nat.lt_trans older bound) name
          · simp only [older, if_false]
            exact .refl []
termination_by scope.index

/-- A conservative extension has changed no symbol and no type. -/
theorem keepsEntities (grown : after.ConservativelyExtends before) :
    before.KeepsEntities after where
  symbols_le := grown.symbols_le
  types_le := grown.types_le
  entry id bound := by
    rw [grown.entry id bound]
    exact .refl _
  type id bound := by
    rw [grown.type id bound]
    exact .refl _

variable (grown : after.ConservativelyExtends before) (closed : before.IsClosed tree)
include grown closed

theorem classData?_eq {type : TypeId} (bound : type.index < before.types.size) :
    after.classData? type = before.classData? type := by
  unfold classData?
  rw [grown.keepsEntities.actualClass?_eq_of_lt closed bound]
  cases isActual : before.actualClass? type with
  | none => rfl
  | some actual =>
      have direct := isActual
      rw [actualClass?_eq_directClass?] at direct
      obtain ⟨⟨data, isClass⟩, -⟩ := directClass?_eq_some.mp direct
      have actualBound : actual.index < before.types.size := by
        apply index_lt_of_type_ne_default
        rw [isClass]
        intro same
        cases same
      simp only [Option.bind_eq_bind, Option.bind_some]
      rw [grown.type actual actualBound]

theorem openedScope?_eq {symbol : SymbolId} (bound : symbol.index < before.symbols.size) :
    after.openedScope? symbol = before.openedScope? symbol := by
  simp only [openedScope?, grown.entry symbol bound]
  cases hasType : (before.entry symbol).type with
  | none => rfl
  | some type =>
      simp only [Option.bind_eq_bind, Option.bind_some,
        grown.classData?_eq closed (closed.entryType symbol type hasType)]

end ConservativelyExtends

end Program

end CppTemplates
