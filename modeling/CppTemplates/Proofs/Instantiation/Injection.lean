import Mathlib.Data.List.Forall2
import CppTemplates.Instantiation.Injection
import CppTemplates.Proofs.Evaluation.Growth

/-!
# What injecting arguments declares

Injecting a list of arguments adds one symbol for each to the template scope, in the order of the
list, and touches nothing else that was there.  Later arguments are folded in a program that has
the earlier ones injected.  That does not matter for an argument that has a value, or names a
template, before the first injection.
-/

namespace CppTemplates

/-- The name of a parameter and what it is to be bound to. -/
structure Binding where
  name : String
  kind : ParameterKind
  argument : TemplateArgument

namespace Session

/-- Declares the arguments of bindings one after the other. -/
def injectAll (context : DeclContext) :
    List Binding → Session → Except InstantiationError Session
  | [], session => .ok session
  | binding :: rest, session => do
      let (_, session) ← session.injectArgument context binding.name binding.kind binding.argument
      injectAll context rest session

/-- One session has the nodes and entities of another. -/
structure Grows (before after : Session) : Prop where
  program : before.program.Preserves after.program
  tree : before.tree.Extends after.tree

theorem Grows.refl (session : Session) : session.Grows session :=
  ⟨Program.Preserves.refl _, SyntaxTree.Extends.refl _⟩

theorem Grows.trans {first second third : Session} (earlier : first.Grows second)
    (later : second.Grows third) : first.Grows third :=
  ⟨earlier.program.trans later.program, earlier.tree.trans later.tree⟩

/-- A symbol stands for an argument: a typedef of a type argument, a template name for a template
argument, and for a non-type argument a variable whose initializer spells the value that the
argument had at the moment of its injection. -/
def IsBound (before after : Session) (symbol : SymbolId) (argument : TemplateArgument) : Prop :=
  symbol.index < after.program.symbols.size ∧
    (after.program.entry symbol).isTemplateArgument = true ∧
    match argument with
    | .type type =>
        (after.program.entry symbol).kind = .typedefName ∧
          ∃ typedef, (after.program.entry symbol).type = some typedef ∧
            after.program.type typedef = .typedefOf type
    | .template type =>
        (after.program.entry symbol).kind = .templateName ∧
          ∃ moment : Session, before.Grows moment ∧
            ∃ template, moment.program.namedTemplate? type = some template ∧
              (after.program.entry symbol).type = some template
    | .nonType type expression context =>
        (after.program.entry symbol).kind = .variableName ∧
          (after.program.entry symbol).defined = true ∧
          (after.program.entry symbol).type = some type ∧
          ∃ moment : Session, before.Grows moment ∧
            ∃ value literal, evaluate moment.tree moment.program context expression = .ok value ∧
              (after.program.entry symbol).value = some literal ∧
              literal.index < after.tree.size ∧ after.tree.node literal = value.literalLeaf

namespace IsBound

variable {before after : Session} {symbol : SymbolId} {argument : TemplateArgument}

theorem later {last : Session} (bound : IsBound before after symbol argument)
    (keeps : after.program.KeepsEntities last.program) (grows : after.tree.Extends last.tree) :
    IsBound before last symbol argument := by
  obtain ⟨inProgram, isArgument, describes⟩ := bound
  obtain ⟨defined, stays, same⟩ := keeps.entry symbol inProgram
  refine ⟨Nat.lt_of_lt_of_le inProgram keeps.symbols_le, by rw [same]; exact isArgument, ?_⟩
  cases argument with
  | type type =>
      obtain ⟨ofKind, typedef, typed, isTypedef⟩ := describes
      exact ⟨by rw [same]; exact ofKind, typedef, by rw [same]; exact typed,
        keeps.typedef_eq isTypedef⟩
  | template type =>
      obtain ⟨ofKind, moment, grown, template, named, typed⟩ := describes
      exact ⟨by rw [same]; exact ofKind, moment, grown, template, named, by rw [same]; exact typed⟩
  | nonType type expression context =>
      obtain ⟨ofKind, isDefined, typed, moment, grown, value, literal, folded, initialized, inTree,
        spelt⟩ := describes
      refine ⟨by rw [same]; exact ofKind, by rw [same]; exact stays isDefined,
        by rw [same]; exact typed, moment, grown, value, literal, folded,
        by rw [same]; exact initialized, Nat.lt_of_lt_of_le inTree grows.size_le, ?_⟩
      rw [grows.node_eq literal inTree]
      exact spelt

theorem earlier {first : Session} (grown : first.Grows before)
    (bound : IsBound before after symbol argument) : IsBound first after symbol argument := by
  obtain ⟨inProgram, isArgument, describes⟩ := bound
  refine ⟨inProgram, isArgument, ?_⟩
  cases argument with
  | type type => exact describes
  | template type =>
      obtain ⟨ofKind, moment, grownLater, rest⟩ := describes
      exact ⟨ofKind, moment, grown.trans grownLater, rest⟩
  | nonType type expression context =>
      obtain ⟨ofKind, isDefined, typed, moment, grownLater, rest⟩ := describes
      exact ⟨ofKind, isDefined, typed, moment, grown.trans grownLater, rest⟩

end IsBound

end Session

namespace Program

theorem KeepsEntities.namedTemplate?_eq_some {before after : Program}
    (keeps : before.KeepsEntities after) {type template : TypeId}
    (named : before.namedTemplate? type = some template) :
    after.namedTemplate? type = some template := by
  obtain ⟨symbol, isSymbol, isTemplate⟩ := Option.bind_eq_some_iff.mp named
  have isName : before.type (before.stripTypedefs type) = .named symbol := by
    unfold namedSymbol? at isSymbol
    split at isSymbol
    · cases isSymbol
      assumption
    · cases isSymbol
  have ofKind : (before.entry symbol).kind = .templateName := by
    cases atKind : (before.entry symbol).kind <;> simp [atKind] at isTemplate
    rfl
  simp only [ofKind] at isTemplate
  have ofKindAfter : (after.entry symbol).kind = .templateName := by
    rw [keeps.kind_eq (index_lt_of_entryType isTemplate), ofKind]
  have isNameAfter := keeps.named_eq isName
  have stops : after.aliased? (before.stripTypedefs type) = none := by
    simp [aliased?, isNameAfter, ofKindAfter]
  have sameStrip : after.stripTypedefs type = before.stripTypedefs type :=
    keeps.followTypedefs_eq keeps.types_le stops
  simp only [namedTemplate?, namedSymbol?, sameStrip, isNameAfter, Option.bind_eq_bind,
    Option.bind_some, ofKindAfter]
  exact keeps.entryType_eq isTemplate

variable (program : Program) (context : DeclContext) (name : String) (kind : SymbolKind)
variable (type : TypeId) (value : Option NodeId)

theorem keepsEntities_declareArgument :
    program.KeepsEntities (program.declareArgument context name kind type value).2 :=
  (((KeepsEntities.refl program).addEntry _).withScopes _).modifyEntry_new (Nat.le_refl _) _

theorem scopes_declareArgument {scope : ScopeId} (inScope : context.templateScope = some scope) :
    (program.declareArgument context name kind type value).2.scopes =
      program.scopes.insert scope name
        (program.declareArgument context name kind type value).1 := by
  simp [declareArgument, newSymbol, signIn, addEntry, modifyEntry, inScope]

theorem index_declareArgument_lt :
    (program.declareArgument context name kind type value).1.index <
      (program.declareArgument context name kind type value).2.symbols.size := by
  simp [declareArgument, newSymbol, signIn, addEntry]

theorem entry_declareArgument :
    (program.declareArgument context name kind type value).2.entry
        (program.declareArgument context name kind type value).1 =
      { name, kind, declContext := context
        scope := context.templateScope.getD context.currentScope
        type := some type, value, defined := value.isSome, isTemplateArgument := true } := by
  unfold declareArgument
  rw [entry_modifyEntry_self (by simp [newSymbol, signIn, addEntry])]
  simp [newSymbol]

/-- A declared argument touches nothing but the template scope. -/
theorem declares_declareArgument {scope : ScopeId} (inScope : context.templateScope = some scope)
    {id : SymbolId} {after : Program}
    (declares : program.declareArgument context name kind type value = (id, after)) :
    program.KeepsEntities after ∧ after.scopes = program.scopes.insert scope name id ∧
      id.index < after.symbols.size ∧
      after.entry id =
        { name, kind, declContext := context, scope, type := some type, value
          defined := value.isSome, isTemplateArgument := true } := by
  have keeps := keepsEntities_declareArgument program context name kind type value
  have scopes := scopes_declareArgument program context name kind type value inScope
  have bound := index_declareArgument_lt program context name kind type value
  have entry := entry_declareArgument program context name kind type value
  rw [declares] at keeps scopes bound entry
  rw [inScope] at entry
  exact ⟨keeps, scopes, bound, entry⟩

end Program

namespace Session

/-- An argument is injected as a new symbol of the template scope that stands for it. -/
theorem injectArgument_ok {session after : Session} {context : DeclContext} {scope : ScopeId}
    (inScope : context.templateScope = some scope) {name : String} {kind : ParameterKind}
    {argument : TemplateArgument} {symbol : SymbolId}
    (injects : session.injectArgument context name kind argument = .ok (symbol, after)) :
    session.program.KeepsEntities after.program ∧ session.tree.Extends after.tree ∧
      after.program.scopes = session.program.scopes.insert scope name symbol ∧
      IsBound session after symbol argument := by
  obtain ⟨-, ways⟩ := injectsArgument_of_injectArgument injects
  cases ways with
  | type type declares =>
      obtain ⟨keeps, scopes, bound, entry⟩ :=
        Program.declares_declareArgument _ _ _ _ _ _ inScope declares
      refine ⟨((Program.KeepsEntities.refl _).newType (.typedefOf type)).trans keeps,
        SyntaxTree.Extends.refl _, scopes, bound, by rw [entry], by rw [entry], _,
        by rw [entry], ?_⟩
      exact keeps.typedef_eq (Program.type_newType_self _)
  | @template type template named _ declares =>
      obtain ⟨keeps, scopes, bound, entry⟩ :=
        Program.declares_declareArgument _ _ _ _ _ _ inScope declares
      exact ⟨keeps, SyntaxTree.Extends.refl _, scopes, bound, by rw [entry], by rw [entry],
        session, Grows.refl session, template, named, by rw [entry]⟩
  | @nonType type _ _ value folded _ declares =>
      obtain ⟨keeps, scopes, bound, entry⟩ :=
        Program.declares_declareArgument _ _ _ _ _ _ inScope declares
      refine ⟨keeps, SyntaxTree.extends_push _ _, scopes, bound, by rw [entry], by rw [entry],
        by rw [entry]; rfl, by rw [entry], session, Grows.refl session, value, _, folded,
        by rw [entry], ?_, ?_⟩
      · exact Nat.lt_of_lt_of_eq (Nat.lt_succ_self _) (SyntaxTree.size_push _).symm
      · exact SyntaxTree.node_push_self _ fun child member => absurd member List.not_mem_nil

/-- The entries of a scope that declares names once each. -/
def entriesFor (bindings : List Binding) (symbols : List SymbolId) : ScopeEntries :=
  List.zipWith (fun binding symbol => (binding.name, [symbol])) bindings symbols

theorem map_entriesFor {related : Binding → SymbolId → Prop} {bindings : List Binding}
    {symbols : List SymbolId} (pairs : List.Forall₂ related bindings symbols) :
    (entriesFor bindings symbols).map (·.1) = bindings.map (·.name) := by
  induction pairs with
  | nil => rfl
  | cons _ _ ih => simpa [entriesFor] using ih

/-- Each of the distinct names has the symbol at its position for its only candidate. -/
theorem exists_candidates_entriesFor {related : Binding → SymbolId → Prop}
    {bindings : List Binding} {symbols : List SymbolId}
    (pairs : List.Forall₂ related bindings symbols) (distinct : (bindings.map (·.name)).Nodup)
    {index : Nat} {binding : Binding} (isAt : bindings[index]? = some binding) :
    ∃ symbol, related binding symbol ∧
      (entriesFor bindings symbols).candidates binding.name = [symbol] := by
  induction pairs generalizing index with
  | nil => simp at isAt
  | @cons head symbol rest symbols isRelated _ ih =>
      obtain ⟨headNew, distinctRest⟩ := List.nodup_cons.mp distinct
      cases index with
      | zero =>
          simp only [List.getElem?_cons_zero, Option.some.injEq] at isAt
          subst isAt
          exact ⟨symbol, isRelated, by simp [entriesFor, ScopeEntries.candidates_cons]⟩
      | succ index =>
          simp only [List.getElem?_cons_succ] at isAt
          obtain ⟨later, laterRelated, found⟩ := ih distinctRest isAt
          have different : binding.name ≠ head.name := by
            intro same
            exact headNew (List.mem_map.mpr ⟨binding, List.mem_of_getElem? isAt, same⟩)
          refine ⟨later, laterRelated, ?_⟩
          simp only [entriesFor, List.zipWith_cons_cons, ScopeEntries.candidates_cons, different,
            if_false]
          exact found

/-- What injecting bindings into a scope of a session makes of the session, as seen from an earlier
session that does not have the scope. -/
structure Injected (origin session filled : Session) (scope : ScopeId) (bindings : List Binding)
    (symbols : List SymbolId) : Prop where
  grows : origin.Grows filled
  keeps : session.program.KeepsEntities filled.program
  treeGrows : session.tree.Extends filled.tree
  size_eq : filled.program.scopes.scopes.size = session.program.scopes.scopes.size
  others : ∀ other : ScopeId, other ≠ scope →
    filled.program.scopes.scope other = session.program.scopes.scope other
  injected : filled.program.scopes.scope scope =
    { session.program.scopes.scope scope with
      entries := (session.program.scopes.scope scope).entries ++ entriesFor bindings symbols }
  bound : List.Forall₂ (fun binding symbol => IsBound origin filled symbol binding.argument)
    bindings symbols

variable {origin session filled : Session} {context : DeclContext} {scope : ScopeId}

/-- Seen from a session that does not have the scope, an injection only adds to the session. -/
theorem Grows.injectArgument (grown : origin.Grows session)
    (inScope : context.templateScope = some scope)
    (isNew : origin.program.scopes.scopes.size ≤ scope.index) {name : String} {kind : ParameterKind}
    {argument : TemplateArgument} {symbol : SymbolId} {next : Session}
    (injects : session.injectArgument context name kind argument = .ok (symbol, next)) :
    origin.Grows next := by
  obtain ⟨keeps, treeGrows, scopes, -⟩ := injectArgument_ok inScope injects
  refine ⟨⟨grown.program.toKeepsEntities.trans keeps, ?_⟩, grown.tree.trans treeGrows⟩
  rw [scopes]
  exact grown.program.scopes.insert isNew name symbol

/-- Injecting bindings of distinct new names declares exactly these names, in their order, each for
one symbol that stands for its argument. -/
theorem injected_of_injectAll (inScope : context.templateScope = some scope)
    (grown : origin.Grows session) (isNew : origin.program.scopes.scopes.size ≤ scope.index)
    (inTree : scope.index < session.program.scopes.scopes.size) {bindings : List Binding}
    (distinct : (bindings.map (·.name)).Nodup)
    (free : ∀ binding ∈ bindings,
      binding.name ∉ (session.program.scopes.scope scope).entries.map (·.1))
    (injects : session.injectAll context bindings = .ok filled) :
    ∃ symbols, Injected origin session filled scope bindings symbols := by
  induction bindings generalizing session with
  | nil =>
      cases injects
      exact ⟨[], grown, Program.KeepsEntities.refl _, SyntaxTree.Extends.refl _, rfl,
        fun _ _ => rfl, by simp [entriesFor], .nil⟩
  | cons binding rest ih =>
      unfold injectAll at injects
      cases first : session.injectArgument context binding.name binding.kind binding.argument with
      | error cause =>
          rw [first] at injects
          cases injects
      | ok result =>
          obtain ⟨symbol, next⟩ := result
          rw [first] at injects
          obtain ⟨keeps, treeGrows, scopes, bound⟩ := injectArgument_ok inScope first
          have grownNext := grown.injectArgument inScope isNew first
          have nextScope : next.program.scopes.scope scope =
              { session.program.scopes.scope scope with
                entries := (session.program.scopes.scope scope).entries ++
                  [(binding.name, [symbol])] } := by
            rw [scopes, ScopeTree.scope_insert_self inTree,
              ScopeEntries.insert_eq_append (free binding List.mem_cons_self)]
          obtain ⟨nameNew, distinctRest⟩ := List.nodup_cons.mp distinct
          have freeNext : ∀ later ∈ rest,
              later.name ∉ (next.program.scopes.scope scope).entries.map (·.1) := by
            intro later member inEntries
            rw [nextScope, List.map_append, List.mem_append] at inEntries
            rcases inEntries with old | same
            · exact free later (List.mem_cons_of_mem _ member) old
            · have sameName : later.name = binding.name := by simpa using same
              exact nameNew (List.mem_map.mpr ⟨later, member, sameName⟩)
          obtain ⟨symbols, done⟩ := ih grownNext (by rw [scopes]; simpa using inTree) distinctRest
            freeNext injects
          refine ⟨symbol :: symbols, done.grows, keeps.trans done.keeps,
            treeGrows.trans done.treeGrows, ?_, ?_, ?_, .cons ?_ done.bound⟩
          · rw [done.size_eq, scopes, ScopeTree.size_insert]
          · intro other different
            rw [done.others other different, scopes, ScopeTree.scope_insert_of_ne different]
          · rw [done.injected, nextScope]
            simp [entriesFor]
          · exact (bound.earlier grown).later done.keeps done.treeGrows

/-- An argument can be injected: it is of the kind of its parameter, it names a template if it is
to, and it has a value if it is to. -/
def IsInjectable (session : Session) (binding : Binding) : Prop :=
  binding.argument.kind = binding.kind ∧
    match binding.argument with
    | .type _ => True
    | .template type => ∃ template, session.program.namedTemplate? type = some template
    | .nonType _ expression context =>
        ∃ value, evaluate session.tree session.program context expression = .ok value

theorem IsInjectable.grows {binding : Binding} (injectable : origin.IsInjectable binding)
    (grown : origin.Grows session) : session.IsInjectable binding := by
  obtain ⟨name, kind, argument⟩ := binding
  refine ⟨injectable.1, ?_⟩
  cases argument with
  | type type => exact trivial
  | template type =>
      obtain ⟨template, named⟩ := injectable.2
      exact ⟨template, grown.program.namedTemplate?_eq_some named⟩
  | nonType type expression expressionContext =>
      obtain ⟨value, folded⟩ := injectable.2
      exact ⟨value, evaluate_eq_ok_of_preserves grown.tree grown.program folded⟩

theorem exists_injectArgument (context : DeclContext) {binding : Binding}
    (injectable : session.IsInjectable binding) :
    ∃ result, session.injectArgument context binding.name binding.kind binding.argument =
      .ok result := by
  obtain ⟨name, kind, argument⟩ := binding
  obtain ⟨sameKind, ready⟩ := injectable
  dsimp only at sameKind ready ⊢
  unfold injectArgument
  rw [if_pos sameKind]
  cases argument with
  | type type => exact ⟨_, rfl⟩
  | template type =>
      obtain ⟨template, named⟩ := ready
      simp only [named]
      exact ⟨_, rfl⟩
  | nonType type expression expressionContext =>
      obtain ⟨value, folded⟩ := ready
      simp only [folded]
      exact ⟨_, rfl⟩

/-- What has been injected could be injected. -/
theorem isInjectable_of_injectArgument {binding : Binding} {result : SymbolId × Session}
    (injects : session.injectArgument context binding.name binding.kind binding.argument =
      .ok result) : session.IsInjectable binding := by
  obtain ⟨name, kind, argument⟩ := binding
  obtain ⟨sameKind, ways⟩ := injectsArgument_of_injectArgument injects
  refine ⟨sameKind, ?_⟩
  cases ways with
  | type type => exact trivial
  | template named => exact ⟨_, named⟩
  | nonType type folded => exact ⟨_, folded⟩

/-- Arguments that can be injected at first can be injected in a row. -/
theorem exists_injectAll (inScope : context.templateScope = some scope)
    (grown : origin.Grows session) (isNew : origin.program.scopes.scopes.size ≤ scope.index)
    {bindings : List Binding} (injectable : ∀ binding ∈ bindings, origin.IsInjectable binding) :
    ∃ filled, session.injectAll context bindings = .ok filled := by
  induction bindings generalizing session with
  | nil => exact ⟨session, rfl⟩
  | cons binding rest ih =>
      obtain ⟨⟨symbol, next⟩, first⟩ := exists_injectArgument
        context ((injectable binding List.mem_cons_self).grows grown)
      have grownNext := grown.injectArgument inScope isNew first
      obtain ⟨filled, done⟩ := ih grownNext fun later member =>
        injectable later (List.mem_cons_of_mem _ member)
      refine ⟨filled, ?_⟩
      rw [injectAll, first]
      exact done

end Session

end CppTemplates
