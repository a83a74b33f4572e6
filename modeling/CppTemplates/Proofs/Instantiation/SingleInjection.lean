import CppTemplates.Proofs.Instantiation.HistoryPath
import CppTemplates.Proofs.Instantiation.Injection
import CppTemplates.Proofs.Program.Extension

/-!
# One argument is injected or nothing happens

Everything that can go wrong with an argument is found out before the first declaration.  So a
failed injection leaves the program and the tree as they are.  An injection that succeeds adds one
symbol, with the typedef or the literal that it needs, and lists it last under its name in one
scope.  Nothing else is different afterwards.
-/

namespace CppTemplates

def ParameterKind.argumentSymbolKind : ParameterKind → SymbolKind
  | .type => .typedefName
  | .template => .templateName
  | .nonType => .variableName

def DeclContext.argumentScope (context : DeclContext) : ScopeId :=
  context.templateScope.getD context.currentScope

theorem DeclContext.argumentScope_eq {context : DeclContext} {scope : ScopeId}
    (inScope : context.templateScope = some scope) : context.argumentScope = scope := by
  simp [argumentScope, inScope]

/-- One scope lists a symbol last under a name.  All else is as it was. -/
structure ScopeTree.ListsLast (before after : ScopeTree) (target : ScopeId) (name : String)
    (symbol : SymbolId) : Prop where
  size_eq : after.scopes.size = before.scopes.size
  others : ∀ scope, scope ≠ target → after.scope scope = before.scope scope
  sameScope : after.scope target =
    { before.scope target with entries := (after.scope target).entries }
  listed : target.index < before.scopes.size →
    after.lookupLocal target name = before.lookupLocal target name ++ [symbol]
  otherNames : ∀ other, other ≠ name →
    after.lookupLocal target other = before.lookupLocal target other

theorem ScopeTree.insert_of_size_le {scopes : ScopeTree} {target : ScopeId}
    (outside : scopes.scopes.size ≤ target.index) (name : String) (symbol : SymbolId) :
    scopes.insert target name symbol = scopes := by
  unfold insert
  congr 1
  ext index
  · simp
  · simp only [Array.getElem_modify]
    split
    · omega
    · rfl

theorem ScopeTree.listsLast_insert (scopes : ScopeTree) (target : ScopeId) (name : String)
    (symbol : SymbolId) :
    scopes.ListsLast (scopes.insert target name symbol) target name symbol where
  size_eq := size_insert ..
  others scope different := scope_insert_of_ne different name symbol
  sameScope := by
    by_cases inTree : target.index < scopes.scopes.size
    · rw [scope_insert_self inTree]
    · rw [insert_of_size_le (Nat.le_of_not_lt inTree)]
  listed inTree := by rw [lookupLocal_insert_self inTree, if_pos rfl]
  otherNames other different := by
    by_cases inTree : target.index < scopes.scopes.size
    · rw [lookupLocal_insert_self inTree, if_neg different]
    · rw [insert_of_size_le (Nat.le_of_not_lt inTree)]

theorem Program.symbols_declareArgument (program : Program) (context : DeclContext) (name : String)
    (kind : SymbolKind) (type : TypeId) (value : Option NodeId) :
    (program.declareArgument context name kind type value).2.symbols = program.symbols.push
      { name, kind, declContext := context, scope := context.argumentScope, type := some type
        value, defined := value.isSome, isTemplateArgument := true } := by
  have atEnd (entry : SymbolEntry) (change : SymbolEntry → SymbolEntry) :
      (program.symbols.push entry).modify program.symbols.size change =
        program.symbols.push (change entry) := by
    grind
  simp only [declareArgument, newSymbol, addEntry, signIn, modifyEntry, atEnd]
  rfl

namespace Session

/-- Why an argument cannot be bound to a parameter of some name and kind.  The kind is looked at
first. -/
inductive RejectsArgument (session : Session) (name : String) (kind : ParameterKind) :
    TemplateArgument → InstantiationError → Prop
  | kindMismatch {argument : TemplateArgument} (different : argument.kind ≠ kind) :
      RejectsArgument session name kind argument (.kindMismatch kind argument.kind)
  | notATemplate {type : TypeId} (sameKind : kind = .template)
      (unnamed : session.program.namedTemplate? type = none) :
      RejectsArgument session name kind (.template type) (.notATemplate name)
  | constant {type : TypeId} {expression : NodeId} {context : DeclContext}
      {cause : EvaluationError} (sameKind : kind = .nonType)
      (fails : evaluate session.tree session.program context expression = .error cause) :
      RejectsArgument session name kind (.nonType type expression context) (.constant cause)

/-- What is there after an argument has been injected, so that a symbol with some type and
initializer stands for it. -/
def Supplies (before : Session) (types : Array Ty) (tree : SyntaxTree) (type : TypeId)
    (value : Option NodeId) : TemplateArgument → Prop
  | .type aliased =>
      type = ⟨before.program.types.size⟩ ∧ value = none ∧
        types = before.program.types.push (.typedefOf aliased) ∧ tree = before.tree
  | .template named =>
      before.program.namedTemplate? named = some type ∧ value = none ∧
        types = before.program.types ∧ tree = before.tree
  | .nonType declared expression context =>
      type = declared ∧ value = some ⟨before.tree.size⟩ ∧ types = before.program.types ∧
        ∃ folded, evaluate before.tree before.program context expression = .ok folded ∧
          tree.nodes = before.tree.nodes.push folded.literalLeaf

/-- A session has got one symbol that stands for an argument, and what the symbol needs. -/
structure GainsArgument (before after : Session) (context : DeclContext) (name : String)
    (argument : TemplateArgument) (symbol : SymbolId) : Prop where
  books : after = { before with program := after.program, tree := after.tree }
  isNext : symbol = ⟨before.program.symbols.size⟩
  declared : ∃ type value,
    after.program.symbols = before.program.symbols.push
      { name, kind := argument.kind.argumentSymbolKind, declContext := context
        scope := context.argumentScope, type := some type, value, defined := value.isSome
        isTemplateArgument := true } ∧
    before.Supplies after.program.types after.tree type value argument
  listed : before.program.scopes.ListsLast after.program.scopes context.argumentScope name symbol

variable {session : Session} {context : DeclContext} {name : String} {kind : ParameterKind}
variable {argument : TemplateArgument}

theorem rejectsArgument_of_injectArgument {cause : InstantiationError}
    (fails : session.injectArgument context name kind argument = .error cause) :
    session.RejectsArgument name kind argument cause := by
  unfold injectArgument at fails
  split at fails
  case isFalse different =>
    cases fails
    exact .kindMismatch different
  case isTrue sameKind =>
    subst sameKind
    cases argument with
    | type type => cases fails
    | template type =>
        dsimp only at fails
        split at fails
        · cases fails
        · next unnamed =>
          cases fails
          exact .notATemplate rfl unnamed
    | nonType type expression expressionContext =>
        dsimp only at fails
        split at fails
        · cases fails
        · next folded =>
          cases fails
          exact .constant rfl folded

/-- Declaring the symbol of an argument is all that is left when what it needs is there. -/
theorem gainsArgument_of_declareArgument {program after : Program} {tree : SyntaxTree}
    {type : TypeId} {value : Option NodeId} {symbol : SymbolId}
    (declares : program.declareArgument context name argument.kind.argumentSymbolKind type value =
      (symbol, after)) (sameSymbols : program.symbols = session.program.symbols)
    (sameScopes : program.scopes = session.program.scopes)
    (supplies : session.Supplies program.types tree type value argument) :
    session.GainsArgument { session with program := after, tree } context name argument
      symbol := by
  have symbols := program.symbols_declareArgument context name argument.kind.argumentSymbolKind
    type value
  rw [declares] at symbols
  cases declares
  refine ⟨rfl, ?_, ⟨type, value, ?_, supplies⟩, ?_⟩
  · rw [← sameSymbols]
  · rw [← sameSymbols]
    exact symbols
  · rw [← sameScopes]
    exact ScopeTree.listsLast_insert ..

/-- An injection that succeeds adds the symbol and what it needs. -/
theorem gainsArgument_of_injectArgument {symbol : SymbolId} {after : Session}
    (injects : session.injectArgument context name kind argument = .ok (symbol, after)) :
    argument.kind = kind ∧ session.GainsArgument after context name argument symbol := by
  obtain ⟨sameKind, ways⟩ := injectsArgument_of_injectArgument injects
  refine ⟨sameKind, ?_⟩
  cases ways with
  | type type declares =>
      subst declares
      exact gainsArgument_of_declareArgument rfl rfl rfl ⟨rfl, rfl, rfl, rfl⟩
  | template named declares =>
      subst declares
      exact gainsArgument_of_declareArgument rfl rfl rfl ⟨named, rfl, rfl, rfl⟩
  | nonType type folded declares =>
      subst declares
      exact gainsArgument_of_declareArgument rfl rfl rfl ⟨rfl, rfl, rfl, _, folded, rfl⟩

theorem GainsArgument.entry {after : Session} {symbol : SymbolId}
    (gains : session.GainsArgument after context name argument symbol) :
    ∃ type value, after.program.entry symbol =
        { name, kind := argument.kind.argumentSymbolKind, declContext := context
          scope := context.argumentScope, type := some type, value, defined := value.isSome
          isTemplateArgument := true } ∧
      session.Supplies after.program.types after.tree type value argument := by
  obtain ⟨type, value, symbols, supplies⟩ := gains.declared
  refine ⟨type, value, ?_, supplies⟩
  rw [gains.isNext, Program.entry, symbols]
  simp

end Session

/-- Injecting an argument is all or nothing.  If it fails, there is a reason, and the session is as
it was.  If it succeeds, the session has got one symbol for the argument. -/
theorem Activity.injectArgument_all_or_nothing {σ : Type} (context : DeclContext) (name : String)
    (kind : ParameterKind) (argument : TemplateArgument) (before : Compilation σ) :
    (injectArgument context name kind argument).Satisfies before fun outcome after =>
      match outcome with
      | .error cause =>
          before.session.RejectsArgument name kind argument cause ∧
            after.session = before.session
      | .ok symbol =>
          argument.kind = kind ∧
            before.session.GainsArgument after.session context name argument symbol := by
  have does := does_injectArgument context name kind argument before
  refine satisfies_mono does fun outcome after ⟨isSo, _⟩ => ?_
  cases injects : before.session.injectArgument context name kind argument with
  | error cause =>
      rw [injects] at isSo
      obtain ⟨rfl, sameSession⟩ := Prod.mk.inj isSo
      exact ⟨Session.rejectsArgument_of_injectArgument injects, sameSession⟩
  | ok injection =>
      obtain ⟨symbol, injected⟩ := injection
      rw [injects] at isSo
      obtain ⟨rfl, rfl⟩ := Prod.mk.inj isSo
      exact Session.gainsArgument_of_injectArgument injects

end CppTemplates
