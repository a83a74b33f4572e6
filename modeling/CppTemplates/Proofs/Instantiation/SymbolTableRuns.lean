import Mathlib.Logic.Relation
import CppTemplates.Proofs.Instantiation.ArgumentBinding
import CppTemplates.Proofs.Instantiation.HistoryPath
import CppTemplates.Proofs.Instantiation.Upkeep
import CppTemplates.Proofs.Program.SymbolTable

/-!
# The symbol table of a running compilation

Programs come about by declarations and instantiations in any order.  An instantiation may stop
halfway and leave behind what it has declared so far, and in between the analyzer declares
whatever it likes.  The symbol table stays in order all the same, since every single operation
keeps it so.
-/

namespace CppTemplates

namespace Program

/-- The operations by which symbols, scopes and types come about or are edited.  Only template
declarations make template types, and edits leave the name and the scope of a symbol alone. -/
inductive Operation : Program → Program → Prop
  | ofSymbol {program : Program} (context : DeclContext) (scope : ScopeId) (name : String)
      (kind : SymbolKind) : Operation program (program.newSymbol context scope name kind).2
  | ofUnscopedSymbol {program : Program} (context : DeclContext) (name : String)
      (kind : SymbolKind) : Operation program (program.newUnscopedSymbol context name kind).2
  | ofCopy {program : Program} (source : SymbolId) (scope : ScopeId) :
      Operation program (program.copySymbolInto source scope).2
  | ofScope {program : Program} (parent : ScopeId) (kind : ScopeKind) (owner : Option SymbolId) :
      Operation program { program with scopes := (program.scopes.createChild parent kind owner).2 }
  | ofType {program : Program} {added : Ty} (notTemplate : ∀ data, added ≠ .templateType data) :
      Operation program (program.newType added).2
  | ofVariable {program : Program} (context : DeclContext) (name : String) (type : TypeId)
      (initializer : Option NodeId) :
      Operation program (program.declareVariable context name type initializer).2
  | ofEnumerator {program : Program} (context : DeclContext) (name : String) (type : TypeId)
      (value : NodeId) : Operation program (program.declareEnumerator context name type value).2
  | ofNamespace {program : Program} (context : DeclContext) (name : String) :
      Operation program (program.declareNamespace context name).2
  | ofTemplateParameters {program : Program} (context : DeclContext)
      (declarations : List ParameterDeclaration) :
      Operation program (program.declareTemplateParameters context declarations).2
  | ofClassTemplate {program : Program} (context : DeclContext) (name : String)
      (declarations : List ParameterDeclaration) (trees : InstantiationTrees) :
      Operation program (program.declareClassTemplate context name declarations trees).2
  | ofFunctionTemplate {program : Program} (context : DeclContext) (name : String)
      (declarations : List ParameterDeclaration) (definition : Option NodeId) :
      Operation program (program.declareFunctionTemplate context name declarations definition).2
  | ofSpecialization {program after : Program} {template symbol : SymbolId}
      {declarations : List ParameterDeclaration} {arguments : List TemplateArgument}
      {trees : InstantiationTrees}
      (declares : program.declareClassSpecialization? template declarations arguments trees =
        some (symbol, after)) : Operation program after
  | ofClassInstance {program after : Program} {template symbol : SymbolId}
      {arguments : List TemplateArgument}
      (names : program.classInstance? template arguments = some (symbol, after)) :
      Operation program after
  | ofFunctionInstance {program after : Program} {template symbol : SymbolId}
      {arguments : List TemplateArgument}
      (names : program.functionInstance? template arguments = some (symbol, after)) :
      Operation program after
  | ofArgument {session after : Session} {context : DeclContext} {name : String}
      {kind : ParameterKind} {argument : TemplateArgument} {symbol : SymbolId}
      (injects : session.injectArgument context name kind argument = .ok (symbol, after)) :
      Operation session.program after.program
  | ofClassEdit {program : Program} (type : TypeId) (change : ClassType → ClassType) :
      Operation program (program.modifyClass type change)
  | ofSymbolEdit {program : Program} (symbol : SymbolId) {change : SymbolEntry → SymbolEntry}
      (name : ∀ entry, (change entry).name = entry.name)
      (scope : ∀ entry, (change entry).scope = entry.scope) :
      Operation program (program.modifyEntry symbol change)

namespace OrderlySince

variable {program after start : Program}

theorem declareArgument (orderly : program.OrderlySince start) (context : DeclContext)
    (name : String) (kind : SymbolKind) (type : TypeId) (value : Option NodeId) :
    (program.declareArgument context name kind type value).2.OrderlySince start :=
  (orderly.newSymbol context _ name kind).modifyEntry _ (fun _ => rfl) fun _ => rfl

theorem openInstance (orderly : program.OrderlySince start) (entry : SymbolId)
    (classType : TypeId) : (program.openInstance entry classType).2.OrderlySince start :=
  ((orderly.createChild _ _ _).createChild _ _ _).modifyClass classType _

theorem completeInstance (orderly : program.OrderlySince start) (entry : SymbolId)
    (classType : TypeId) (inner : DeclContext) :
    (program.completeInstance entry classType inner).OrderlySince start := by
  refine modifyClass (modifyEntry (orderly.copySymbolInto entry inner.currentScope) _ ?_ ?_)
    classType _
  all_goals exact fun _ => rfl

end OrderlySince

end Program

/-- The engine keeps the order, whatever it fills in. -/
theorem Session.upkeep_orderlySince (start : Program) :
    Session.Upkeep (fun session => session.program.OrderlySince start) fun _ => True where
  same _ _ sameProgram _ orderly := sameProgram ▸ orderly
  opened _ _ _ _ := trivial
  grows _ _ _ orderly := orderly
  typedefs _ _ orderly := orderly.newPlainType fun _ isTemplate => nomatch isTemplate
  declares _ context name kind type value _ orderly :=
    orderly.declareArgument context name kind type value

theorem Session.classUpkeep_orderlySince (start : Program) (entry : SymbolId)
    (classType : TypeId) :
    Session.ClassUpkeep (fun session => session.program.OrderlySince start) (fun _ => True) entry
      classType :=
  { Session.upkeep_orderlySince start with
    opens := fun _ orderly => orderly.openInstance entry classType
    completes := fun _ inner _ orderly => orderly.completeInstance entry classType inner
    defines := fun _ orderly => orderly.modifyEntry entry (fun _ => rfl) fun _ => rfl }

theorem Session.functionUpkeep_orderlySince (start : Program) (entry : SymbolId) :
    Session.FunctionUpkeep (fun session => session.program.OrderlySince start) (fun _ => True)
      entry :=
  { Session.upkeep_orderlySince start with
    opens := fun _ _ orderly => orderly.createChild _ _ _
    defines := fun _ orderly => orderly.modifyEntry entry (fun _ => rfl) fun _ => rfl }

namespace Program

/-- A step of a compilation: an operation, or an instantiation that ends with or without an error.
The analyzer may use all operations and request further instantiations. -/
inductive Step : Program → Program → Prop
  | operation {program after : Program} (operation : program.Operation after) : Step program after
  | instantiation {σ : Type} {analyzer : Analyzer σ}
      (updates : analyzer.Updates (Relation.ReflTransGen Operation)) (request : Request)
      (before : Compilation σ) :
      Step before.session.program
        ((Activity.perform analyzer request).final before).session.program

/-- The operations that create a symbol without listing it.  An instance may exist already. -/
inductive CreatesUnlisted (program : Program) : SymbolId → Program → Prop
  | unscoped (context : DeclContext) (name : String) (kind : SymbolKind) :
      program.CreatesUnlisted (program.newUnscopedSymbol context name kind).1
        (program.newUnscopedSymbol context name kind).2
  | specialization {after : Program} {template symbol : SymbolId}
      {declarations : List ParameterDeclaration} {arguments : List TemplateArgument}
      {trees : InstantiationTrees}
      (declares : program.declareClassSpecialization? template declarations arguments trees =
        some (symbol, after)) : program.CreatesUnlisted symbol after
  | classInstance {after : Program} {template symbol : SymbolId}
      {arguments : List TemplateArgument}
      (names : program.classInstance? template arguments = some (symbol, after)) :
      program.CreatesUnlisted symbol after
  | functionInstance {after : Program} {template symbol : SymbolId}
      {arguments : List TemplateArgument}
      (names : program.functionInstance? template arguments = some (symbol, after)) :
      program.CreatesUnlisted symbol after

theorem OrderlySince.createsUnlisted {program after start : Program} {symbol : SymbolId}
    (orderly : program.OrderlySince start) (creates : program.CreatesUnlisted symbol after) :
    after.OrderlySince start ∧ symbol.index < after.symbols.size ∧ after.IsUnlisted symbol := by
  cases creates with
  | unscoped context name kind =>
      exact ⟨orderly.newUnscopedSymbol context name kind,
        orderly.isUnlisted_newUnscopedSymbol context name kind⟩
  | specialization declares => exact orderly.declareClassSpecialization? declares
  | classInstance names => exact orderly.templateInstance? (by rintro _ _ ⟨⟩) names
  | functionInstance names => exact orderly.templateInstance? (by rintro _ _ ⟨⟩) names

/-- A symbol that lookup never finds. -/
structure IsInvisible (program : Program) (symbol : SymbolId) : Prop where
  unlisted : program.IsUnlisted symbol
  lookup : ∀ scope name, symbol ∉ program.scopes.lookup scope name
  query : ∀ tree context id found, program.queryIdExpression tree context id = .ok found →
    symbol ∉ found

theorem IsUnlisted.isInvisible {program : Program} {symbol : SymbolId}
    (unlisted : program.IsUnlisted symbol) : program.IsInvisible symbol := by
  have atLocal : ∀ scope name, symbol ∉ program.scopes.lookupLocal scope name :=
    fun scope name listed => unlisted scope _ (ScopeEntries.mem_of_mem_candidates listed) listed
  refine ⟨unlisted, fun scope name found => ?_, fun tree context id found answers member => ?_⟩
  · obtain ⟨outer, same⟩ :=
      ScopeTree.exists_lookupLocal_eq scope (List.ne_nil_of_mem found)
    exact atLocal outer name (same ▸ found)
  · obtain ⟨scope, name, rfl⟩ := exists_lookupLocal_eq_of_query answers (List.ne_nil_of_mem member)
    exact atLocal scope name member

/-- A symbol is listed in one scope and under one name. -/
theorem IsOrderly.listed_once {program : Program} (orderly : program.IsOrderly) {symbol : SymbolId}
    {scope otherScope : ScopeId} {name otherName : String}
    (listed : symbol ∈ program.scopes.lookupLocal scope name)
    (again : symbol ∈ program.scopes.lookupLocal otherScope otherName) :
    otherScope = scope ∧ otherName = name := by
  obtain ⟨-, isNamed, inScope⟩ := (orderly.candidates scope _
    (ScopeEntries.mem_of_mem_candidates listed)).declared symbol listed
  obtain ⟨-, otherNamed, inOther⟩ := (orderly.candidates otherScope _
    (ScopeEntries.mem_of_mem_candidates again)).declared symbol again
  exact ⟨inOther.symm.trans inScope, otherNamed.symm.trans isNamed⟩

namespace OrderlySince

variable {program after start : Program}

/-- Every operation keeps the order. -/
theorem operation (orderly : program.OrderlySince start) (operation : program.Operation after) :
    after.OrderlySince start := by
  cases operation with
  | ofSymbol context scope name kind => exact orderly.newSymbol context scope name kind
  | ofUnscopedSymbol context name kind => exact orderly.newUnscopedSymbol context name kind
  | ofCopy source scope => exact orderly.copySymbolInto source scope
  | ofScope parent kind owner => exact orderly.createChild parent kind owner
  | ofType notTemplate => exact orderly.newPlainType notTemplate
  | ofVariable context name type initializer =>
      exact orderly.declareVariable context name type initializer
  | ofEnumerator context name type value =>
      exact orderly.declareEnumerator context name type value
  | ofNamespace context name => exact orderly.declareNamespace context name
  | ofTemplateParameters context declarations =>
      exact orderly.declareTemplateParameters context declarations
  | ofClassTemplate context name declarations trees =>
      exact orderly.declareTemplate context name declarations .className true
        (by rintro _ _ ⟨⟩)
  | ofFunctionTemplate context name declarations definition =>
      exact orderly.declareTemplate context name declarations .function definition.isSome
        (by rintro _ _ ⟨⟩)
  | ofSpecialization declares => exact (orderly.declareClassSpecialization? declares).1
  | ofClassInstance names =>
      exact (orderly.templateInstance? (by rintro _ _ ⟨⟩) names).1
  | ofFunctionInstance names =>
      exact (orderly.templateInstance? (by rintro _ _ ⟨⟩) names).1
  | ofArgument injects => exact (Session.upkeep_orderlySince start).injects trivial injects orderly
  | ofClassEdit type change => exact orderly.modifyClass type change
  | ofSymbolEdit symbol name scope => exact orderly.modifyEntry symbol name scope

theorem operations (orderly : program.OrderlySince start)
    (operations : Relation.ReflTransGen Operation program after) : after.OrderlySince start := by
  induction operations with
  | refl => exact orderly
  | tail _ last ih => exact ih.operation last

theorem step (orderly : program.OrderlySince start) (step : program.Step after) :
    after.OrderlySince start := by
  cases step with
  | operation operation => exact orderly.operation operation
  | instantiation updates request before =>
      have keeps := Activity.keeps_perform (Session.classUpkeep_orderlySince start)
        (Session.functionUpkeep_orderlySince start)
        (fun _ _ allowed orderly => orderly.operations allowed) updates request
      obtain ⟨-, orderlyAfter⟩ := Activity.exists_of_satisfies (keeps before orderly)
      exact orderlyAfter

theorem steps (orderly : program.OrderlySince start)
    (steps : Relation.ReflTransGen Step program after) : after.OrderlySince start := by
  induction steps with
  | refl => exact orderly
  | tail _ last ih => exact ih.step last

end OrderlySince

/-- In every program that operations and instantiations lead to, each scope lists each name once,
with candidates in the order of their creation that carry that name and scope, and each symbol is
listed once.  The generic definitions, specializations and instances of templates, and whatever
else was created without being listed, are never found by lookup, now or later. -/
theorem symbol_table_is_orderly {program : Program}
    (reached : Relation.ReflTransGen Step {} program) :
    (∀ scope, ((program.scopes.scope scope).entries.map (·.1)).Nodup) ∧
    (∀ scope name symbols, (name, symbols) ∈ (program.scopes.scope scope).entries →
      symbols = program.scopes.lookupLocal scope name ∧
      symbols ≠ [] ∧
      symbols.Pairwise (fun first second => first.index < second.index) ∧
      ∀ symbol ∈ symbols, symbol.index < program.symbols.size ∧
        (program.entry symbol).name = name ∧ (program.entry symbol).scope = scope) ∧
    (∀ symbol scope name otherScope otherName,
      symbol ∈ program.scopes.lookupLocal scope name →
      symbol ∈ program.scopes.lookupLocal otherScope otherName →
        otherScope = scope ∧ otherName = name) ∧
    (∀ type data, program.type type = .templateType data → ∀ symbol ∈ data.symbols,
      ∀ later, Relation.ReflTransGen Step program later → later.IsInvisible symbol) ∧
    ∀ symbol after, program.CreatesUnlisted symbol after →
      ∀ later, Relation.ReflTransGen Step after later → later.IsInvisible symbol := by
  have orderly : program.IsOrderly := (isOrderly_empty.since.steps reached).toIsOrderly
  refine ⟨orderly.names, ?lists, ?once, ?templates, ?created⟩
  case lists =>
    intro scope name symbols member
    have isList := orderly.candidates scope _ member
    exact ⟨(ScopeEntries.candidates_eq_of_mem (orderly.names scope) member).symm, isList.ne_nil,
      isList.increasing, isList.declared⟩
  case once => exact fun _ _ _ _ _ listed again => orderly.listed_once listed again
  case templates =>
    intro type data isTemplate symbol member later steps
    obtain ⟨bound, unlisted⟩ := orderly.templates type data isTemplate symbol member
    exact ((orderly.since.steps steps).unlisted symbol bound unlisted).isInvisible
  case created =>
    intro symbol after creates later steps
    obtain ⟨orderlyAfter, bound, unlisted⟩ := orderly.since.createsUnlisted creates
    exact ((orderlyAfter.toIsOrderly.since.steps steps).unlisted symbol bound unlisted).isInvisible

end Program

namespace Sample

def filled : Program :=
  ((Activity.perform (Analyzer.idle Unit) request).final compilation).session.program

theorem named_reached : Relation.ReflTransGen Program.Step {} named.2 := by
  have typed : Relation.ReflTransGen Program.Step {} start :=
    .single (.operation (.ofType fun _ isTemplate => nomatch isTemplate))
  have withTemplate : Relation.ReflTransGen Program.Step {} declared.2 :=
    typed.tail (.operation (.ofClassTemplate ScopeTree.globalContext "A" parameters {}))
  exact withTemplate.tail (.operation (.ofType fun _ isTemplate => nomatch isTemplate))

theorem instance_created :
    named.2.classInstance? declared.1 arguments = some (requested.1, requested.2) := by
  rfl

/-- At global scope `A` is the template.  Its instance is not found, also when it is filled in. -/
theorem instance_is_invisible :
    Relation.ReflTransGen Program.Step {} named.2 ∧
    named.2.scopes.lookup ScopeTree.global "A" = [declared.1] ∧
    named.2.classInstance? declared.1 arguments = some (requested.1, requested.2) ∧
    Relation.ReflTransGen Program.Step requested.2 filled ∧
    filled.IsInvisible requested.1 := by
  have fills : Relation.ReflTransGen Program.Step requested.2 filled :=
    .single (.instantiation (Analyzer.idle_updates Unit _) request compilation)
  have atGlobal : named.2.scopes.lookup ScopeTree.global "A" = [declared.1] := by
    rw [ScopeTree.lookup]
    rfl
  obtain ⟨-, -, -, -, invisible⟩ := Program.symbol_table_is_orderly named_reached
  exact ⟨named_reached, atGlobal, instance_created, fills,
    invisible _ _ (.classInstance instance_created) filled fills⟩

end Sample

end CppTemplates
