import Mathlib
import CppTemplates.Proofs.Instantiation.ArgumentBinding
import CppTemplates.Proofs.Instantiation.Dialogue
import CppTemplates.Proofs.Instantiation.Watching

/-!
# What an instance is named after

A template can be requested under several names: under its own, and under each name that it was
injected under as a template argument.  All of them share one list of instances.  A new instance
gets its name, and the context that it is declared in, from the name that the request uses.  That
context is where free names of the definition are looked up when the instance is instantiated.  So
an instance is the one that the template's own name stands for exactly if the first request was made
under a name that is declared alike.
-/

namespace CppTemplates

namespace ScopeTree

/-- The scopes that are new in `opened` are still where they were in `filled`, and none of them
declares the name. -/
structure LeavesFree (before opened filled : ScopeTree) (name : String) : Prop where
  parent : ∀ scope : ScopeId, before.scopes.size ≤ scope.index →
    scope.index < opened.scopes.size →
      (filled.scope scope).parent = (opened.scope scope).parent
  free : ∀ scope : ScopeId, before.scopes.size ≤ scope.index →
    scope.index < opened.scopes.size → filled.lookupLocal scope name = []

variable {before opened filled : ScopeTree} {name : String}

/-- A free name is looked up past a new scope. -/
theorem LeavesFree.lookup_eq (leavesFree : LeavesFree before opened filled name)
    {scope parent : ScopeId} (isNew : before.scopes.size ≤ scope.index)
    (inTree : scope.index < opened.scopes.size)
    (enclosed : (opened.scope scope).parent = some parent) (order : parent.index < scope.index) :
    filled.lookup scope name = filled.lookup parent name :=
  lookup_of_parent (leavesFree.free scope isNew inTree)
    ((leavesFree.parent scope isNew inTree).trans enclosed) order

end ScopeTree

namespace Program

def instanceOf? (program : Program) :
    RequestKind → SymbolId → List TemplateArgument → Option (SymbolId × Program)
  | .classTemplate => program.classInstance?
  | .functionTemplate => program.functionInstance?

/-- Opens the context that the definition of an instance is rebuilt in: that of the members of a
class, which is recorded for the class type, or that of the arguments of a function. -/
def openDefinition (program : Program) (kind : RequestKind) (entry : SymbolId)
    (classType : TypeId) : DeclContext × Program :=
  match kind with
  | .classTemplate =>
      let (contexts, opened) := program.openInstance entry classType
      (contexts.2, opened)
  | .functionTemplate =>
      let (context, scopes) := program.scopes.newTemplateContext (program.entry entry).declContext
      (context, { program with scopes })

/-- Whenever an instance is instantiated, a name that nothing of the instance declares stands for
what it stands for in the context `home`. -/
def ResolvesIn (created : Program) (kind : RequestKind) (entry : SymbolId)
    (home : DeclContext) : Prop :=
  ∀ later, created.Retains later → home.currentScope.index < later.scopes.scopes.size →
    ∀ (classType : TypeId) (filled : Program) (name : String),
      ScopeTree.LeavesFree later.scopes (later.openDefinition kind entry classType).2.scopes
          filled.scopes name →
        filled.candidates (later.openDefinition kind entry classType).1 none name =
          filled.candidates home none name

/-- Two symbols are declared under one name in one context. -/
structure DeclaredAlike (program : Program) (left right : SymbolId) : Prop where
  name : program.symbolName left = program.symbolName right
  declContext : (program.entry left).declContext = (program.entry right).declContext

/-- An instance is named after a symbol of the program that it was created in: it is declared like
the symbol, and free names in it are looked up from there. -/
structure NamedAfter (program created : Program) (kind : RequestKind)
    (entry symbol : SymbolId) : Prop where
  name : created.symbolName entry = program.symbolName symbol
  declContext : (created.entry entry).declContext = (program.entry symbol).declContext
  resolves : created.ResolvesIn kind entry (program.entry symbol).declContext

/-- A request under a name of a template, which has the template as its type, finds no instance and
creates one. -/
structure Creates (program : Program) (templateType : TypeId) (data : TemplateType)
    (kind : RequestKind) (arguments : List TemplateArgument) (symbol entry : SymbolId)
    (created : Program) : Prop where
  isMissing : program.findInstance? data arguments = none
  names : (program.entry symbol).type = some templateType
  result : program.instanceOf? kind symbol arguments = some (entry, created)

/-- The first request decides what the instance of a template for some arguments is named after. -/
structure FirstRequestNames (program : Program) (templateType : TypeId) (data : TemplateType)
    (kind : RequestKind) (arguments : List TemplateArgument) : Prop where
  /-- An instance that exists is the answer under every name. -/
  found : ∀ existing, program.findInstance? data arguments = some existing →
    ∀ symbol, (program.entry symbol).type = some templateType →
      program.instanceOf? kind symbol arguments = some (existing, program)
  /-- Whether an instance can be created depends on the template alone. -/
  isSome_iff : program.findInstance? data arguments = none →
    ∀ symbol, (program.entry symbol).type = some templateType →
      ((program.instanceOf? kind symbol arguments).isSome ↔
        (program.primaryParameters? data).isSome)
  isNew : ∀ symbol entry created,
    program.Creates templateType data kind arguments symbol entry created →
      entry = ⟨program.symbols.size⟩
  /-- A new instance is named after the symbol that the request used. -/
  named : ∀ symbol entry created,
    program.Creates templateType data kind arguments symbol entry created →
      program.NamedAfter created kind entry symbol
  /-- It is named after the template's own name exactly if the symbol is declared like that. -/
  named_own_iff : ∀ symbol entry created,
    program.Creates templateType data kind arguments symbol entry created →
      (program.NamedAfter created kind entry data.name ↔ program.DeclaredAlike symbol data.name)
  /-- Another name would have created the same instance exactly if it is declared alike. -/
  same_iff : ∀ symbol entry created,
    program.Creates templateType data kind arguments symbol entry created →
      ∀ other, (program.entry other).type = some templateType →
        (program.instanceOf? kind other arguments = some (entry, created) ↔
          program.DeclaredAlike other symbol)
  /-- What the template was injected under names it, and is declared like its own name exactly if it
  is the same name and was declared in the same context. -/
  injected : ∀ (session after : Session) (context : DeclContext) (name : String) (type : TypeId)
    (symbol : SymbolId), session.program.namedTemplate? type = some templateType →
      session.injectArgument context name .template (.template type) = .ok (symbol, after) →
        after.program.Retains program →
          (program.entry symbol).type = some templateType ∧
          (program.DeclaredAlike symbol data.name ↔ name = program.symbolName data.name ∧
            context = (program.entry data.name).declContext)

namespace NamedAfter

variable {program created : Program} {kind : RequestKind} {entry left right : SymbolId}

theorem declaredAlike (first : program.NamedAfter created kind entry left)
    (second : program.NamedAfter created kind entry right) : program.DeclaredAlike left right :=
  ⟨first.name.symm.trans second.name, first.declContext.symm.trans second.declContext⟩

theorem congr (named : program.NamedAfter created kind entry left)
    (alike : program.DeclaredAlike left right) : program.NamedAfter created kind entry right where
  name := named.name.trans alike.name
  declContext := named.declContext.trans alike.declContext
  resolves := alike.declContext ▸ named.resolves

end NamedAfter

/-- Free names are looked up from the context that the instance is declared in. -/
theorem candidates_openDefinition {later filled : Program} {kind : RequestKind} {entry : SymbolId}
    {classType : TypeId} {name : String}
    (inTree : (later.entry entry).declContext.currentScope.index < later.scopes.scopes.size)
    (leavesFree : ScopeTree.LeavesFree later.scopes
      (later.openDefinition kind entry classType).2.scopes filled.scopes name) :
    filled.candidates (later.openDefinition kind entry classType).1 none name =
      filled.candidates (later.entry entry).declContext none name := by
  let home := (later.entry entry).declContext.currentScope
  let outer := later.scopes.createChild home .templateScope
  have outerIndex : outer.1.index = later.scopes.scopes.size := rfl
  have outerSize : outer.2.scopes.size = later.scopes.scopes.size + 1 :=
    ScopeTree.size_createChild home .templateScope none
  have atOuter : (outer.2.scope outer.1).parent = some home := by
    rw [show outer.2.scope outer.1 = _ from ScopeTree.scope_createChild_self _ _ _]
  cases kind with
  | functionTemplate =>
      exact leavesFree.lookup_eq (Nat.le_refl _) (outerSize ▸ Nat.lt_succ_self _) atOuter inTree
  | classTemplate =>
      let both := outer.2.createChild outer.1 .classScope (some entry)
      have opened : (later.openDefinition .classTemplate entry classType).2.scopes = both.2 :=
        scopes_openInstance later entry classType
      have bothIndex : both.1.index = later.scopes.scopes.size + 1 := outerSize
      have bothSize : both.2.scopes.size = later.scopes.scopes.size + 2 := by
        rw [ScopeTree.size_createChild, outerSize]
      have atBoth : (both.2.scope both.1).parent = some outer.1 := by
        rw [show both.2.scope both.1 = _ from ScopeTree.scope_createChild_self _ _ _]
      have atOuterStill : (both.2.scope outer.1).parent = some home := by
        rw [show both.2.scope outer.1 = _ from
          ScopeTree.scope_createChild_of_lt (by omega) _ _ _, atOuter]
      rw [opened] at leavesFree
      calc filled.scopes.lookup both.1 name
        _ = filled.scopes.lookup outer.1 name :=
          leavesFree.lookup_eq (by omega) (by omega) atBoth (by omega)
        _ = filled.scopes.lookup home name :=
          leavesFree.lookup_eq (by omega) (by omega) atOuterStill inTree

/-- An instance resolves free names in the context that it is declared in. -/
theorem resolvesIn_declContext {created : Program} {kind : RequestKind} {entry : SymbolId}
    (isEntry : entry.index < created.symbols.size) :
    created.ResolvesIn kind entry (created.entry entry).declContext := by
  intro later retains inTree classType filled name leavesFree
  have same : (later.entry entry).declContext = (created.entry entry).declContext :=
    (retains.entry entry isEntry).declContext
  rw [← same] at inTree ⊢
  exact candidates_openDefinition inTree leavesFree

/-- Uses of class templates and of function templates differ in what they create. -/
theorem exists_templateInstance? (program : Program) (kind : RequestKind) :
    ∃ (symbolKind : SymbolKind) (instanceType : Specialization → Ty),
      ∀ (symbol : SymbolId) (arguments : List TemplateArgument),
        program.instanceOf? kind symbol arguments =
          program.templateInstance? symbol arguments symbolKind instanceType := by
  cases kind with
  | classTemplate =>
      exact ⟨.className,
        fun specialization => .classType { specialization := some specialization },
        fun _ _ => rfl⟩
  | functionTemplate =>
      exact ⟨.function,
        fun specialization => .functionType { specialization := some specialization },
        fun _ _ => rfl⟩

variable {program : Program} {templateType : TypeId} {data : TemplateType}
  {kind : RequestKind} {symbol : SymbolId} {arguments : List TemplateArgument}

section Requests

variable (isTemplate : program.type templateType = .templateType data)
  (names : (program.entry symbol).type = some templateType)
include isTemplate names

theorem instanceOf?_of_found {existing : SymbolId}
    (found : program.findInstance? data arguments = some existing) :
    program.instanceOf? kind symbol arguments = some (existing, program) := by
  obtain ⟨symbolKind, instanceType, same⟩ := program.exists_templateInstance? kind
  rw [same, templateInstance?_eq isTemplate names, found]

theorem isSome_instanceOf?_iff (isMissing : program.findInstance? data arguments = none) :
    (program.instanceOf? kind symbol arguments).isSome ↔
      (program.primaryParameters? data).isSome := by
  obtain ⟨symbolKind, instanceType, same⟩ := program.exists_templateInstance? kind
  rw [same, templateInstance?_eq isTemplate names, isMissing]
  simp

theorem instanceOf?_congr {other : SymbolId}
    (alsoNames : (program.entry other).type = some templateType)
    (alike : program.DeclaredAlike other symbol) :
    program.instanceOf? kind other arguments = program.instanceOf? kind symbol arguments := by
  obtain ⟨symbolKind, instanceType, same⟩ := program.exists_templateInstance? kind
  rw [same, same, templateInstance?_eq isTemplate alsoNames, templateInstance?_eq isTemplate names]
  simp only [createInstance, alike.name, alike.declContext]

end Requests

theorem Creates.named (isTemplate : program.type templateType = .templateType data)
    {entry : SymbolId} {created : Program}
    (creates : program.Creates templateType data kind arguments symbol entry created) :
    entry = ⟨program.symbols.size⟩ ∧ program.NamedAfter created kind entry symbol := by
  obtain ⟨isMissing, names, result⟩ := creates
  obtain ⟨symbolKind, instanceType, same⟩ := program.exists_templateInstance? kind
  rw [same, templateInstance?_eq isTemplate names, isMissing] at result
  obtain ⟨parameters, -, isPair⟩ := Option.map_eq_some_iff.mp result
  obtain ⟨isNew, size, atNew⟩ := program.createInstance_spec symbol symbolKind templateType
    (instanceType { template := templateType, parameters, arguments })
  rw [isPair] at isNew size atNew
  dsimp only at isNew size atNew
  subst isNew
  have resolves : created.ResolvesIn kind ⟨program.symbols.size⟩
      (created.entry ⟨program.symbols.size⟩).declContext :=
    resolvesIn_declContext (by rw [size]; exact Nat.lt_succ_self _)
  rw [atNew] at resolves
  refine ⟨rfl, ?_, ?_, resolves⟩
  · rw [symbolName, atNew]
  · rw [atNew]

/-- An injected template name has the type of the template, and ever after it is declared under the
name of the parameter in the context of the injection. -/
theorem injected_is_declared {session after : Session} {context : DeclContext} {name : String}
    {type : TypeId} (injects : session.injectArgument context name .template (.template type) =
      .ok (symbol, after)) (later : after.program.Retains program)
    (isNamed : session.program.namedTemplate? type = some templateType) :
    (program.entry symbol).type = some templateType ∧ program.symbolName symbol = name ∧
      (program.entry symbol).declContext = context := by
  simp only [Session.injectArgument, TemplateArgument.kind, if_true, isNamed] at injects
  obtain ⟨rfl, rfl⟩ := Prod.mk.inj (Except.ok.inj injects)
  have declared := entry_declareArgument session.program context name .templateName templateType
    none
  have kept := later.entry _ (index_declareArgument_lt session.program context name .templateName
    templateType none)
  refine ⟨kept.type templateType (by rw [declared]), ?_, ?_⟩
  · exact kept.name.trans (by rw [declared])
  · exact kept.declContext.trans (by rw [declared])

/-- An instance is named after the symbol that it is first requested with.  That is as good as the
template's own name exactly if both are declared alike, and so is any other name. -/
theorem instance_named_after_first_request
    (isTemplate : program.type templateType = .templateType data) (kind : RequestKind)
    (arguments : List TemplateArgument) :
    program.FirstRequestNames templateType data kind arguments where
  found _ found _ names := instanceOf?_of_found isTemplate names found
  isSome_iff isMissing _ names := isSome_instanceOf?_iff isTemplate names isMissing
  isNew _ _ _ creates := (creates.named isTemplate).1
  named _ _ _ creates := (creates.named isTemplate).2
  named_own_iff symbol entry created creates := by
    obtain ⟨-, named⟩ := creates.named isTemplate
    exact ⟨named.declaredAlike, named.congr⟩
  same_iff symbol entry created creates other alsoNames := by
    constructor
    · intro same
      obtain ⟨-, named⟩ := creates.named isTemplate
      have createsToo : program.Creates templateType data kind arguments other entry created :=
        ⟨creates.isMissing, alsoNames, same⟩
      obtain ⟨-, namedToo⟩ := createsToo.named isTemplate
      exact namedToo.declaredAlike named
    · intro alike
      rw [instanceOf?_congr isTemplate creates.names alsoNames alike, creates.result]
  injected _ _ _ _ _ _ isNamed injects later := by
    obtain ⟨names, rfl, rfl⟩ := injected_is_declared injects later isNamed
    exact ⟨names, fun alike => ⟨alike.name, alike.declContext⟩, fun same => ⟨same.1, same.2⟩⟩

end Program

namespace Sample

def numerals : SyntaxTree :=
  (((SyntaxTree.empty.addIntegerLiteral "1").2.addIntegerLiteral "5").2.addIdentifier "N").2

/-- `N` is `1` where the template `A` is declared. -/
def outerN : SymbolId × Program :=
  start.declareVariable ScopeTree.globalContext "N" int (some ⟨0⟩)

def ownName : SymbolId × Program :=
  outerN.2.declareClassTemplate ScopeTree.globalContext "A" [.type "T"] {}

def ownType : TypeId × Program :=
  ownName.2.newNamedType ownName.1

def elsewhere : DeclContext × ScopeTree :=
  ownType.2.scopes.newTemplateContext ScopeTree.globalContext

def parameterC : SymbolId × Session :=
  (Session.injectArgument
    { program := { ownType.2 with scopes := elsewhere.2 }, tree := numerals } elsewhere.1 "C"
      .template (.template ownType.1)).toOption.getD default

/-- `N` is `5` where `A` has been injected under the name `C`. -/
def innerN : SymbolId × Session :=
  (parameterC.2.injectArgument elsewhere.1 "N" .nonType
    (.nonType int ⟨1⟩ ScopeTree.globalContext)).toOption.getD default

def renamed : Program :=
  innerN.2.program

theorem renamed_isTemplate :
    renamed.type ⟨1⟩ = .templateType { name := ownName.1, primary := ⟨3⟩ } := by
  cbv

theorem renamed_names : (renamed.entry ownName.1).type = some ⟨1⟩ ∧
    (renamed.entry parameterC.1).type = some ⟨1⟩ := by
  constructor <;> cbv

def ofInt (name : SymbolId) : SymbolId × Program :=
  (renamed.classInstance? name [.type int]).getD default

theorem renamed_instances :
    renamed.instanceOf? .classTemplate ownName.1 [.type int] = some (ofInt ownName.1) ∧
    renamed.instanceOf? .classTemplate parameterC.1 [.type int] = some (ofInt parameterC.1) := by
  constructor <;> cbv

def instantiated (requested : SymbolId × Program) : Session :=
  ((Activity.perform (Analyzer.idle Unit)
    { kind := .classTemplate, entry := requested.1, context := ScopeTree.globalContext
      location := .builtin }).final
        { session := { innerN.2 with program := requested.2 }, analyzerState := () }).session

def valueOfN (requested : SymbolId × Program) : Except EvaluationError Value :=
  evaluate (instantiated requested).tree (instantiated requested).program
    (((instantiated requested).program.recordedContext? requested.1).getD default) ⟨2⟩

/-- The instance that is first requested as `C<int>` is named after `C` and not after `A`. -/
theorem named_after_parameter :
    renamed.type ⟨1⟩ = .templateType { name := ownName.1, primary := ⟨3⟩ } ∧
    renamed.NamedAfter (ofInt parameterC.1).2 .classTemplate (ofInt parameterC.1).1
      parameterC.1 ∧
    ¬ renamed.NamedAfter (ofInt parameterC.1).2 .classTemplate (ofInt parameterC.1).1
      ownName.1 ∧
    renamed.NamedAfter (ofInt ownName.1).2 .classTemplate (ofInt ownName.1).1 ownName.1 := by
  obtain ⟨ownNames, parameterNames⟩ := renamed_names
  obtain ⟨asA, asC⟩ := renamed_instances
  have isMissing :
      renamed.findInstance? { name := ownName.1, primary := ⟨3⟩ } [.type int] = none := rfl
  have names := Program.instance_named_after_first_request renamed_isTemplate .classTemplate
    [.type int]
  have named := names.named _ _ _ ⟨isMissing, parameterNames, asC⟩
  have ownNamed := names.named _ _ _ ⟨isMissing, ownNames, asA⟩
  have ownIff := names.named_own_iff _ _ _ ⟨isMissing, parameterNames, asC⟩
  refine ⟨renamed_isTemplate, named, fun namedAfterOwn => ?_, ownNamed⟩
  have alike := (ownIff.mp namedAfterOwn).name
  have different : renamed.symbolName parameterC.1 ≠ renamed.symbolName ownName.1 := by
    cbv
  exact different alike

set_option maxRecDepth 100000 in
/-- Requested first as `C<int>`, the instance is called `C` and finds the `N` beside `C`, and a
later request for `A<int>` gets that instance.  Requested first as `A<int>`, it is called `A` and
finds the `N` beside `A`. -/
theorem first_request_decides :
    (renamed.entry parameterC.1).type = (renamed.entry ownName.1).type ∧
    renamed.symbolName ownName.1 = "A" ∧
    (renamed.entry ownName.1).declContext = ScopeTree.globalContext ∧
    renamed.classInstance? parameterC.1 [.type int] = some (ofInt parameterC.1) ∧
    (ofInt parameterC.1).2.symbolName (ofInt parameterC.1).1 = "C" ∧
    ((ofInt parameterC.1).2.entry (ofInt parameterC.1).1).declContext = elsewhere.1 ∧
    elsewhere.1 ≠ ScopeTree.globalContext ∧
    valueOfN (ofInt parameterC.1) = .ok (.signedInt 5) ∧
    (ofInt parameterC.1).2.classInstance? ownName.1 [.type int] = some (ofInt parameterC.1) ∧
    renamed.classInstance? ownName.1 [.type int] = some (ofInt ownName.1) ∧
    (ofInt ownName.1).2.symbolName (ofInt ownName.1).1 = "A" ∧
    ((ofInt ownName.1).2.entry (ofInt ownName.1).1).declContext = ScopeTree.globalContext ∧
    valueOfN (ofInt ownName.1) = .ok (.signedInt 1) := by
  refine ⟨by cbv, by cbv, by cbv, by cbv, by cbv, by cbv, by decide, ?_, by cbv, by cbv, by cbv,
    by cbv, ?_⟩
  all_goals
    rw [valueOfN, evaluate, eval_eq_evalStep]
    cbv

end Sample

end CppTemplates
