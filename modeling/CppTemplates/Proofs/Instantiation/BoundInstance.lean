import CppTemplates.Instantiation.Class
import CppTemplates.Proofs.Program.ClassTemplates
import CppTemplates.Proofs.Program.Lookup
import CppTemplates.Proofs.Instantiation.Injection

/-!
# Instances whose arguments are bound

An instance is opened by two new scopes, one for the arguments and in it one for the members, and
completed by declaring the name of the class among the members.  In between, the arguments are
injected.  So lookup from the members finds each argument under the name of its parameter, unless
that is the name of the class.
-/

namespace CppTemplates

namespace Program

/-- The context of the members that is recorded for a class. -/
def recordedContext? (program : Program) (entry : SymbolId) : Option DeclContext := do
  let data ← program.classData? (← (program.entry entry).type)
  data.innerContext

/-- What opening an instance leaves behind: an empty scope for the arguments, in it an empty scope
for the members, and the record of the latter. -/
structure Opened (before opened : Program) (classType : TypeId) (context inner : DeclContext)
    (scope members : ScopeId) : Prop where
  preserves : before.Preserves opened
  inScope : context.templateScope = some scope
  innerScope : inner.templateScope = some scope
  innerCurrent : inner.currentScope = members
  isNew : before.scopes.scopes.size ≤ scope.index
  order : scope.index < members.index
  inTree : members.index < opened.scopes.scopes.size
  noArguments : (opened.scopes.scope scope).entries = []
  noMembers : (opened.scopes.scope members).entries = []
  enclosed : (opened.scopes.scope members).parent = some scope
  recorded : ∃ data, opened.type classType = .classType data ∧ data.innerContext = some inner

/-- Opening an instance creates a scope for the arguments where the instance is declared, and in it
one for the members. -/
theorem scopes_openInstance (program : Program) (entry : SymbolId) (classType : TypeId) :
    (program.openInstance entry classType).2.scopes =
      ((program.scopes.createChild (program.entry entry).declContext.currentScope
        .templateScope).2.createChild ⟨program.scopes.scopes.size⟩ .classScope (some entry)).2 := by
  unfold openInstance
  exact (scopes_modifyClass classType _).1

theorem opened_openInstance {program : Program} (entry : SymbolId) {classType : TypeId}
    (unfilled : program.IsUnfilled classType) :
    Opened program (program.openInstance entry classType).2 classType
      (program.openInstance entry classType).1.1 (program.openInstance entry classType).1.2
      ⟨program.scopes.scopes.size⟩ ⟨program.scopes.scopes.size + 1⟩ := by
  obtain ⟨data, atType, _, noInner⟩ := unfilled
  let declaredIn := (program.entry entry).declContext
  let outer := program.scopes.createChild declaredIn.currentScope .templateScope
  let both := outer.2.createChild outer.1 .classScope (some entry)
  let inner := (program.openInstance entry classType).1.2
  let widened : Program := { program with scopes := both.2 }
  have keepsScopes : program.scopes.Keeps both.2 :=
    ((ScopeTree.Keeps.refl _).createChild _ _ _).createChild _ _ _
  have atTypeWidened : widened.type classType = .classType data := atType
  have actual := actualClass?_eq_self atTypeWidened
  have modified : (program.openInstance entry classType).2 =
      widened.modifyClass classType fun data => { data with innerContext := some inner } := rfl
  have scopes : (program.openInstance entry classType).2.scopes = both.2 :=
    scopes_openInstance program entry classType
  have outerBound : outer.1.index < outer.2.scopes.size := by simp [outer, ScopeTree.createChild]
  have atOuter : both.2.scope outer.1 =
      { parent := some declaredIn.currentScope, kind := .templateScope } := by
    rw [show both.2.scope outer.1 = _ from ScopeTree.scope_createChild_of_lt outerBound _ _ _]
    exact ScopeTree.scope_createChild_self _ _ _
  have atMembers : both.2.scope both.1 =
      { parent := some outer.1, kind := .classScope, owner := some entry } :=
    ScopeTree.scope_createChild_self _ _ _
  have isMembers : both.1 = ⟨program.scopes.scopes.size + 1⟩ := by
    simp [both, outer, ScopeTree.createChild]
  refine ⟨⟨?_, ?_⟩, rfl, rfl, isMembers, Nat.le_refl _, Nat.lt_succ_self _, ?_, ?_, ?_, ?_, ?_⟩
  · rw [modified]
    refine KeepsEntities.modifyClass ((KeepsEntities.refl program).withScopes both.2) ?_
    intro found isFound
    rw [show classData? _ classType = some data from classData?_eq_some_iff.mpr
      ⟨classType, actual, atTypeWidened⟩] at isFound
    cases isFound
    refine ⟨_, rfl, rfl, rfl, ?_⟩
    intro context recorded
    rw [noInner] at recorded
    cases recorded
  · rw [scopes]
    exact keepsScopes
  · rw [scopes]
    simp [both, outer, ScopeTree.createChild]
  · rw [scopes]
    exact congrArg Scope.entries atOuter
  · rw [scopes, ← isMembers, atMembers]
  · rw [scopes, ← isMembers, atMembers]
    rfl
  · refine ⟨{ data with innerContext := some inner }, ?_, rfl⟩
    rw [modified]
    unfold modifyClass
    rw [actual]
    have bound : classType.index < widened.types.size :=
      index_lt_of_type_ne_default (by rw [atTypeWidened]; intro same; cases same)
    rw [type_modifyType_self bound, atTypeWidened]

theorem scopes_completeInstance (program : Program) (entry : SymbolId) (classType : TypeId)
    (inner : DeclContext) :
    (program.completeInstance entry classType inner).scopes =
      program.scopes.insert inner.currentScope (program.symbolName entry)
        ⟨program.symbols.size⟩ := by
  unfold completeInstance
  exact (scopes_modifyClass classType _).1

/-- Completing an instance declares the name of the class among the members and changes nothing
else that lookup sees. -/
theorem completeInstance_spec (program : Program) (entry : SymbolId) (classType : TypeId)
    {inner : DeclContext} (inTree : inner.currentScope.index < program.scopes.scopes.size) :
    program.KeepsEntities (program.completeInstance entry classType inner) ∧
      (program.completeInstance entry classType inner).scopes.scopes.size =
        program.scopes.scopes.size ∧
      (∀ other : ScopeId, other ≠ inner.currentScope →
        (program.completeInstance entry classType inner).scopes.scope other =
          program.scopes.scope other) ∧
      (program.completeInstance entry classType inner).scopes.scope inner.currentScope =
        { program.scopes.scope inner.currentScope with
          entries := (program.scopes.scope inner.currentScope).entries.insert
            (program.symbolName entry) ⟨program.symbols.size⟩ } := by
  have scopes := scopes_completeInstance program entry classType inner
  refine ⟨?_, by rw [scopes, ScopeTree.size_insert], ?_, ?_⟩
  · unfold completeInstance
    have copied := ((KeepsEntities.refl program).addEntry
      { program.entry entry with scope := inner.currentScope }).withScopes
        (program.scopes.insert inner.currentScope (program.symbolName entry)
          ⟨program.symbols.size⟩)
    refine (copied.modifyEntry_new (Nat.le_refl _) _).modifyClass ?_
    intro data _
    exact ⟨_, rfl, rfl, rfl, fun _ recorded => recorded⟩
  · intro other different
    rw [scopes, ScopeTree.scope_insert_of_ne different]
  · rw [scopes, ScopeTree.scope_insert_self inTree]

/-- The name of a completed instance inside it is a copy of its symbol. -/
theorem entry_completeInstance (program : Program) (entry : SymbolId) (classType : TypeId)
    (inner : DeclContext) :
    (program.completeInstance entry classType inner).entry ⟨program.symbols.size⟩ =
      { program.entry entry with
        scope := inner.currentScope, hidden := true, isInjectedClassName := true
        refersTo := some entry } := by
  let copied := program.copySymbolInto entry inner.currentScope
  let marked := copied.2.modifyEntry copied.1 fun copy =>
    { copy with hidden := true, isInjectedClassName := true, refersTo := some entry }
  have symbols : (program.completeInstance entry classType inner).symbols = marked.symbols := by
    unfold completeInstance
    exact (scopes_modifyClass classType _).2
  have bound : copied.1.index < copied.2.symbols.size := by
    simp [copied, copySymbolInto, addEntry, signIn]
  have atCopy : copied.2.entry copied.1 =
      { program.entry entry with scope := inner.currentScope } := by
    simp [copied, copySymbolInto]
  have same : (program.completeInstance entry classType inner).entry ⟨program.symbols.size⟩ =
      marked.entry copied.1 := by
    rw [Program.entry, symbols]
    rfl
  rw [same, entry_modifyEntry_self bound, atCopy]

end Program

namespace Session

/-- An instance whose parameters are bound: its members are recorded, and in the scope around them
each parameter name stands for its argument and is found from the members. -/
structure BoundInstance (before after : Session) (entry : SymbolId) (name : String)
    (bindings : List Binding) (inner : DeclContext) (scope : ScopeId)
    (symbols : List SymbolId) : Prop where
  grows : before.Grows after
  recorded : after.program.recordedContext? entry = some inner
  innerScope : inner.templateScope = some scope
  isNew : before.program.scopes.scopes.size ≤ scope.index
  entries : (after.program.scopes.scope scope).entries = entriesFor bindings symbols
  bound : List.Forall₂ (fun binding symbol => IsBound before after symbol binding.argument)
    bindings symbols
  visible : ∀ looked, looked ≠ name → (entriesFor bindings symbols).candidates looked ≠ [] →
    after.program.scopes.lookup inner.currentScope looked =
      (entriesFor bindings symbols).candidates looked

/-- A parameter other than the name of the class is found from the members and is bound. -/
theorem BoundInstance.exists_isBound {before after : Session} {entry : SymbolId} {name : String}
    {bindings : List Binding} {inner : DeclContext} {scope : ScopeId} {symbols : List SymbolId}
    (isBound : BoundInstance before after entry name bindings inner scope symbols)
    (distinct : (bindings.map (·.name)).Nodup) {index : Nat} {binding : Binding}
    (isAt : bindings[index]? = some binding) (notName : binding.name ≠ name) :
    ∃ symbol, after.program.candidates inner none binding.name = [symbol] ∧
      IsBound before after symbol binding.argument := by
  obtain ⟨symbol, bound, found⟩ := exists_candidates_entriesFor isBound.bound distinct isAt
  exact ⟨symbol, (isBound.visible binding.name notName (by rw [found]; simp)).trans found, bound⟩

theorem BoundInstance.of_same {before after last : Session} {entry : SymbolId} {name : String}
    {bindings : List Binding} {inner : DeclContext} {scope : ScopeId} {symbols : List SymbolId}
    (sameProgram : last.program = after.program) (sameTree : last.tree = after.tree)
    (isBound : BoundInstance before after entry name bindings inner scope symbols) :
    BoundInstance before last entry name bindings inner scope symbols where
  grows := by
    refine isBound.grows.trans ⟨?_, ?_⟩
    · rw [sameProgram]
      exact Program.Preserves.refl _
    · rw [sameTree]
      exact SyntaxTree.Extends.refl _
  recorded := by
    rw [sameProgram]
    exact isBound.recorded
  innerScope := isBound.innerScope
  isNew := isBound.isNew
  entries := by
    rw [sameProgram]
    exact isBound.entries
  bound := by
    refine isBound.bound.imp fun _ _ bound => bound.later ?_ ?_
    · rw [sameProgram]
      exact Program.KeepsEntities.refl _
    · rw [sameTree]
      exact SyntaxTree.Extends.refl _
  visible := by
    rw [sameProgram]
    exact isBound.visible

/-- Completes an instance whose arguments are injected and whose members need not be built. -/
def finishClass (session : Session) (entry : SymbolId) (classType : TypeId)
    (inner : DeclContext) : Session :=
  { session with
    program := (session.program.completeInstance entry classType inner).modifyEntry entry
      fun symbol => { symbol with defined := true } }

section Finished

variable {before opened filled : Session} {classType : TypeId} {entry : SymbolId} {name : String}
variable {context inner : DeclContext} {scope members : ScopeId}
variable (opens : before.program.Opened opened.program classType context inner scope members)
variable (inTree : opened.program.scopes.scopes.size ≤ filled.program.scopes.scopes.size)
include opens inTree

theorem members_lt_of_opened : inner.currentScope.index < filled.program.scopes.scopes.size := by
  rw [opens.innerCurrent]
  exact Nat.lt_of_lt_of_le opens.inTree inTree

theorem keepsEntities_finishClass (entry : SymbolId) :
    filled.program.KeepsEntities (filled.finishClass entry classType inner).program := by
  obtain ⟨completes, -⟩ := Program.completeInstance_spec filled.program entry classType
    (members_lt_of_opened opens inTree)
  exact completes.modifyEntry_defined entry

theorem recordedContext?_finishClass (keeps : opened.program.KeepsEntities filled.program)
    (typed : (filled.program.entry entry).type = some classType) :
    (filled.finishClass entry classType inner).program.recordedContext? entry = some inner := by
  have finished := keepsEntities_finishClass opens inTree entry
  obtain ⟨data, atType, hasInner⟩ := opens.recorded
  obtain ⟨later, atTypeLater, _, _, keepsInner⟩ := (keeps.trans finished).classType atType
  have stillTyped := finished.entryType_eq typed
  simp only [Program.recordedContext?, stillTyped, Option.bind_eq_bind, Option.bind_some,
    Program.classData?_eq_self atTypeLater]
  exact keepsInner inner hasInner

variable (named : filled.program.symbolName entry = name)
variable (others : ∀ other : ScopeId, other ≠ scope →
  filled.program.scopes.scope other = opened.program.scopes.scope other)
include named others

/-- Once an instance is finished, its members are its own name, and its arguments are as before. -/
theorem scopes_finishClass :
    (filled.finishClass entry classType inner).program.scopes.scope members =
        { opened.program.scopes.scope members with
          entries := [(name, [⟨filled.program.symbols.size⟩])] } ∧
      (filled.finishClass entry classType inner).program.scopes.scope scope =
        filled.program.scopes.scope scope := by
  have different : members ≠ scope := by
    rintro rfl
    exact Nat.lt_irrefl _ opens.order
  have sameScopes : (filled.finishClass entry classType inner).program.scopes =
      (filled.program.completeInstance entry classType inner).scopes := rfl
  obtain ⟨-, -, unchanged, declared⟩ :=
    Program.completeInstance_spec filled.program entry classType
      (members_lt_of_opened opens inTree)
  rw [opens.innerCurrent] at unchanged declared
  rw [sameScopes]
  refine ⟨?_, unchanged scope different.symm⟩
  rw [declared, others members different, opens.noMembers, named]
  rfl

theorem lookup_name_finishClass :
    (filled.finishClass entry classType inner).program.scopes.lookup inner.currentScope name =
      [⟨filled.program.symbols.size⟩] := by
  obtain ⟨atMembers, -⟩ := scopes_finishClass opens inTree named others
  have foundLocally : (filled.finishClass entry classType inner).program.scopes.lookupLocal members
      name = [⟨filled.program.symbols.size⟩] := by
    simp [ScopeTree.lookupLocal, atMembers, ScopeEntries.candidates_cons]
  rw [opens.innerCurrent, ScopeTree.lookup_of_local (by rw [foundLocally]; simp), foundLocally]

/-- Any other name of an argument is found in the scope around the members. -/
theorem lookup_finishClass {looked : String} (notName : looked ≠ name)
    (found : filled.program.scopes.lookupLocal scope looked ≠ []) :
    (filled.finishClass entry classType inner).program.scopes.lookup inner.currentScope looked =
      filled.program.scopes.lookupLocal scope looked := by
  obtain ⟨atMembers, atScope⟩ := scopes_finishClass opens inTree named others
  have missing : (filled.finishClass entry classType inner).program.scopes.lookupLocal members
      looked = [] := by
    simp [ScopeTree.lookupLocal, atMembers, ScopeEntries.candidates_cons, notName]
  have enclosed : ((filled.finishClass entry classType inner).program.scopes.scope
      members).parent = some scope := by
    rw [atMembers]
    exact opens.enclosed
  have foundLocally : (filled.finishClass entry classType inner).program.scopes.lookupLocal scope
      looked = filled.program.scopes.lookupLocal scope looked := by
    rw [ScopeTree.lookupLocal, atScope, ScopeTree.lookupLocal]
  rw [opens.innerCurrent, ScopeTree.lookup_of_parent missing enclosed opens.order,
    ScopeTree.lookup_of_local (by rw [foundLocally]; exact found), foundLocally]

end Finished

/-- Between opening and completing, injection is all that binding the parameters takes. -/
theorem boundInstance_of_injected {before opened filled : Session} {name : String}
    {arguments : List TemplateArgument} {templateType classType : TypeId} {entry : SymbolId}
    {context inner : DeclContext} {scope members : ScopeId} {bindings : List Binding}
    {symbols : List SymbolId}
    (isInstance : before.program.IsInstance name arguments templateType entry classType)
    (opens : before.program.Opened opened.program classType context inner scope members)
    (injected : Injected before opened filled scope bindings symbols) :
    BoundInstance before (filled.finishClass entry classType inner) entry name bindings inner scope
      symbols := by
  have atLeast := Nat.le_of_eq injected.size_eq.symm
  have finished := keepsEntities_finishClass opens atLeast entry
  obtain ⟨-, sameSize, others, -⟩ := Program.completeInstance_spec filled.program entry classType
    (members_lt_of_opened opens atLeast)
  have filledInstance := isInstance.retained (Program.Retains.of_keepsEntities
    (opens.preserves.toKeepsEntities.trans injected.keeps))
  have membersNew : before.program.scopes.scopes.size ≤ inner.currentScope.index := by
    rw [opens.innerCurrent]
    exact Nat.le_of_lt (Nat.lt_of_le_of_lt opens.isNew opens.order)
  have preserves := injected.grows.program.of_others finished (Nat.le_of_eq sameSize.symm)
    membersNew fun other different => others other different
  have atScope : (filled.program.scopes.scope scope).entries = entriesFor bindings symbols := by
    rw [injected.injected]
    simp [opens.noArguments]
  obtain ⟨-, sameScope⟩ :=
    scopes_finishClass opens atLeast filledInstance.symbolName injected.others
  refine ⟨⟨preserves, injected.grows.tree⟩, ?_, opens.innerScope, opens.isNew, ?_, ?_, ?_⟩
  · exact recordedContext?_finishClass opens atLeast injected.keeps filledInstance.typed
  · rw [sameScope, atScope]
  · exact injected.bound.imp fun _ _ bound => bound.later finished (SyntaxTree.Extends.refl _)
  · intro looked notName found
    have foundLocally : filled.program.scopes.lookupLocal scope looked =
        (entriesFor bindings symbols).candidates looked := by
      rw [ScopeTree.lookupLocal, atScope]
    rw [← foundLocally] at found ⊢
    exact lookup_finishClass opens atLeast filledInstance.symbolName injected.others notName found

end Session

end CppTemplates
