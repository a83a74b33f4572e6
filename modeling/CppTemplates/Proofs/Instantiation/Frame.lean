import CppTemplates.Proofs.Instantiation.ArgumentBinding
import CppTemplates.Proofs.Instantiation.HistoryPath
import CppTemplates.Proofs.Instantiation.Sparing
import CppTemplates.Proofs.Instantiation.Upkeep

/-!
# What an instantiation leaves alone

An instantiation copies trees, opens scopes and creates symbols and types.  All of that is new.  Of
what was there before, it marks the instance as defined and, if that is a class, records its inner
context and its completeness, and nothing else, be it successful or not.  So an analyzer that
changes nothing sees everything else as it was, and no name that is looked up elsewhere changes its
meaning.
-/

namespace CppTemplates

namespace Program

/-- Scopes, symbols and types are still what they were, except that a symbol may have become
defined and a class may have been filled in. -/
structure TouchesOnly (subject : SymbolId) (filled : Option TypeId) (before after : Program) :
    Prop where
  symbols_le : before.symbols.size ≤ after.symbols.size
  types_le : before.types.size ≤ after.types.size
  scopes : before.scopes.Keeps after.scopes
  entry : ∀ symbol : SymbolId, symbol.index < before.symbols.size → symbol ≠ subject →
    after.entry symbol = before.entry symbol
  subject : subject.index < before.symbols.size →
    (before.entry subject).KeptAs (after.entry subject)
  type : ∀ type : TypeId, type.index < before.types.size → filled ≠ some type →
    after.type type = before.type type
  filled : ∀ type, filled = some type → ∃ data completeness innerContext,
    before.type type = .classType data ∧
      after.type type = .classType { data with completeness, innerContext }

namespace TouchesOnly

variable {subject symbol : SymbolId} {filled : Option TypeId} {before program after : Program}

theorem refl (isClass : ∀ type, filled = some type → ∃ data, program.type type = .classType data) :
    TouchesOnly subject filled program program where
  symbols_le := Nat.le_refl _
  types_le := Nat.le_refl _
  scopes := .refl _
  entry _ _ _ := rfl
  subject _ := .refl _
  type _ _ _ := rfl
  filled type isFilled := by
    obtain ⟨data, atType⟩ := isClass type isFilled
    exact ⟨data, data.completeness, data.innerContext, atType, atType⟩

theorem grow (touches : TouchesOnly subject filled before program)
    (symbols_le : program.symbols.size ≤ after.symbols.size)
    (types_le : program.types.size ≤ after.types.size) (scopes : before.scopes.Keeps after.scopes)
    (entry : ∀ symbol : SymbolId, symbol.index < before.symbols.size →
      after.entry symbol = program.entry symbol)
    (type : ∀ type : TypeId, type.index < before.types.size →
      after.type type = program.type type) : TouchesOnly subject filled before after where
  symbols_le := Nat.le_trans touches.symbols_le symbols_le
  types_le := Nat.le_trans touches.types_le types_le
  scopes := scopes
  entry symbol bound other := (entry symbol bound).trans (touches.entry symbol bound other)
  subject bound := by
    rw [entry subject bound]
    exact touches.subject bound
  type id bound other := (type id bound).trans (touches.type id bound other)
  filled id isFilled := by
    obtain ⟨data, completeness, innerContext, wasClass, isClass⟩ := touches.filled id isFilled
    have bound : id.index < before.types.size := by
      apply index_lt_of_type_ne_default
      rw [wasClass]
      rintro ⟨⟩
    exact ⟨data, completeness, innerContext, wasClass, (type id bound).trans isClass⟩

theorem withScopes (touches : TouchesOnly subject filled before program) {scopes : ScopeTree}
    (keeps : before.scopes.Keeps scopes) :
    TouchesOnly subject filled before { program with scopes } :=
  touches.grow (Nat.le_refl _) (Nat.le_refl _) keeps (fun _ _ => rfl) fun _ _ => rfl

theorem newType (touches : TouchesOnly subject filled before program) (added : Ty) :
    TouchesOnly subject filled before (program.newType added).2 :=
  touches.grow (Nat.le_refl _) (by simp [Program.newType]) touches.scopes (fun _ _ => rfl)
    fun _ bound => type_newType_of_lt (Nat.lt_of_lt_of_le bound touches.types_le) added

theorem addEntry (touches : TouchesOnly subject filled before program) (added : SymbolEntry) :
    TouchesOnly subject filled before (program.addEntry added).2 :=
  touches.grow (by simp) (Nat.le_refl _) touches.scopes
    (fun _ bound => entry_addEntry_of_lt (Nat.lt_of_lt_of_le bound touches.symbols_le) added)
    fun _ _ => rfl

theorem modifyEntry_new (touches : TouchesOnly subject filled before program)
    (isNew : before.symbols.size ≤ symbol.index) (change : SymbolEntry → SymbolEntry) :
    TouchesOnly subject filled before (program.modifyEntry symbol change) := by
  refine touches.grow (by simp) (Nat.le_refl _) touches.scopes (fun id bound => ?_) fun _ _ => rfl
  apply entry_modifyEntry_of_ne
  rintro rfl
  omega

theorem addListed (touches : TouchesOnly subject filled before program) {scope : ScopeId}
    (isNew : before.scopes.scopes.size ≤ scope.index) (name : String) (added : SymbolEntry)
    (change : SymbolEntry → SymbolEntry) :
    TouchesOnly subject filled before
      (((program.addEntry added).2.signIn scope name (program.addEntry added).1).modifyEntry
        (program.addEntry added).1 change) :=
  ((touches.addEntry added).withScopes (touches.scopes.insert isNew name _)).modifyEntry_new
    touches.symbols_le change

theorem define (touches : TouchesOnly subject filled before program) :
    TouchesOnly subject filled before
      (program.modifyEntry subject fun entry => { entry with defined := true }) where
  symbols_le := by simpa using touches.symbols_le
  types_le := touches.types_le
  scopes := touches.scopes
  entry symbol bound other := by
    rw [entry_modifyEntry_of_ne other]
    exact touches.entry symbol bound other
  subject bound := by
    rw [entry_modifyEntry_self (Nat.lt_of_lt_of_le bound touches.symbols_le)]
    exact (touches.subject bound).trans ⟨true, fun _ => rfl, rfl⟩
  type := touches.type
  filled := touches.filled

theorem modifyClass {classType : TypeId}
    (touches : TouchesOnly subject (some classType) before program)
    {change : ClassType → ClassType}
    (fills : ∀ data, ∃ completeness innerContext,
      change data = { data with completeness, innerContext }) :
    TouchesOnly subject (some classType) before (program.modifyClass classType change) := by
  obtain ⟨data, completeness, innerContext, wasClass, isClass⟩ := touches.filled classType rfl
  unfold Program.modifyClass
  rw [actualClass?_eq_self isClass]
  constructor
  case symbols_le => exact touches.symbols_le
  case types_le => simpa using touches.types_le
  case scopes => exact touches.scopes
  case entry => exact touches.entry
  case subject => exact touches.subject
  case type =>
    intro id bound other
    rw [type_modifyType_of_ne (by rintro rfl; exact other rfl)]
    exact touches.type id bound other
  case filled =>
    rintro _ ⟨⟩
    have bound : classType.index < program.types.size := by
      apply index_lt_of_type_ne_default
      rw [isClass]
      rintro ⟨⟩
    obtain ⟨completeness, innerContext, change⟩ := fills { data with completeness, innerContext }
    refine ⟨data, completeness, innerContext, wasClass, ?_⟩
    rw [type_modifyType_self bound, isClass]
    simp only [change]

theorem openInstance {classType : TypeId}
    (touches : TouchesOnly subject (some classType) before program) (entry : SymbolId) :
    TouchesOnly subject (some classType) before (program.openInstance entry classType).2 :=
  (touches.withScopes ((touches.scopes.createChild _ _ _).createChild _ _ _)).modifyClass
    fun data => ⟨data.completeness, _, rfl⟩

theorem completeInstance {classType : TypeId} {inner : DeclContext}
    (touches : TouchesOnly subject (some classType) before program) (entry : SymbolId)
    (isNew : before.scopes.scopes.size ≤ inner.currentScope.index) :
    TouchesOnly subject (some classType) before
      (program.completeInstance entry classType inner) :=
  modifyClass (touches.addListed isNew _ _ _) fun data => ⟨_, data.innerContext, rfl⟩

end TouchesOnly

end Program

namespace Session

/-- Moreover all syntax is as it was. -/
structure TouchesOnly (subject : SymbolId) (filled : Option TypeId) (before after : Session) :
    Prop where
  tree : before.tree.Extends after.tree
  program : Program.TouchesOnly subject filled before.program after.program

variable {before : Session} {entry : SymbolId} {filled : Option TypeId}

theorem upkeep_touchesOnly :
    Session.Upkeep (before.TouchesOnly entry filled) fun scope =>
      before.program.scopes.scopes.size ≤ scope.index where
  same := by
    rintro session after sameProgram sameTree ⟨tree, program⟩
    exact ⟨sameTree ▸ tree, sameProgram ▸ program⟩
  opened _ _ touches isNew := Nat.le_trans touches.program.scopes.size_le isNew
  grows _ _ grows touches := ⟨touches.tree.trans grows, touches.program⟩
  typedefs _ _ touches := ⟨touches.tree, touches.program.newType _⟩
  declares _ _ _ _ _ _ isNew touches := ⟨touches.tree, touches.program.addListed isNew _ _ _⟩

theorem classUpkeep_touchesOnly {classType : TypeId} :
    Session.ClassUpkeep (before.TouchesOnly entry (some classType))
      (fun scope => before.program.scopes.scopes.size ≤ scope.index) entry classType :=
  { upkeep_touchesOnly with
    opens := fun _ touches => ⟨touches.tree, touches.program.openInstance entry⟩
    completes := fun _ _ isNew touches =>
      ⟨touches.tree, touches.program.completeInstance entry isNew⟩
    defines := fun _ touches => ⟨touches.tree, touches.program.define⟩ }

theorem functionUpkeep_touchesOnly :
    Session.FunctionUpkeep (before.TouchesOnly entry filled)
      (fun scope => before.program.scopes.scopes.size ≤ scope.index) entry :=
  { upkeep_touchesOnly with
    opens := fun _ _ touches =>
      ⟨touches.tree, touches.program.withScopes (touches.program.scopes.createChild _ _ _)⟩
    defines := fun _ touches => ⟨touches.tree, touches.program.define⟩ }

/-- The class that a request fills in, if it gets as far as that. -/
def filledClass? (session : Session) (request : Request) : Option TypeId :=
  match request.kind, session.classTarget request with
  | .classTemplate, .ok target => some target.type
  | _, _ => none

/-- That class is one, and nothing has been touched in the beginning. -/
theorem touchesOnly_start (session : Session) (request : Request) :
    session.TouchesOnly (session.subject request) (session.filledClass? request) session := by
  refine ⟨.refl _, .refl fun type isFilled => ?_⟩
  unfold filledClass? at isFilled
  split at isFilled
  case h_1 resolves =>
    cases isFilled
    obtain ⟨-, _, data, isClass, -⟩ := classIs_of_classTarget resolves
    exact ⟨data, isClass⟩
  case h_2 => cases isFilled

section Requests

variable {session : Session} {request : Request}

theorem classUpkeep_of_classTarget {target : ClassTarget} (isClass : request.kind = .classTemplate)
    (finds : session.classTarget request = .ok target) :
    Session.ClassUpkeep
      (session.TouchesOnly (session.subject request) (session.filledClass? request))
      (fun scope => session.program.scopes.scopes.size ≤ scope.index) target.entry target.type := by
  have subject : session.subject request = target.entry := by
    simp only [Session.subject, isClass, finds]
  have filled : session.filledClass? request = some target.type := by
    simp only [filledClass?, isClass, finds]
  rw [subject, filled]
  exact classUpkeep_touchesOnly

theorem functionUpkeep_of_function (isFunction : request.kind = .functionTemplate) :
    Session.FunctionUpkeep
      (session.TouchesOnly (session.subject request) (session.filledClass? request))
      (fun scope => session.program.scopes.scopes.size ≤ scope.index) request.entry := by
  rw [subject_of_function isFunction]
  exact functionUpkeep_touchesOnly

end Requests

end Session

/-- However the analyzer is called by the engine, it changes neither the program nor the tree. -/
def Analyzer.IsInert {σ : Type} (analyzer : Analyzer σ) : Prop :=
  ∀ (room : Nat) (program : Program) (tree : SyntaxTree),
    analyzer.Keeps (fun session => session.program = program ∧ session.tree = tree)
      (Activity.handler analyzer room)

theorem Analyzer.idle_isInert (σ : Type) : (Analyzer.idle σ).IsInert := by
  intro room program tree
  have solves : ∀ template requested, ((Action.solvePrimary template requested).run
      (Activity.handler (Analyzer.idle σ) room)).Keeps
        fun session => session.program = program ∧ session.tree = tree :=
    fun template requested =>
      Activity.keeps_bind Activity.keeps_get fun _ => Activity.keeps_ofExcept _
  exact
    { solveClassTemplate := fun _ template requested _ => solves template requested
      buildBaseClause := fun _ _ _ => Activity.keeps_ofExcept _
      buildMembers := fun _ _ _ => Activity.keeps_ofExcept _
      buildFunction := fun _ _ => Activity.keeps_ofExcept _
      finishClass := fun _ _ _ => Activity.keeps_ofExcept _ }

namespace Activity

variable {σ α : Type} {analyzer : Analyzer σ} {kept : Session → Prop}

/-- What changes neither the program nor the tree keeps whatever is said about them. -/
theorem Keeps.of_same {activity : Activity σ α}
    (inert : ∀ program tree,
      activity.Keeps fun session => session.program = program ∧ session.tree = tree)
    (same : ∀ before after : Session, after.program = before.program → after.tree = before.tree →
      kept before → kept after) : activity.Keeps kept := by
  intro before isKept
  apply satisfies_mono (inert before.session.program before.session.tree before ⟨rfl, rfl⟩)
  rintro _ after ⟨sameProgram, sameTree⟩
  exact same before.session after.session sameProgram sameTree isKept

theorem keeps_of_inert (inert : analyzer.IsInert) (room : Nat)
    (same : ∀ before after : Session, after.program = before.program → after.tree = before.tree →
      kept before → kept after) : analyzer.Keeps kept (handler analyzer room) where
  solveClassTemplate _ _ _ _ :=
    .of_same (fun program tree => (inert room program tree).solveClassTemplate _ _ _ _) same
  buildBaseClause _ _ _ :=
    .of_same (fun program tree => (inert room program tree).buildBaseClause _ _ _) same
  buildMembers _ _ _ :=
    .of_same (fun program tree => (inert room program tree).buildMembers _ _ _) same
  buildFunction _ _ :=
    .of_same (fun program tree => (inert room program tree).buildFunction _ _) same
  finishClass _ _ _ :=
    .of_same (fun program tree => (inert room program tree).finishClass _ _ _) same

/-- While the analyzer changes nothing, an instantiation changes of what was there before at most
that its subject becomes defined and that a class gets its inner context and completeness.
Whether it succeeds or not, every name means the same as before in every scope that was there. -/
theorem instantiation_touches_only (inert : analyzer.IsInert) (request : Request)
    (before : Compilation σ) :
    before.session.TouchesOnly (before.session.subject request)
        (before.session.filledClass? request) ((perform analyzer request).final before).session ∧
      ∀ (scope : ScopeId) (name : String),
        scope.index < before.session.program.scopes.scopes.size →
          ((perform analyzer request).final before).session.program.scopes.lookup scope name =
            before.session.program.scopes.lookup scope name := by
  have performs : (perform analyzer request).Satisfies before fun _ after =>
      before.session.TouchesOnly (before.session.subject request)
        (before.session.filledClass? request) after.session := by
    apply satisfies_bind
    apply satisfies_mono (satisfies_session before)
    rintro _ read ⟨rfl, rfl⟩
    dsimp only
    rw [performIn_eq_handler]
    exact satisfies_performWith (read.session.touchesOnly_start request)
      (fun _ => Session.classUpkeep_of_classTarget)
      Session.functionUpkeep_of_function
      (keeps_of_inert inert _ Session.upkeep_touchesOnly.same)
  obtain ⟨-, touches⟩ := exists_of_satisfies performs
  exact ⟨touches, fun scope name bound => touches.program.scopes.lookup_eq_of_lt bound name⟩

end Activity

namespace Sample

/-- Filling in the instance of `A` touches only the instance and its class.  The argument `T` is
declared in the instance, and at global scope the name still stands for nothing. -/
theorem filling_touches_only :
    (Analyzer.idle Unit).IsInert ∧
    compilation.session.TouchesOnly requested.1 (some ⟨4⟩)
      ((Activity.perform (Analyzer.idle Unit) request).final compilation).session ∧
    ((Activity.perform (Analyzer.idle Unit) request).final
      compilation).session.program.scopes.lookup ScopeTree.global "T" = [] := by
  have isSubject : compilation.session.subject request = requested.1 := by rfl
  have isFilled : compilation.session.filledClass? request = some ⟨4⟩ := by rfl
  have unknown : compilation.session.program.scopes.lookup ScopeTree.global "T" = [] := by
    rw [ScopeTree.lookup]
    rfl
  obtain ⟨touches, same⟩ :=
    Activity.instantiation_touches_only (Analyzer.idle_isInert Unit) request compilation
  rw [isSubject, isFilled] at touches
  exact ⟨Analyzer.idle_isInert Unit, touches,
    (same ScopeTree.global "T" (by decide)).trans unknown⟩

end Sample

end CppTemplates
