import CppTemplates.Proofs.Instantiation.HistorySteps

/-!
# What instantiations keep

To show that something stays true of sessions however a request ends, it is enough to look at the
few changes that the engine makes: it copies trees, declares arguments in a scope that it has
opened, opens and completes a class, and marks an entity as defined.  What is kept by the callbacks
too is then kept by the request.  Which scopes count as opened is left to the statement.
-/

namespace CppTemplates

namespace Session

/-- What stays true while trees are copied and arguments are declared in opened scopes.  It is
about the program and the tree only. -/
structure Upkeep (kept : Session → Prop) (isOpened : ScopeId → Prop) : Prop where
  same : ∀ before after : Session, after.program = before.program → after.tree = before.tree →
    kept before → kept after
  opened : ∀ (session : Session) (scope : ScopeId), kept session →
    session.program.scopes.scopes.size ≤ scope.index → isOpened scope
  grows : ∀ (session : Session) (tree : SyntaxTree), session.tree.Extends tree → kept session →
    kept { session with tree }
  typedefs : ∀ (session : Session) (type : TypeId), kept session →
    kept { session with program := (session.program.newTypedef type).2 }
  declares : ∀ (session : Session) (context : DeclContext) (name : String) (kind : SymbolKind)
    (type : TypeId) (value : Option NodeId),
    isOpened (context.templateScope.getD context.currentScope) → kept session →
      kept { session with program :=
        (session.program.declareArgument context name kind type value).2 }

/-- What moreover stays true while a class is opened, completed and defined. -/
structure ClassUpkeep (kept : Session → Prop) (isOpened : ScopeId → Prop) (entry : SymbolId)
    (classType : TypeId) : Prop extends Upkeep kept isOpened where
  opens : ∀ session : Session, kept session →
    kept { session with program := (session.program.openInstance entry classType).2 }
  completes : ∀ (session : Session) (inner : DeclContext), isOpened inner.currentScope →
    kept session →
      kept { session with program := session.program.completeInstance entry classType inner }
  defines : ∀ session : Session, kept session → kept (session.define entry)

/-- What moreover stays true while the context of a function is opened and the function is
defined. -/
structure FunctionUpkeep (kept : Session → Prop) (isOpened : ScopeId → Prop) (entry : SymbolId) :
    Prop extends Upkeep kept isOpened where
  opens : ∀ (session : Session) (outer : DeclContext), kept session →
    kept { session with program := { session.program with
      scopes := (session.program.scopes.newTemplateContext outer).2 } }
  defines : ∀ session : Session, kept session → kept (session.define entry)

/-- Declaring an argument may take a typedef or a literal of its own. -/
theorem Upkeep.injects {kept : Session → Prop} {isOpened : ScopeId → Prop}
    (upkeep : Upkeep kept isOpened) {session after : Session} {context : DeclContext}
    {name : String} {kind : ParameterKind} {argument : TemplateArgument} {symbol : SymbolId}
    (inOpened : isOpened (context.templateScope.getD context.currentScope))
    (injects : session.injectArgument context name kind argument = .ok (symbol, after))
    (isKept : kept session) : kept after := by
  obtain ⟨-, ways⟩ := injectsArgument_of_injectArgument injects
  cases ways with
  | type named declares =>
      subst declares
      exact upkeep.declares _ context name .typedefName _ none inOpened
        (upkeep.typedefs session named isKept)
  | template named declares =>
      subst declares
      exact upkeep.declares session context name .templateName _ none inOpened isKept
  | @nonType type _ _ value folded _ declares =>
      subst declares
      have isGrown := upkeep.grows session (session.tree.addLiteral value).2
        (SyntaxTree.extends_push session.tree _) isKept
      exact upkeep.declares _ context name .variableName type _ inOpened isGrown

end Session

/-- The members of an instance stand in a new scope. -/
theorem Program.size_le_openInstance_currentScope (program : Program) (entry : SymbolId)
    (classType : TypeId) : program.scopes.scopes.size ≤
      (program.openInstance entry classType).1.2.currentScope.index := by
  simp [openInstance, ScopeTree.newTemplateContext, ScopeTree.newClassContext,
    ScopeTree.createChild]

namespace Activity

variable {σ α β : Type}

/-- Whatever the outcome, an activity keeps what is true of the session. -/
def Keeps (kept : Session → Prop) (activity : Activity σ α) : Prop :=
  ∀ before : Compilation σ, kept before.session →
    activity.Satisfies before fun _ after => kept after.session

theorem satisfies_session (before : Compilation σ) :
    (session : Activity σ Session).Satisfies before fun outcome after =>
      outcome = .ok before.session ∧ after = before :=
  ⟨rfl, rfl⟩

theorem satisfies_onProgram (operation : Program → α × Program) (before : Compilation σ) :
    (onProgram operation : Activity σ α).Satisfies before fun outcome after =>
      outcome = .ok (operation before.session.program).1 ∧
        after = before.withProgram (operation before.session.program).2 :=
  ⟨rfl, rfl⟩

section Rules

variable {kept : Session → Prop}

/-- After something that keeps what is true, a sequence goes on where that is true. -/
theorem Keeps.satisfies_bind {first : Activity σ α} {next : α → Activity σ β}
    {goal : Except InstantiationError β → Compilation σ → Prop} {before : Compilation σ}
    (keeps : first.Keeps kept) (isKept : kept before.session)
    (goesOn : ∀ result after, kept after.session → (next result).Satisfies after goal)
    (fails : ∀ cause after, kept after.session → goal (.error cause) after) :
    (first >>= next).Satisfies before goal := by
  apply Activity.satisfies_bind
  apply satisfies_mono (keeps before isKept)
  intro outcome after isKeptLater
  cases outcome with
  | ok result => exact goesOn result after isKeptLater
  | error cause => exact fails cause after isKeptLater

theorem keeps_bind {first : Activity σ α} {next : α → Activity σ β} (firstKeeps : first.Keeps kept)
    (nextKeeps : ∀ result, (next result).Keeps kept) : (first >>= next).Keeps kept :=
  fun _ isKept => firstKeeps.satisfies_bind isKept nextKeeps fun _ _ isKeptLater => isKeptLater

theorem keeps_pure (result : α) : (pure result : Activity σ α).Keeps kept :=
  fun _ isKept => isKept

theorem keeps_throw (cause : InstantiationError) : (throw cause : Activity σ α).Keeps kept :=
  fun _ isKept => isKept

theorem keeps_ofExcept (outcome : Except InstantiationError α) :
    (ofExcept outcome : Activity σ α).Keeps kept :=
  fun _ isKept => satisfies_ofExcept isKept

theorem keeps_get : (get : Activity σ (Compilation σ)).Keeps kept :=
  fun _ isKept => isKept

theorem keeps_session : (session : Activity σ Session).Keeps kept :=
  fun _ isKept => isKept

theorem keeps_program : (program : Activity σ Program).Keeps kept :=
  fun _ isKept => isKept

theorem keeps_debug (message : Session → String) : (debug message : Activity σ Unit).Keeps kept :=
  fun _ isKept => isKept

theorem keeps_logAll (lines : Session → List LogLine) :
    (logAll lines : Activity σ Unit).Keeps kept :=
  fun _ isKept => isKept

theorem keeps_outcome {activity : Activity σ α} (keeps : activity.Keeps kept) :
    activity.outcome.Keeps kept :=
  fun before isKept => satisfies_outcome (keeps before isKept)

theorem keeps_modifySession {change : Session → Session}
    (changes : ∀ session, kept session → kept (change session)) :
    (modifySession change : Activity σ Unit).Keeps kept :=
  fun _ isKept => changes _ isKept

end Rules

section Engine

variable {kept : Session → Prop} {isOpened : ScopeId → Prop}
variable (upkeep : Session.Upkeep kept isOpened)
include upkeep

theorem keeps_onTree {operation : SyntaxTree → α × SyntaxTree}
    (grows : ∀ tree : SyntaxTree, tree.Extends (operation tree).2) :
    (onTree operation : Activity σ α).Keeps kept :=
  fun before isKept => upkeep.grows before.session _ (grows _) isKept

theorem keeps_record (entity : SymbolId) (location : Location) :
    (modifySession (·.record entity location) : Activity σ Unit).Keeps kept := by
  apply keeps_modifySession
  intro session isKept
  refine upkeep.same session _ ?_ ?_ isKept <;> unfold Session.record <;> split <;> rfl

theorem keeps_within {work : Activity σ α} (keeps : work.Keeps kept) (entity : SymbolId)
    (location : Location) : (within entity location work).Keeps kept := by
  intro before isKept
  apply satisfies_within
  · exact fun _ _ => isKept
  · intro entered enters
    obtain ⟨sameProgram, sameTree⟩ := program_of_enter enters
    have isKeptInside := upkeep.same before.session entered sameProgram sameTree isKept
    apply satisfies_mono (keeps { before with session := entered } isKeptInside)
    intro _ after isKeptLater
    exact upkeep.same after.session _ rfl rfl isKeptLater

theorem keeps_withSwitch {work : Activity σ α} (keeps : work.Keeps kept) (switch : Switch) :
    (withSwitch switch work).Keeps kept := by
  intro before isKept
  apply satisfies_withSwitch
  have isKeptTurned : kept (before.session.turn switch) := by
    refine upkeep.same before.session _ ?_ ?_ isKept <;> cases switch <;> rfl
  apply satisfies_mono (keeps (before.mapSession (·.turn switch)) isKeptTurned)
  intro _ after isKeptLater
  refine upkeep.same after.session _ ?_ ?_ isKeptLater <;> cases switch <;> rfl

theorem keeps_injectArgument {context : DeclContext}
    (inOpened : isOpened (context.templateScope.getD context.currentScope)) (name : String)
    (kind : ParameterKind) (argument : TemplateArgument) :
    (injectArgument context name kind argument : Activity σ SymbolId).Keeps kept := by
  apply keeps_bind (keeps_logAll _)
  intro _ before isKept
  apply satisfies_bind
  apply satisfies_mono (satisfies_session before)
  rintro _ read ⟨rfl, rfl⟩
  apply satisfies_bind
  apply satisfies_ofExcept
  cases injects : read.session.injectArgument context name kind argument with
  | error cause => exact isKept
  | ok result =>
      obtain ⟨symbol, after⟩ := result
      exact upkeep.injects inOpened injects isKept

theorem keeps_injectDeductions {context : DeclContext}
    (inOpened : isOpened (context.templateScope.getD context.currentScope))
    (parameters : List TemplateParameter) (deductions : List Deduction) :
    (injectDeductions context parameters deductions : Activity σ Unit).Keeps kept := by
  induction deductions with
  | nil => exact keeps_pure ()
  | cons deduction rest ih =>
      unfold injectDeductions
      split
      · apply keeps_bind keeps_program
        intro read
        apply keeps_bind (keeps_ofExcept _)
        intro name
        apply keeps_bind (keeps_injectArgument upkeep inOpened _ _ _)
        intro _
        exact ih
      · exact keeps_throw _

theorem keeps_injectArguments {context : DeclContext}
    (inOpened : isOpened (context.templateScope.getD context.currentScope))
    (pairs : List (TemplateParameter × TemplateArgument)) :
    (injectArguments context pairs : Activity σ Unit).Keeps kept := by
  induction pairs with
  | nil => exact keeps_pure ()
  | cons pair rest ih =>
      apply keeps_bind keeps_program
      intro read
      apply keeps_bind (keeps_injectArgument upkeep inOpened _ _ _)
      intro _
      exact ih

end Engine

end Activity

/-- Whatever the analyzer does when it is called, it keeps what is true of the session. -/
structure Analyzer.Keeps {σ : Type} (analyzer : Analyzer σ) (kept : Session → Prop)
    (perform : Request → Activity σ Unit) : Prop where
  solveClassTemplate : ∀ context template requested location,
    ((analyzer.solveClassTemplate context template requested location).run perform).Keeps kept
  buildBaseClause : ∀ clause type context,
    ((analyzer.buildBaseClause clause type context).run perform).Keeps kept
  buildMembers : ∀ members type context,
    ((analyzer.buildMembers members type context).run perform).Keeps kept
  buildFunction : ∀ definition context,
    ((analyzer.buildFunction definition context).run perform).Keeps kept
  finishClass : ∀ type context location,
    ((analyzer.finishClass type context location).run perform).Keeps kept

namespace Activity

section Requests

variable {σ : Type} {kept : Session → Prop} {isOpened : ScopeId → Prop} {analyzer : Analyzer σ}
variable {perform : Request → Activity σ Unit} {entry : SymbolId} {classType : TypeId}

theorem keeps_buildBases (callbacks : analyzer.Keeps kept perform) (clause : Option NodeId)
    (type : TypeId) (inner : DeclContext) :
    (buildBases analyzer perform clause type inner).Keeps kept := by
  cases clause with
  | none => exact keeps_pure ()
  | some clause => exact callbacks.buildBaseClause clause type inner

theorem keeps_buildMembers (callbacks : analyzer.Keeps kept perform) (members : Option NodeId)
    (type : TypeId) (inner : DeclContext) :
    (buildMembers analyzer perform members type inner).Keeps kept := by
  cases members with
  | none => exact keeps_pure ()
  | some members => exact callbacks.buildMembers members type _

theorem keeps_instantiationContext (upkeep : Session.FunctionUpkeep kept isOpened entry)
    (parameters : Option (List TemplateParameter)) :
    (instantiationContext entry parameters : Activity σ DeclContext).Keeps kept := by
  apply keeps_bind keeps_session
  intro read
  split
  · exact keeps_bind keeps_program fun _ => keeps_throw _
  · dsimp only
    split
    · apply keeps_bind (keeps_debug _)
      intro _
      apply keeps_bind keeps_program
      intro outer before isKept
      let context :=
        (before.session.program.scopes.newTemplateContext (outer.entry entry).declContext).1
      have inOpened : isOpened (context.templateScope.getD context.currentScope) :=
        upkeep.opened before.session _ isKept (Nat.le_refl _)
      have isKept := upkeep.opens before.session (outer.entry entry).declContext isKept
      apply satisfies_bind
      apply satisfies_mono (satisfies_onProgram _ before)
      rintro _ opened ⟨rfl, rfl⟩
      dsimp only
      exact keeps_bind (keeps_injectArguments upkeep.toUpkeep inOpened _) (fun _ => keeps_pure _) _
        isKept
    · exact keeps_throw _

theorem keeps_solveClass (callbacks : analyzer.Keeps kept perform) (request : Request)
    (template : TypeId) : (solveClass analyzer perform request entry template).Keeps kept := by
  apply keeps_bind (callbacks.solveClassTemplate _ _ _ _)
  intro solution
  cases solution with
  | some solution => exact keeps_pure solution
  | none =>
      apply keeps_bind keeps_program
      intro read
      apply keeps_bind keeps_program
      intro read
      exact keeps_throw _

/-- A class that has been prepared has its members in a scope that was opened for it. -/
theorem satisfies_prepareClass (upkeep : Session.ClassUpkeep kept isOpened entry classType)
    (callbacks : analyzer.Keeps kept perform) (request : Request) (template : TypeId)
    {before : Compilation σ} (isKept : kept before.session) :
    (prepareClass analyzer perform request entry classType template).Satisfies before
      fun outcome after => kept after.session ∧
        ∀ prepared, outcome = .ok prepared → isOpened prepared.inner.currentScope := by
  have fails : ∀ (cause : InstantiationError) (after : Compilation σ), kept after.session →
      kept after.session ∧ ∀ prepared : PreparedClass,
        Except.error cause = .ok prepared → isOpened prepared.inner.currentScope :=
    fun cause after isKept => ⟨isKept, fun _ impossible => nomatch impossible⟩
  apply (keeps_solveClass callbacks request template).satisfies_bind isKept _ fails
  intro solution solved isKept
  apply keeps_session.satisfies_bind isKept _ fails
  intro read solved isKept
  split
  · apply keeps_program.satisfies_bind isKept _ fails
    exact fun read after isKept => fails _ after isKept
  · apply (keeps_onTree upkeep.toUpkeep fun tree =>
      SyntaxTree.extends_copyTrees tree _).satisfies_bind isKept _ fails
    intro copies copied isKept
    apply keeps_program.satisfies_bind isKept _ fails
    intro read copied isKept
    have argumentsOpened :
        isOpened ((copied.session.program.openInstance entry classType).1.1.templateScope.getD
          (copied.session.program.openInstance entry classType).1.1.currentScope) :=
      upkeep.opened copied.session _ isKept (Nat.le_refl _)
    have membersOpened :
        isOpened (copied.session.program.openInstance entry classType).1.2.currentScope :=
      upkeep.opened copied.session _ isKept (Program.size_le_openInstance_currentScope _ _ _)
    have isKept := upkeep.opens copied.session isKept
    apply satisfies_bind
    apply satisfies_mono (satisfies_onProgram _ copied)
    rintro _ opened ⟨rfl, rfl⟩
    dsimp only
    apply (keeps_debug _).satisfies_bind isKept _ fails
    intro _ opened isKept
    apply (keeps_injectDeductions upkeep.toUpkeep argumentsOpened _ _).satisfies_bind isKept _ fails
    intro _ injected isKept
    apply (keeps_debug _).satisfies_bind isKept _ fails
    intro _ injected isKept
    apply (keeps_buildBases callbacks _ _ _).satisfies_bind isKept _ fails
    intro _ based isKept
    refine ⟨isKept, ?_⟩
    rintro _ ⟨⟩
    exact membersOpened

theorem keeps_completeClass (upkeep : Session.ClassUpkeep kept isOpened entry classType)
    (callbacks : analyzer.Keeps kept perform) (request : Request) {prepared : PreparedClass}
    (inOpened : isOpened prepared.inner.currentScope) :
    (completeClass analyzer perform request entry classType prepared).Keeps kept := by
  apply keeps_bind (keeps_modifySession fun session => upkeep.completes session _ inOpened)
  intro _
  apply keeps_bind (keeps_buildMembers callbacks _ _ _)
  intro _
  apply keeps_bind (keeps_modifySession upkeep.defines)
  intro _
  apply keeps_bind (callbacks.finishClass _ _ _)
  intro _
  apply keeps_bind (keeps_record upkeep.toUpkeep _ _)
  intro _
  exact keeps_debug _

/-- Filling in a class keeps what opening, completing and defining it keep. -/
theorem keeps_fillClass (upkeep : Session.ClassUpkeep kept isOpened entry classType)
    (callbacks : analyzer.Keeps kept perform) (request : Request) (template : TypeId) :
    (fillClass analyzer perform request entry classType template).Keeps kept := by
  intro before isKept
  apply satisfies_bind
  apply satisfies_mono (satisfies_prepareClass upkeep callbacks request template isKept)
  rintro outcome prepared ⟨isKept, inOpened⟩
  cases outcome with
  | error cause => exact isKept
  | ok result =>
      exact keeps_completeClass upkeep callbacks request (inOpened result rfl) prepared isKept

theorem keeps_buildFunction {request : Request}
    (upkeep : Session.FunctionUpkeep kept isOpened request.entry)
    (callbacks : analyzer.Keeps kept perform) (definition : Option NodeId) :
    (buildFunction analyzer perform request definition).Keeps kept := by
  apply keeps_bind (keeps_instantiationContext upkeep none)
  intro opened
  cases definition with
  | none => exact keeps_bind keeps_program fun _ => keeps_throw _
  | some definition =>
      apply keeps_bind (keeps_onTree upkeep.toUpkeep fun tree =>
        SyntaxTree.extends_appendCopy tree definition tree)
      intro copy
      apply keeps_bind
        (keeps_withSwitch upkeep.toUpkeep (callbacks.buildFunction _ _) .testExpression)
      intro _
      apply keeps_bind (keeps_modifySession upkeep.defines)
      intro _
      apply keeps_bind (keeps_record upkeep.toUpkeep _ _)
      intro _
      exact keeps_debug _

/-- A request for a class keeps what its instantiation keeps.  One that is turned down changes
nothing. -/
theorem satisfies_instantiateClass {request : Request} {before : Compilation σ}
    (isKept : kept before.session)
    (upkeep : ∀ target, before.session.classTarget request = .ok target →
      Session.ClassUpkeep kept isOpened target.entry target.type)
    (callbacks : analyzer.Keeps kept perform) :
    (instantiateClass analyzer perform request).Satisfies before
      fun _ after => kept after.session := by
  simp only [Session.classTarget] at upkeep
  unfold instantiateClass
  apply satisfies_bind
  apply satisfies_mono (satisfies_session before)
  rintro _ read ⟨rfl, rfl⟩
  apply satisfies_bind
  apply satisfies_ofExcept
  cases resolves : read.session.resolveClassEntry request.entry with
  | error cause => exact isKept
  | ok entry =>
      apply satisfies_bind
      apply satisfies_mono (satisfies_session read)
      rintro _ read ⟨rfl, rfl⟩
      simp only [resolves] at upkeep
      cases eligible : read.session.eligibleClass? entry with
      | none =>
          simp only [eligible]
          exact keeps_bind keeps_program (fun _ => keeps_throw _) _ isKept
      | some found =>
          obtain ⟨classType, template⟩ := found
          simp only [eligible] at upkeep ⊢
          have classUpkeep := upkeep ⟨entry, classType, template⟩ rfl
          exact keeps_bind (keeps_debug _) (fun _ => keeps_within classUpkeep.toUpkeep
            (keeps_fillClass classUpkeep callbacks request template) entry request.location) _
              isKept

theorem keeps_instantiateFunction {request : Request}
    (upkeep : Session.FunctionUpkeep kept isOpened request.entry)
    (callbacks : analyzer.Keeps kept perform) :
    (instantiateFunction analyzer perform request).Keeps kept := by
  apply keeps_bind keeps_session
  intro read
  split
  · exact keeps_debug _
  · apply keeps_bind keeps_program
    intro read
    split
    · exact keeps_bind keeps_program fun _ => keeps_bind keeps_program fun _ => keeps_throw _
    · apply keeps_bind (keeps_debug _)
      intro _
      apply keeps_bind keeps_session
      intro read
      split
      · exact keeps_bind keeps_program fun _ => keeps_throw _
      · apply keeps_bind keeps_session
        intro read
        split
        · exact keeps_debug _
        · apply keeps_bind keeps_session
          intro read
          exact keeps_within upkeep.toUpkeep (keeps_buildFunction upkeep callbacks _) _ _

theorem satisfies_performWith {request : Request} {before : Compilation σ}
    (isKept : kept before.session)
    (forClass : ∀ target, request.kind = .classTemplate →
      before.session.classTarget request = .ok target →
        Session.ClassUpkeep kept isOpened target.entry target.type)
    (forFunction : request.kind = .functionTemplate →
      Session.FunctionUpkeep kept isOpened request.entry)
    (callbacks : analyzer.Keeps kept perform) :
    (performWith analyzer perform request).Satisfies before fun _ after => kept after.session := by
  unfold performWith
  cases isKind : request.kind with
  | classTemplate =>
      exact satisfies_instantiateClass isKept (fun target => forClass target isKind) callbacks
  | functionTemplate =>
      exact keeps_instantiateFunction (forFunction isKind) callbacks before isKept

end Requests

section Runs

variable {σ α : Type} {kept : Session → Prop} {isOpened : ScopeId → Prop}
variable {allowed : Program → Program → Prop}

theorem keeps_run {action : Action σ α} {perform : Request → Activity σ Unit}
    (upkeep : Session.Upkeep kept isOpened)
    (allows : ∀ before after : Session, allowed before.program after.program → kept before →
      kept after)
    (updates : action.Updates allowed) (performs : ∀ request, (perform request).Keeps kept) :
    (action.run perform).Keeps kept := by
  induction action with
  | done outcome => exact keeps_ofExcept outcome
  | update change next ih =>
      have changes : (modify fun compilation => compilation.adopt (change compilation) :
          Activity σ Unit).Keeps kept :=
        fun before isKept => allows before.session _ (updates.1 before) isKept
      exact keeps_bind changes fun _ => ih updates.2
  | inspect next ih =>
      exact keeps_bind keeps_get fun compilation => ih compilation (updates compilation)
  | instantiate request next ih =>
      exact keeps_bind (keeps_outcome (performs request))
        fun outcome => ih outcome (updates outcome)
  | withSwitch switch work next workIh nextIh =>
      exact keeps_bind (keeps_outcome (keeps_withSwitch upkeep (workIh updates.1) switch))
        fun outcome => nextIh outcome (updates.2 outcome)

variable {analyzer : Analyzer σ}

theorem keeps_of_updates {perform : Request → Activity σ Unit}
    (updates : analyzer.Updates allowed) (upkeep : Session.Upkeep kept isOpened)
    (allows : ∀ before after : Session, allowed before.program after.program → kept before →
      kept after)
    (performs : ∀ request, (perform request).Keeps kept) : analyzer.Keeps kept perform where
  solveClassTemplate _ _ _ _ :=
    keeps_run upkeep allows (updates.solveClassTemplate _ _ _ _) performs
  buildBaseClause _ _ _ := keeps_run upkeep allows (updates.buildBaseClause _ _ _) performs
  buildMembers _ _ _ := keeps_run upkeep allows (updates.buildMembers _ _ _) performs
  buildFunction _ _ := keeps_run upkeep allows (updates.buildFunction _ _) performs
  finishClass _ _ _ := keeps_run upkeep allows (updates.finishClass _ _ _) performs

/-- A request keeps whatever all instantiations and all changes of the analyzer keep. -/
theorem keeps_perform
    (forClasses : ∀ entry classType, Session.ClassUpkeep kept isOpened entry classType)
    (forFunctions : ∀ entry, Session.FunctionUpkeep kept isOpened entry)
    (allows : ∀ before after : Session, allowed before.program after.program → kept before →
      kept after)
    (updates : analyzer.Updates allowed) (request : Request) :
    (perform analyzer request).Keeps kept := by
  have upkeep := (forFunctions request.entry).toUpkeep
  have step : ∀ further : Request → Activity σ Unit, (∀ request, (further request).Keeps kept) →
      ∀ request, (performWith analyzer further request).Keeps kept := by
    intro further performs request before isKept
    exact satisfies_performWith isKept (fun target _ _ => forClasses target.entry target.type)
      (fun _ => forFunctions request.entry) (keeps_of_updates updates upkeep allows performs)
  have within : ∀ room request, (performIn analyzer room request).Keeps kept := by
    intro room
    induction room with
    | zero => exact step refuse fun _ => keeps_bind keeps_session fun _ => keeps_throw _
    | succ room ih => exact step (performIn analyzer room) ih
  exact keeps_bind keeps_session fun _ => within _ request

end Runs

end Activity

end CppTemplates
