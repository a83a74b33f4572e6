import CppTemplates.Instantiation.Engine

/-!
# Logs that change nothing

An analyzer can keep a log beside its own state.  As long as it only writes to the log, and acts on
the compilation as it would without one, a run with the log is the run without it.  This holds for
every kind of log, since the engine does not look at the state of the analyzer.
-/

namespace CppTemplates

variable {σ ω α β : Type}

def Compilation.unlogged (compilation : Compilation (σ × ω)) : Compilation σ where
  session := compilation.session
  analyzerState := compilation.analyzerState.1
  journal := compilation.journal

/-- An action does what another does, and beyond that keeps a log. -/
inductive Action.Logs : Action (σ × ω) α → Action σ α → Prop
  | done (outcome : Except InstantiationError α) : Logs (.done outcome) (.done outcome)
  | note {logged : Action (σ × ω) α} {plain : Action σ α}
      {write : Compilation (σ × ω) → Compilation (σ × ω)}
      (keeps : ∀ compilation, (write compilation).unlogged = compilation.unlogged)
      (next : Logs logged plain) : Logs (.update write logged) plain
  | update {logged : Action (σ × ω) α} {plain : Action σ α}
      {loggedChange : Compilation (σ × ω) → Compilation (σ × ω)}
      {change : Compilation σ → Compilation σ}
      (same : ∀ compilation, (loggedChange compilation).unlogged = change compilation.unlogged)
      (next : Logs logged plain) : Logs (.update loggedChange logged) (.update change plain)
  | peek {logged : Compilation (σ × ω) → Action (σ × ω) α} {plain : Action σ α}
      (next : ∀ compilation, Logs (logged compilation) plain) : Logs (.inspect logged) plain
  | inspect {logged : Compilation (σ × ω) → Action (σ × ω) α}
      {plain : Compilation σ → Action σ α}
      (next : ∀ compilation, Logs (logged compilation) (plain compilation.unlogged)) :
      Logs (.inspect logged) (.inspect plain)
  | instantiate {logged : Except InstantiationError Unit → Action (σ × ω) α}
      {plain : Except InstantiationError Unit → Action σ α} (request : Request)
      (next : ∀ outcome, Logs (logged outcome) (plain outcome)) :
      Logs (.instantiate request logged) (.instantiate request plain)
  | withSwitch {loggedWork : Action (σ × ω) α} {work : Action σ α}
      {logged : Except InstantiationError α → Action (σ × ω) α}
      {plain : Except InstantiationError α → Action σ α} (switch : Switch)
      (works : Logs loggedWork work) (next : ∀ outcome, Logs (logged outcome) (plain outcome)) :
      Logs (.withSwitch switch loggedWork logged) (.withSwitch switch work plain)

/-- An analyzer does what another does, and beyond that keeps a log. -/
structure Analyzer.Logs (logged : Analyzer (σ × ω)) (plain : Analyzer σ) : Prop where
  solveClassTemplate : ∀ context template requested location,
    (logged.solveClassTemplate context template requested location).Logs
      (plain.solveClassTemplate context template requested location)
  buildBaseClause : ∀ clause type context,
    (logged.buildBaseClause clause type context).Logs (plain.buildBaseClause clause type context)
  buildMembers : ∀ members type context,
    (logged.buildMembers members type context).Logs (plain.buildMembers members type context)
  buildFunction : ∀ definition context,
    (logged.buildFunction definition context).Logs (plain.buildFunction definition context)
  finishClass : ∀ type context location,
    (logged.finishClass type context location).Logs (plain.finishClass type context location)

namespace Activity

/-- An activity does what another does, seen without the log. -/
def Reflects (logged : Activity (σ × ω) α) (plain : Activity σ α) : Prop :=
  ∀ before, plain before.unlogged =
    match logged before with
    | .ok result after => .ok result after.unlogged
    | .error cause after => .error cause after.unlogged

theorem reflects_pure (result : α) : Reflects (σ := σ) (ω := ω) (pure result) (pure result) :=
  fun _ => rfl

theorem reflects_throw (cause : InstantiationError) :
    Reflects (σ := σ) (ω := ω) (α := α) (throw cause) (throw cause) :=
  fun _ => rfl

theorem reflects_bind {logged : Activity (σ × ω) α} {plain : Activity σ α}
    {loggedNext : α → Activity (σ × ω) β} {plainNext : α → Activity σ β}
    (first : Reflects logged plain)
    (next : ∀ result, Reflects (loggedNext result) (plainNext result)) :
    Reflects (logged >>= loggedNext) (plain >>= plainNext) := by
  intro before
  have atFirst := first before
  simp only [bind, EStateM.bind, atFirst]
  cases logged before with
  | ok result after => exact next result after
  | error cause after => rfl

theorem reflects_session : Reflects (σ := σ) (ω := ω) session session :=
  fun _ => rfl

theorem reflects_program : Reflects (σ := σ) (ω := ω) program program :=
  fun _ => rfl

theorem reflects_modifySession (change : Session → Session) :
    Reflects (σ := σ) (ω := ω) (modifySession change) (modifySession change) :=
  fun _ => rfl

theorem reflects_modifyProgram (change : Program → Program) :
    Reflects (σ := σ) (ω := ω) (modifyProgram change) (modifyProgram change) :=
  fun _ => rfl

theorem reflects_onProgram (operation : Program → α × Program) :
    Reflects (σ := σ) (ω := ω) (onProgram operation) (onProgram operation) :=
  fun _ => rfl

theorem reflects_onTree (operation : SyntaxTree → α × SyntaxTree) :
    Reflects (σ := σ) (ω := ω) (onTree operation) (onTree operation) :=
  fun _ => rfl

theorem reflects_debug (message : Session → String) :
    Reflects (σ := σ) (ω := ω) (debug message) (debug message) :=
  fun _ => rfl

theorem reflects_logAll (lines : Session → List LogLine) :
    Reflects (σ := σ) (ω := ω) (logAll lines) (logAll lines) :=
  fun _ => rfl

theorem reflects_ofExcept (outcome : Except InstantiationError α) :
    Reflects (σ := σ) (ω := ω) (ofExcept outcome) (ofExcept outcome) := by
  cases outcome with
  | ok result => exact reflects_pure result
  | error cause => exact reflects_throw cause

theorem reflects_outcome {logged : Activity (σ × ω) α} {plain : Activity σ α}
    (reflects : Reflects logged plain) : Reflects logged.outcome plain.outcome := by
  intro before
  have atWork := reflects before
  simp only [outcome, atWork]
  cases logged before with
  | ok result after => rfl
  | error cause after => rfl

theorem reflects_within {logged : Activity (σ × ω) α} {plain : Activity σ α}
    (reflects : Reflects logged plain) (entity : SymbolId) (location : Location) :
    Reflects (within entity location logged) (within entity location plain) := by
  intro before
  simp only [within, show before.unlogged.session = before.session from rfl]
  cases before.session.enter entity location with
  | error cause => rfl
  | ok entered =>
      have atWork := reflects { before with session := entered }
      dsimp only
      rw [show ({ before.unlogged with session := entered } : Compilation σ) =
        Compilation.unlogged { before with session := entered } from rfl, atWork]
      cases logged { before with session := entered } with
      | ok result after => rfl
      | error cause after => rfl

theorem reflects_withSwitch {logged : Activity (σ × ω) α} {plain : Activity σ α}
    (reflects : Reflects logged plain) (switch : Switch) :
    Reflects (withSwitch switch logged) (withSwitch switch plain) := by
  intro before
  have atWork := reflects (before.mapSession (·.turn switch))
  simp only [withSwitch]
  rw [show before.unlogged.mapSession (·.turn switch) =
    (before.mapSession (·.turn switch)).unlogged from rfl, atWork]
  cases logged (before.mapSession (·.turn switch)) with
  | ok result after => rfl
  | error cause after => rfl

section Requests

variable {loggedPerform : Request → Activity (σ × ω) Unit}
variable {plainPerform : Request → Activity σ Unit}

theorem reflects_note {write : Compilation (σ × ω) → Compilation (σ × ω)}
    (keeps : ∀ compilation, (write compilation).unlogged = compilation.unlogged)
    {logged : Activity (σ × ω) α} {plain : Activity σ α} (reflects : Reflects logged plain) :
    Reflects (do modify fun compilation => compilation.adopt (write compilation); logged)
      plain := by
  intro before
  have same : (before.adopt (write before)).unlogged = before.unlogged :=
    congrArg before.unlogged.adopt (keeps before)
  have atEnd := reflects (before.adopt (write before))
  rw [same] at atEnd
  exact atEnd

theorem reflects_run
    (reflects : ∀ request, Reflects (loggedPerform request) (plainPerform request))
    {logged : Action (σ × ω) α} {plain : Action σ α} (logs : logged.Logs plain) :
    Reflects (logged.run loggedPerform) (plain.run plainPerform) := by
  induction logs with
  | done outcome => exact reflects_ofExcept outcome
  | note keeps _ ih => exact reflects_note keeps ih
  | @update _ _ loggedChange change same _ ih =>
      intro before
      have adopts : (before.adopt (loggedChange before)).unlogged =
          before.unlogged.adopt (change before.unlogged) :=
        congrArg before.unlogged.adopt (same before)
      have atEnd := ih (before.adopt (loggedChange before))
      rw [adopts] at atEnd
      exact atEnd
  | peek _ ih => exact fun before => ih before before
  | inspect _ ih => exact fun before => ih before before
  | instantiate request _ ih =>
      apply reflects_bind (reflects_outcome (reflects request))
      exact ih
  | withSwitch switch _ _ workIh nextIh =>
      apply reflects_bind (reflects_outcome (reflects_withSwitch workIh switch))
      exact nextIh

theorem reflects_injectArgument (context : DeclContext) (name : String) (kind : ParameterKind)
    (argument : TemplateArgument) :
    Reflects (σ := σ) (ω := ω) (injectArgument context name kind argument)
      (injectArgument context name kind argument) := by
  apply reflects_bind (reflects_logAll _)
  intro _
  apply reflects_bind reflects_session
  intro read
  apply reflects_bind (reflects_ofExcept _)
  intro injected
  apply reflects_bind (reflects_modifySession _)
  intro _
  exact reflects_pure injected.1

theorem reflects_injectDeductions (context : DeclContext) (parameters : List TemplateParameter)
    (deductions : List Deduction) :
    Reflects (σ := σ) (ω := ω) (injectDeductions context parameters deductions)
      (injectDeductions context parameters deductions) := by
  induction deductions with
  | nil => exact reflects_pure ()
  | cons deduction rest ih =>
      unfold injectDeductions
      split
      · apply reflects_bind reflects_program
        intro read
        apply reflects_bind (reflects_ofExcept _)
        intro name
        apply reflects_bind (reflects_injectArgument _ _ _ _)
        intro _
        exact ih
      · exact reflects_throw _

theorem reflects_injectArguments (context : DeclContext)
    (pairs : List (TemplateParameter × TemplateArgument)) :
    Reflects (σ := σ) (ω := ω) (injectArguments context pairs) (injectArguments context pairs) := by
  induction pairs with
  | nil => exact reflects_pure ()
  | cons pair rest ih =>
      apply reflects_bind reflects_program
      intro read
      apply reflects_bind (reflects_injectArgument _ _ _ _)
      intro _
      exact ih

theorem reflects_instantiationContext (entry : SymbolId)
    (parameters : Option (List TemplateParameter)) :
    Reflects (σ := σ) (ω := ω) (instantiationContext entry parameters)
      (instantiationContext entry parameters) := by
  apply reflects_bind reflects_session
  intro read
  split
  · apply reflects_bind reflects_program
    intro read
    exact reflects_throw _
  · dsimp only
    split
    · apply reflects_bind (reflects_debug _)
      intro _
      apply reflects_bind reflects_program
      intro read
      apply reflects_bind (reflects_onProgram _)
      intro context
      apply reflects_bind (reflects_injectArguments _ _)
      intro _
      exact reflects_pure context
    · exact reflects_throw _

variable {logged : Analyzer (σ × ω)} {plain : Analyzer σ} (logs : logged.Logs plain)
variable (reflects : ∀ request, Reflects (loggedPerform request) (plainPerform request))
include logs reflects

theorem reflects_solveClass (request : Request) (entry : SymbolId) (template : TypeId) :
    Reflects (solveClass logged loggedPerform request entry template)
      (solveClass plain plainPerform request entry template) := by
  apply reflects_bind
  · exact reflects_run reflects
      (logs.solveClassTemplate request.context template entry request.location)
  · intro solution
    cases solution with
    | some solution => exact reflects_pure solution
    | none =>
        apply reflects_bind reflects_program
        intro read
        apply reflects_bind reflects_program
        intro read
        exact reflects_throw _

theorem reflects_buildBases (clause : Option NodeId) (classType : TypeId) (inner : DeclContext) :
    Reflects (buildBases logged loggedPerform clause classType inner)
      (buildBases plain plainPerform clause classType inner) := by
  cases clause with
  | none => exact reflects_pure ()
  | some clause => exact reflects_run reflects (logs.buildBaseClause clause classType inner)

theorem reflects_buildMembers (members : Option NodeId) (classType : TypeId)
    (inner : DeclContext) :
    Reflects (buildMembers logged loggedPerform members classType inner)
      (buildMembers plain plainPerform members classType inner) := by
  cases members with
  | none => exact reflects_pure ()
  | some members => exact reflects_run reflects (logs.buildMembers members classType _)

theorem reflects_prepareClass (request : Request) (entry : SymbolId) (classType template : TypeId) :
    Reflects (prepareClass logged loggedPerform request entry classType template)
      (prepareClass plain plainPerform request entry classType template) := by
  apply reflects_bind (reflects_solveClass logs reflects _ _ _)
  intro solution
  apply reflects_bind reflects_session
  intro read
  split
  · apply reflects_bind reflects_program
    intro read
    exact reflects_throw _
  · apply reflects_bind (reflects_onTree _)
    intro copies
    apply reflects_bind reflects_program
    intro read
    apply reflects_bind (reflects_onProgram _)
    intro opened
    apply reflects_bind (reflects_debug _)
    intro _
    apply reflects_bind (reflects_injectDeductions _ _ _)
    intro _
    apply reflects_bind (reflects_debug _)
    intro _
    apply reflects_bind (reflects_buildBases logs reflects _ _ _)
    intro _
    exact reflects_pure _

theorem reflects_completeClass (request : Request) (entry : SymbolId) (classType : TypeId)
    (prepared : PreparedClass) :
    Reflects (completeClass logged loggedPerform request entry classType prepared)
      (completeClass plain plainPerform request entry classType prepared) := by
  apply reflects_bind (reflects_modifyProgram _)
  intro _
  apply reflects_bind (reflects_buildMembers logs reflects _ _ _)
  intro _
  apply reflects_bind (reflects_modifyProgram _)
  intro _
  apply reflects_bind
    (reflects_run reflects (logs.finishClass classType prepared.declaredIn request.location))
  intro _
  apply reflects_bind (reflects_modifySession _)
  intro _
  exact reflects_debug _

theorem reflects_fillClass (request : Request) (entry : SymbolId) (classType template : TypeId) :
    Reflects (fillClass logged loggedPerform request entry classType template)
      (fillClass plain plainPerform request entry classType template) := by
  apply reflects_bind (reflects_prepareClass logs reflects _ _ _ _)
  intro prepared
  exact reflects_completeClass logs reflects _ _ _ prepared

theorem reflects_instantiateClass (request : Request) :
    Reflects (instantiateClass logged loggedPerform request)
      (instantiateClass plain plainPerform request) := by
  apply reflects_bind reflects_session
  intro read
  apply reflects_bind (reflects_ofExcept _)
  intro entry
  apply reflects_bind reflects_session
  intro read
  split
  · apply reflects_bind reflects_program
    intro read
    exact reflects_throw _
  · apply reflects_bind (reflects_debug _)
    intro _
    exact reflects_within (reflects_fillClass logs reflects _ _ _ _) _ _

theorem reflects_buildFunction (request : Request) (definition : Option NodeId) :
    Reflects (buildFunction logged loggedPerform request definition)
      (buildFunction plain plainPerform request definition) := by
  apply reflects_bind (reflects_instantiationContext _ _)
  intro opened
  cases definition with
  | none =>
      apply reflects_bind reflects_program
      intro read
      exact reflects_throw _
  | some definition =>
      apply reflects_bind (reflects_onTree _)
      intro copy
      apply reflects_bind
        (reflects_withSwitch (reflects_run reflects (logs.buildFunction copy _)) _)
      intro _
      apply reflects_bind (reflects_modifyProgram _)
      intro _
      apply reflects_bind (reflects_modifySession _)
      intro _
      exact reflects_debug _

theorem reflects_instantiateFunction (request : Request) :
    Reflects (instantiateFunction logged loggedPerform request)
      (instantiateFunction plain plainPerform request) := by
  apply reflects_bind reflects_session
  intro read
  split
  · exact reflects_debug _
  · apply reflects_bind reflects_program
    intro read
    split
    · apply reflects_bind reflects_program
      intro read
      apply reflects_bind reflects_program
      intro read
      exact reflects_throw _
    · apply reflects_bind (reflects_debug _)
      intro _
      apply reflects_bind reflects_session
      intro read
      split
      · apply reflects_bind reflects_program
        intro read
        exact reflects_throw _
      · apply reflects_bind reflects_session
        intro read
        split
        · exact reflects_debug _
        · apply reflects_bind reflects_session
          intro read
          exact reflects_within (reflects_buildFunction logs reflects _ _) _ _

theorem reflects_performWith (request : Request) :
    Reflects (performWith logged loggedPerform request)
      (performWith plain plainPerform request) := by
  unfold performWith
  cases request.kind with
  | classTemplate => exact reflects_instantiateClass logs reflects request
  | functionTemplate => exact reflects_instantiateFunction logs reflects request

end Requests

theorem reflects_refuse (request : Request) :
    Reflects (σ := σ) (ω := ω) (refuse request) (refuse request) :=
  fun _ => rfl

variable {logged : Analyzer (σ × ω)} {plain : Analyzer σ}

theorem reflects_performIn (logs : logged.Logs plain) (room : Nat) (request : Request) :
    Reflects (performIn logged room request) (performIn plain room request) := by
  induction room generalizing request with
  | zero => exact reflects_performWith logs reflects_refuse request
  | succ room ih => exact reflects_performWith logs ih request

theorem reflects_perform (logs : logged.Logs plain) (request : Request) :
    Reflects (perform logged request) (perform plain request) :=
  reflects_bind reflects_session fun _ => reflects_performIn logs _ request

theorem reflects_act (logs : logged.Logs plain) {loggedAction : Action (σ × ω) α}
    {action : Action σ α} (actionLogs : loggedAction.Logs action) :
    Reflects (act logged loggedAction) (act plain action) :=
  reflects_run (reflects_perform logs) actionLogs

end Activity

end CppTemplates
