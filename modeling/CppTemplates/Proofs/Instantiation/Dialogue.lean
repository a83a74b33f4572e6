import CppTemplates.Proofs.Instantiation.PassiveRun
import CppTemplates.Proofs.Program.Declarations

/-!
# The engine in conversation with the analyzer

Between two callbacks the engine works by itself: it computes the session of the next callback, or
the outcome of the request, from the session that the last callback left and what the analyzer
replied.  So a request is a conversation.  The engine has the first turn; each of its turns either
calls the analyzer and remembers the stage that it has come to, or answers the request.
-/

namespace CppTemplates

/-- What the engine asks the analyzer to do. -/
inductive Callback where
  | solveClassTemplate (context : DeclContext) (template : TypeId) (requested : SymbolId)
      (location : Location)
  | buildBaseClause (clause : NodeId) (type : TypeId) (context : DeclContext)
  | buildMembers (members : NodeId) (type : TypeId) (context : DeclContext)
  | buildFunction (definition : NodeId) (context : DeclContext)
  | finishClass (type : TypeId) (context : DeclContext) (location : Location)
deriving DecidableEq, Repr, Inhabited

/-- How the analyzer ends a callback.  Only a callback that asks for a template gives a solution. -/
abbrev Reply := Except InstantiationError (Option Solution)

structure ClassTarget where
  entry : SymbolId
  type : TypeId
  template : TypeId
deriving DecidableEq, Repr, Inhabited

/-- How far the engine has come with a request when it calls the analyzer. -/
inductive Stage where
  /-- The template of a class is being selected. -/
  | solving (target : ClassTarget)
  /-- The bases of a class are being recorded. -/
  | basing (target : ClassTarget) (prepared : PreparedClass)
  /-- The members of a class are being declared. -/
  | building (target : ClassTarget) (prepared : PreparedClass)
  /-- A class is being finished. -/
  | finishing (target : ClassTarget)
  /-- The definition of a function is being built; `untested` is the session from before the test
  of expressions was turned off. -/
  | defining (entry : SymbolId) (untested : Session)

/-- A turn of the engine: it calls the analyzer or answers the request. -/
inductive Turn where
  | call (callback : Callback) (session : Session) (stage : Stage)
  | answer (outcome : Except InstantiationError Unit) (session : Session)

namespace Session

variable (session : Session)

theorem enter_eq_ok {session entered : Session} {entity : SymbolId} {location : Location}
    (enters : session.enter entity location = .ok entered) :
    session.depth < session.limits.maxDepth ∧
      entered = { session with
        depth := session.depth + 1, active := session.active.insert entity } := by
  unfold enter at enters
  split at enters
  · cases enters
  · next below =>
      cases enters
      exact ⟨Nat.lt_of_not_le below, rfl⟩

def define (entry : SymbolId) : Session :=
  { session with
    program := session.program.modifyEntry entry fun symbol => { symbol with defined := true } }

/-- Completes a class as far as the engine does it by itself. -/
def completeClass (target : ClassTarget) (inner : DeclContext) : Session :=
  { session with program := session.program.completeInstance target.entry target.type inner }

def injectDeductions (context : DeclContext) (parameters : List TemplateParameter) :
    List Deduction → Session → Except InstantiationError Unit × Session
  | [], session => (.ok (), session)
  | deduction :: rest, session =>
      match deduction.deduced with
      | [argument] =>
          match session.program.parameterName parameters deduction.nesting deduction.position with
          | .error cause => (.error cause, session)
          | .ok name =>
              match session.injectArgument context name deduction.kind argument with
              | .error cause => (.error cause, session)
              | .ok (_, injected) => injectDeductions context parameters rest injected
      | deduced =>
          (.error (.deducedArgumentCount deduction.nesting deduction.position deduced.length),
            session)

def injectArguments (context : DeclContext) :
    List (TemplateParameter × TemplateArgument) → Session → Except InstantiationError Unit × Session
  | [], session => (.ok (), session)
  | (parameter, argument) :: rest, session =>
      match session.injectArgument context (session.program.symbolName parameter.entry)
          parameter.kind argument with
      | .error cause => (.error cause, session)
      | .ok (_, injected) => injectArguments context rest injected

section Related

variable {related : Session → Session → Prop} (refl : ∀ session, related session session)
variable (trans : ∀ first second third, related first second → related second third →
  related first third)
variable {context : DeclContext}
variable (injects : ∀ {session after : Session} {name : String} {kind : ParameterKind}
  {argument : TemplateArgument} {symbol : SymbolId},
  session.injectArgument context name kind argument = .ok (symbol, after) → related session after)
include refl trans injects

/-- What every declared argument keeps, all of them keep, as far as they are declared. -/
theorem related_injectDeductions (parameters : List TemplateParameter)
    (deductions : List Deduction) (session : Session) :
    related session (injectDeductions context parameters deductions session).2 := by
  induction deductions generalizing session with
  | nil => exact refl session
  | cons deduction rest ih =>
      unfold injectDeductions
      split
      · split
        · exact refl session
        · split
          · exact refl session
          · next injected => exact trans _ _ _ (injects injected) (ih _)
      · exact refl session

theorem related_injectArguments (pairs : List (TemplateParameter × TemplateArgument))
    (session : Session) : related session (injectArguments context pairs session).2 := by
  induction pairs generalizing session with
  | nil => exact refl session
  | cons pair rest ih =>
      unfold injectArguments
      split
      · exact refl session
      · next injected => exact trans _ _ _ (injects injected) (ih _)

end Related

/-- Opens the context that a function is instantiated in and declares the arguments there. -/
def openFunction (entry : SymbolId) : Except InstantiationError DeclContext × Session :=
  match session.functionSpecialization? entry with
  | none => (.error (.notEligibleFunction (session.program.symbolName entry)), session)
  | some specialization =>
      if specialization.arguments.length = specialization.parameters.length then
        let (context, scopes) :=
          session.program.scopes.newTemplateContext (session.program.entry entry).declContext
        let opened : Session := { session with program := { session.program with scopes } }
        let (outcome, injected) := opened.injectArguments context
          (specialization.parameters.zip specialization.arguments)
        (outcome.map fun _ => context, injected)
      else
        (.error (.arityMismatch specialization.arguments.length specialization.parameters.length),
          session)

theorem context_of_openFunction {session : Session} {entry : SymbolId} {context : DeclContext}
    (opens : (session.openFunction entry).1 = .ok context) :
    context = (session.program.scopes.newTemplateContext
      (session.program.entry entry).declContext).1 := by
  unfold openFunction at opens
  split at opens
  · cases opens
  · split at opens
    · dsimp only at opens
      cases injects : (injectArguments _ _ _).1 with
      | error cause =>
          rw [injects] at opens
          cases opens
      | ok _ =>
          rw [injects] at opens
          cases opens
          rfl
    · cases opens

def classTarget (request : Request) : Except InstantiationError ClassTarget :=
  match session.resolveClassEntry request.entry with
  | .error cause => .error cause
  | .ok entry =>
      match session.eligibleClass? entry with
      | some (type, template) => .ok ⟨entry, type, template⟩
      | none => .error (.notEligibleClass (session.program.symbolName entry))

/-- The engine has the class finished. -/
def finishTurn (request : Request) (target : ClassTarget) (prepared : PreparedClass) : Turn :=
  .call (.finishClass target.type prepared.declaredIn request.location)
    (session.define target.entry) (.finishing target)

/-- The engine has the members declared, if there is a member list. -/
def membersTurn (request : Request) (target : ClassTarget) (prepared : PreparedClass) : Turn :=
  match prepared.members with
  | some members =>
      .call (.buildMembers members target.type
          { prepared.inner with flags := { prepared.inner.flags with instantiating := true } })
        session (.building target prepared)
  | none => session.finishTurn request target prepared

/-- The engine completes the class and turns to its members. -/
def completeTurn (request : Request) (target : ClassTarget) (prepared : PreparedClass) : Turn :=
  (session.completeClass target prepared.inner).membersTurn request target prepared

/-- The engine has the bases recorded, if there is a base clause. -/
def basesTurn (request : Request) (target : ClassTarget) (clause : Option NodeId)
    (prepared : PreparedClass) : Turn :=
  match clause with
  | some clause =>
      .call (.buildBaseClause clause target.type prepared.inner) session (.basing target prepared)
  | none => session.completeTurn request target prepared

/-- What is known of a class once its context is open. -/
def preparedClass (trees : InstantiationTrees) (target : ClassTarget) : PreparedClass where
  members := (session.tree.copyTrees trees).1.members
  declaredIn := (session.program.entry target.entry).declContext
  inner := (session.program.openInstance target.entry target.type).1.2

/-- The engine opens the class for the selected template and declares the arguments. -/
def prepareTurn (request : Request) (target : ClassTarget) (solution : Solution) : Turn :=
  match session.selectedTemplate? solution.selected with
  | none =>
      .answer (.error (.notEligibleClass (session.program.symbolName solution.selected)))
        (session.leave target.entry)
  | some (trees, parameters) =>
      match (session.openClass trees target.entry target.type).injectDeductions
          (session.program.openInstance target.entry target.type).1.1 parameters
          solution.deductions with
      | (.error cause, injected) => .answer (.error cause) (injected.leave target.entry)
      | (.ok _, injected) =>
          injected.basesTurn request target (session.tree.copyTrees trees).1.bases
            (session.preparedClass trees target)

def enterClass (request : Request) (target : ClassTarget) : Turn :=
  match session.enter target.entry request.location with
  | .error cause => .answer (.error cause) session
  | .ok entered =>
      .call (.solveClassTemplate request.context target.template target.entry request.location)
        entered (.solving target)

/-- The primary template of a function that has to be built, none if nothing has to be done. -/
def functionTarget (entry : SymbolId) : Except InstantiationError (Option SymbolId) :=
  if session.checkingAmbiguity then
    .ok none
  else if (session.program.entry entry).kind ≠ .function then
    .error (.invalidSymbol (session.program.symbolName entry) (session.program.entry entry).kind)
  else
    match session.primaryFunction? entry with
    | none => .error (.notEligibleFunction (session.program.symbolName entry))
    | some primary =>
        match session.reasonToSkip? entry primary with
        | some _ => .ok none
        | none => .ok (some primary)

/-- The engine has a copy of the definition built around the arguments. -/
def defineTurn (entry : SymbolId) (definition : Option NodeId) : Turn :=
  match session.openFunction entry with
  | (.error cause, opened) => .answer (.error cause) (opened.leave entry)
  | (.ok context, opened) =>
      match definition with
      | none =>
          .answer (.error (.missingDefinition (opened.program.symbolName entry)))
            (opened.leave entry)
      | some definition =>
          let (copy, tree) := opened.tree.copyForInstantiation definition
          let copied : Session := { opened with tree }
          .call (.buildFunction copy
              { context with
                flags := { context.flags with template := true, explicitSpecialization := true } })
            (copied.turn .testExpression) (.defining entry copied)

def enterFunction (request : Request) (primary : SymbolId) : Turn :=
  match session.enter request.entry request.location with
  | .error cause => .answer (.error cause) session
  | .ok entered => entered.defineTurn request.entry (session.functionDefinition? primary)

def firstTurn (request : Request) : Turn :=
  match request.kind with
  | .classTemplate =>
      match session.classTarget request with
      | .error cause => .answer (.error cause) session
      | .ok target => session.enterClass request target
  | .functionTemplate =>
      match session.functionTarget request.entry with
      | .error cause => .answer (.error cause) session
      | .ok none => .answer (.ok ()) session
      | .ok (some primary) => session.enterFunction request primary

end Session

namespace Stage

def entry : Stage → SymbolId
  | .solving target | .basing target _ | .building target _ | .finishing target => target.entry
  | .defining entry _ => entry

/-- The session in which the engine goes on after a callback. -/
def settle : Stage → Session → Session
  | .defining _ untested, session => session.putBack untested .testExpression
  | _, session => session

/-- The turn of the engine that follows a reply. -/
def nextTurn (request : Request) (stage : Stage) (reply : Reply) (ended : Session) : Turn :=
  match reply with
  | .error cause => .answer (.error cause) ((stage.settle ended).leave stage.entry)
  | .ok solution =>
      match stage with
      | .solving target =>
          match solution with
          | some solution => ended.prepareTurn request target solution
          | none =>
              .answer (.error (.noMatchingTemplate (ended.program.symbolName target.entry)
                  (ended.program.entry target.entry).location))
                (ended.leave target.entry)
      | .basing target prepared => ended.completeTurn request target prepared
      | .building target prepared => ended.finishTurn request target prepared
      | .finishing target =>
          .answer (.ok ()) ((ended.record target.entry request.location).leave target.entry)
      | .defining entry untested =>
          .answer (.ok ()) ((((ended.putBack untested .testExpression).define entry).record entry
            request.location).leave entry)

end Stage

/-- A callback that was made: the sessions at its beginning and end, and the reply. -/
structure Call where
  callback : Callback
  called : Session
  reply : Reply
  ended : Session

/-- The callbacks made for a request bring the engine to a turn.  Each was made in the turn before
it. -/
inductive Dialogue (request : Request) (asked : Session) : List Call → Turn → Prop
  | first : Dialogue request asked [] (asked.firstTurn request)
  | next {calls : List Call} {callback : Callback} {called : Session} {stage : Stage}
      (earlier : Dialogue request asked calls (.call callback called stage)) (reply : Reply)
      (ended : Session) :
      Dialogue request asked (calls ++ [⟨callback, called, reply, ended⟩])
        (stage.nextTurn request reply ended)

namespace Program

namespace Retains

variable {before after : Program}

theorem withScopes (retains : before.Retains after) (scopes : ScopeTree) :
    before.Retains { after with scopes } :=
  ⟨retains.symbols_le, retains.types_le, retains.entry, retains.type⟩

/-- A class may be filled in as long as it stays the same specialization with the same trees. -/
theorem modifyClass (retains : before.Retains after) (type : TypeId)
    {change : ClassType → ClassType}
    (keeps : ∀ data, (change data).specialization = data.specialization ∧
      (change data).trees = data.trees) :
    before.Retains (after.modifyClass type change) := by
  unfold Program.modifyClass
  split
  case h_2 => exact retains
  case h_1 actual _ =>
    refine retains.trans ⟨Nat.le_refl _, by simp, fun _ _ => .refl _, ?_⟩
    intro id bound
    by_cases same : id = actual
    · subst same
      rw [type_modifyType_self bound]
      cases after.type id with
      | classType data => exact ⟨change data, rfl, keeps data⟩
      | _ => exact .refl _
    · rw [type_modifyType_of_ne same]
      exact .refl _

end Retains

variable (program : Program)

theorem keepsSymbols_declareArgument (context : DeclContext) (name : String) (kind : SymbolKind)
    (type : TypeId) (value : Option NodeId) :
    program.KeepsSymbols (program.declareArgument context name kind type value).2 :=
  ((KeepsSymbols.refl program).newSymbol context _ name kind).modifyEntry_new (Nat.le_refl _) _

theorem retains_declareArgument (context : DeclContext) (name : String) (kind : SymbolKind)
    (type : TypeId) (value : Option NodeId) :
    program.Retains (program.declareArgument context name kind type value).2 :=
  .of_keepsEntities (keepsEntities_declareArgument program context name kind type value)

variable (entry : SymbolId) (classType : TypeId)

theorem retains_openInstance : program.Retains (program.openInstance entry classType).2 :=
  ((Retains.refl program).withScopes _).modifyClass classType fun _ => ⟨rfl, rfl⟩

theorem keepsSymbols_openInstance :
    program.KeepsSymbols (program.openInstance entry classType).2 :=
  ((KeepsSymbols.refl program).withScopes _).modifyClass classType _

theorem retains_completeInstance (inner : DeclContext) :
    program.Retains (program.completeInstance entry classType inner) := by
  have copied := ((KeepsEntities.refl program).addEntry
    { program.entry entry with scope := inner.currentScope }).withScopes
      (program.scopes.insert inner.currentScope (program.symbolName entry)
        ⟨program.symbols.size⟩)
  exact (Retains.of_keepsEntities (copied.modifyEntry_new (Nat.le_refl _) _)).modifyClass classType
    fun _ => ⟨rfl, rfl⟩

theorem keepsSymbols_completeInstance (inner : DeclContext) :
    program.KeepsSymbols (program.completeInstance entry classType inner) := by
  have copied := ((KeepsSymbols.refl program).addEntry
    { program.entry entry with scope := inner.currentScope }).withScopes
      (program.scopes.insert inner.currentScope (program.symbolName entry)
        ⟨program.symbols.size⟩)
  exact (copied.modifyEntry_new (Nat.le_refl _) _).modifyClass classType _

end Program

namespace Session

/-- What the engine does by itself, as long as it defines nothing: it adds to the program and to
the tree.  The bookkeeping and all symbols that are there stay as they are. -/
structure Works (before after : Session) : Prop where
  books : after = { before with program := after.program, tree := after.tree }
  retains : before.program.Retains after.program
  symbols : before.program.KeepsSymbols after.program
  tree : before.tree.Extends after.tree

namespace Works

theorem refl (session : Session) : session.Works session :=
  ⟨rfl, .refl _, .refl _, .refl _⟩

theorem trans {first second third : Session} (earlier : first.Works second)
    (later : second.Works third) : first.Works third := by
  refine ⟨?_, earlier.retains.trans later.retains, earlier.symbols.trans later.symbols,
    earlier.tree.trans later.tree⟩
  rw [later.books, earlier.books]

theorem of_program {session : Session} {program : Program}
    (retains : session.program.Retains program) (symbols : session.program.KeepsSymbols program) :
    session.Works { session with program } :=
  ⟨rfl, retains, symbols, .refl _⟩

end Works

section Works

variable {session : Session}

theorem works_injectArgument {context : DeclContext} {name : String} {kind : ParameterKind}
    {argument : TemplateArgument} {symbol : SymbolId} {after : Session}
    (injects : session.injectArgument context name kind argument = .ok (symbol, after)) :
    session.Works after := by
  obtain ⟨-, ways⟩ := injectsArgument_of_injectArgument injects
  cases ways with
  | type named declares =>
      subst declares
      refine .of_program ?_ ?_
      · exact (Program.Retains.of_keepsEntities ((Program.KeepsEntities.refl _).newType _)).trans
          (Program.retains_declareArgument _ _ _ _ _ _)
      · exact ((Program.KeepsSymbols.refl _).newType _).trans
          (Program.keepsSymbols_declareArgument _ _ _ _ _ _)
  | template named declares =>
      subst declares
      exact .of_program (Program.retains_declareArgument _ _ _ _ _ _)
        (Program.keepsSymbols_declareArgument _ _ _ _ _ _)
  | nonType named folded declares =>
      subst declares
      exact ⟨rfl, Program.retains_declareArgument _ _ _ _ _ _,
        Program.keepsSymbols_declareArgument _ _ _ _ _ _, SyntaxTree.extends_push _ _⟩

theorem works_injectDeductions (context : DeclContext) (parameters : List TemplateParameter)
    (deductions : List Deduction) :
    session.Works (injectDeductions context parameters deductions session).2 :=
  related_injectDeductions Works.refl (fun _ _ _ => Works.trans) works_injectArgument parameters
    deductions session

theorem works_injectArguments (context : DeclContext)
    (pairs : List (TemplateParameter × TemplateArgument)) :
    session.Works (injectArguments context pairs session).2 :=
  related_injectArguments Works.refl (fun _ _ _ => Works.trans) works_injectArgument pairs session

theorem works_openFunction (entry : SymbolId) : session.Works (session.openFunction entry).2 := by
  unfold openFunction
  split
  · exact .refl session
  · split
    · exact (Works.of_program ((Program.Retains.refl _).withScopes _)
        ((Program.KeepsSymbols.refl _).withScopes _)).trans (works_injectArguments _ _)
    · exact .refl session

theorem works_openClass (trees : InstantiationTrees) (entry : SymbolId) (classType : TypeId) :
    session.Works (session.openClass trees entry classType) :=
  ⟨rfl, Program.retains_openInstance _ _ _, Program.keepsSymbols_openInstance _ _ _,
    SyntaxTree.extends_copyTrees _ _⟩

theorem works_completeClass (target : ClassTarget) (inner : DeclContext) :
    session.Works (session.completeClass target inner) :=
  .of_program (Program.retains_completeInstance _ _ _ _)
    (Program.keepsSymbols_completeInstance _ _ _ _)

end Works

end Session

namespace Session

variable {session : Session} {request : Request}

/-- How the engine makes the first callback of a request. -/
inductive Starts (session : Session) (request : Request) : Callback → Session → Stage → Prop
  | classTemplate {target : ClassTarget} {entered : Session}
      (isClass : request.kind = .classTemplate)
      (resolves : session.classTarget request = .ok target)
      (enters : session.enter target.entry request.location = .ok entered) :
      Starts session request
        (.solveClassTemplate request.context target.template target.entry request.location)
        entered (.solving target)
  | functionTemplate {primary : SymbolId} {entered copied : Session} {copy : NodeId}
      {context : DeclContext} (isFunction : request.kind = .functionTemplate)
      (resolves : session.functionTarget request.entry = .ok (some primary))
      (enters : session.enter request.entry request.location = .ok entered)
      (works : entered.Works copied) :
      Starts session request (.buildFunction copy context) (copied.turn .testExpression)
        (.defining request.entry copied)

/-- How the engine answers a request without any callback. -/
inductive Declines (session : Session) (request : Request) :
    Except InstantiationError Unit → Session → Prop
  | refused (cause : InstantiationError) : Declines session request (.error cause) session
  | skipped (isFunction : request.kind = .functionTemplate)
      (skips : session.functionTarget request.entry = .ok none) :
      Declines session request (.ok ()) session
  | spoilt {primary : SymbolId} {entered opened : Session}
      (isFunction : request.kind = .functionTemplate)
      (resolves : session.functionTarget request.entry = .ok (some primary))
      (enters : session.enter request.entry request.location = .ok entered)
      (works : entered.Works opened) (cause : InstantiationError) :
      Declines session request (.error cause) (opened.leave request.entry)

/-- The first turn starts the instantiation or declines the request. -/
theorem firstTurn_spec (session : Session) (request : Request) :
    match session.firstTurn request with
    | .call callback called stage => session.Starts request callback called stage
    | .answer outcome after => session.Declines request outcome after := by
  unfold firstTurn
  cases isKind : request.kind with
  | classTemplate =>
      dsimp only
      cases resolves : session.classTarget request with
      | error cause => exact .refused cause
      | ok target =>
          dsimp only [enterClass]
          cases enters : session.enter target.entry request.location with
          | error cause => exact .refused cause
          | ok entered => exact .classTemplate isKind resolves enters
  | functionTemplate =>
      dsimp only
      cases resolves : session.functionTarget request.entry with
      | error cause => exact .refused cause
      | ok primary =>
          cases primary with
          | none => exact .skipped isKind resolves
          | some primary =>
              dsimp only [enterFunction]
              cases enters : session.enter request.entry request.location with
              | error cause => exact .refused cause
              | ok entered =>
                  have works : entered.Works (entered.openFunction request.entry).2 :=
                    works_openFunction request.entry
                  dsimp only [defineTurn]
                  cases opens : entered.openFunction request.entry with
                  | mk outcome opened =>
                      rw [opens] at works
                      cases outcome with
                      | error cause => exact .spoilt isKind resolves enters works cause
                      | ok context =>
                          cases session.functionDefinition? primary with
                          | none => exact .spoilt isKind resolves enters works _
                          | some definition =>
                              refine .functionTemplate isKind resolves enters (works.trans ?_)
                              exact ⟨rfl, .refl _, .refl _,
                                SyntaxTree.extends_appendCopy _ _ _⟩

theorem starts_of_firstTurn {callback : Callback} {called : Session} {stage : Stage}
    (calls : session.firstTurn request = .call callback called stage) :
    session.Starts request callback called stage := by
  have spec := session.firstTurn_spec request
  rw [calls] at spec
  exact spec

theorem declines_of_firstTurn {outcome : Except InstantiationError Unit} {after : Session}
    (answers : session.firstTurn request = .answer outcome after) :
    session.Declines request outcome after := by
  have spec := session.firstTurn_spec request
  rw [answers] at spec
  exact spec

end Session

namespace Stage

variable {request : Request} {stage next : Stage} {reply : Reply} {ended : Session}

/-- The class that is being instantiated, if it is one. -/
def target? : Stage → Option ClassTarget
  | .solving target | .basing target _ | .building target _ | .finishing target => some target
  | .defining _ _ => none

theorem entry_of_target? {target : ClassTarget} (ofTarget : stage.target? = some target) :
    stage.entry = target.entry := by
  cases stage <;> cases ofTarget <;> rfl

/-- How the engine goes on after a callback.  Only classes take more than one. -/
inductive Resumes (ended : Session) (target : ClassTarget) (reply : Reply) :
    Session → Stage → Prop
  | works {middle : Session} {next : Stage} (ofTarget : next.target? = some target)
      (isOk : ∃ solution, reply = .ok solution) (works : ended.Works middle) :
      Resumes ended target reply middle next
  | defines {middle : Session} (isOk : ∃ solution, reply = .ok solution)
      (works : ended.Works middle) :
      Resumes ended target reply (middle.define target.entry) (.finishing target)

/-- How the engine answers a request after a callback. -/
inductive Closes (request : Request) (ended : Session) :
    Stage → Reply → Except InstantiationError Unit → Session → Prop
  | rejected {stage : Stage} (cause : InstantiationError) :
      Closes request ended stage (.error cause) (.error cause)
        ((stage.settle ended).leave stage.entry)
  | unprepared {target : ClassTarget} {middle : Session} (solution : Option Solution)
      (cause : InstantiationError) (works : ended.Works middle) :
      Closes request ended (.solving target) (.ok solution) (.error cause)
        (middle.leave target.entry)
  | finished {target : ClassTarget} (solution : Option Solution) :
      Closes request ended (.finishing target) (.ok solution) (.ok ())
        ((ended.record target.entry request.location).leave target.entry)
  | defined {entry : SymbolId} {untested : Session} (solution : Option Solution) :
      Closes request ended (.defining entry untested) (.ok solution) (.ok ())
        ((((ended.putBack untested .testExpression).define entry).record entry
          request.location).leave entry)

end Stage

/-- A turn that goes on with the instantiation of a class. -/
def Turn.Resumes (ended : Session) (target : ClassTarget) (reply : Reply) : Turn → Prop
  | .call _ called next => Stage.Resumes ended target reply called next
  | .answer _ _ => False

namespace Session

variable {ended middle : Session} {reply : Reply}
variable (request : Request) (target : ClassTarget) (prepared : PreparedClass)
variable (isOk : ∃ solution, reply = .ok solution) (works : ended.Works middle)
include isOk works

theorem resumes_finishTurn :
    (middle.finishTurn request target prepared).Resumes ended target reply :=
  .defines isOk works

theorem resumes_membersTurn :
    (middle.membersTurn request target prepared).Resumes ended target reply := by
  unfold membersTurn
  split
  · exact .works rfl isOk works
  · exact resumes_finishTurn request target prepared isOk works

theorem resumes_completeTurn :
    (middle.completeTurn request target prepared).Resumes ended target reply :=
  resumes_membersTurn request target prepared isOk (works.trans (works_completeClass _ _))

theorem resumes_basesTurn (clause : Option NodeId) :
    (middle.basesTurn request target clause prepared).Resumes ended target reply := by
  unfold basesTurn
  split
  · exact .works rfl isOk works
  · exact resumes_completeTurn request target prepared isOk works

end Session

namespace Stage

/-- A turn after a callback goes on with the class or answers the request. -/
theorem nextTurn_spec (request : Request) (stage : Stage) (reply : Reply) (ended : Session) :
    match stage.nextTurn request reply ended with
    | .call _ called next =>
        ∃ target, stage.target? = some target ∧ Resumes ended target reply called next
    | .answer outcome after => Closes request ended stage reply outcome after := by
  -- Whatever resumes is no answer.
  have resumed : ∀ {turn : Turn} {target : ClassTarget}, stage.target? = some target →
      turn.Resumes ended target reply →
      match turn with
      | .call _ called next =>
          ∃ target, stage.target? = some target ∧ Resumes ended target reply called next
      | .answer outcome after => Closes request ended stage reply outcome after := by
    intro turn target ofTarget resumes
    cases turn with
    | call callback called next => exact ⟨target, ofTarget, resumes⟩
    | answer outcome after => exact resumes.elim
  cases reply with
  | error cause => exact .rejected cause
  | ok solution =>
      cases stage with
      | solving target =>
          cases solution with
          | none => exact .unprepared none _ (.refl ended)
          | some solution =>
              dsimp only [nextTurn, Session.prepareTurn]
              cases ended.selectedTemplate? solution.selected with
              | none => exact .unprepared (some solution) _ (.refl ended)
              | some selected =>
                  obtain ⟨trees, parameters⟩ := selected
                  let opened := ended.openClass trees target.entry target.type
                  let context := (ended.program.openInstance target.entry target.type).1.1
                  have opens : ended.Works opened := Session.works_openClass _ _ _
                  have works := opens.trans
                    (Session.works_injectDeductions context parameters solution.deductions)
                  dsimp only
                  cases injects : (ended.openClass trees target.entry
                      target.type).injectDeductions context parameters solution.deductions with
                  | mk outcome injected =>
                      rw [injects] at works
                      cases outcome with
                      | error cause => exact .unprepared (some solution) cause works
                      | ok _ =>
                          exact resumed rfl
                            (Session.resumes_basesTurn request target _ ⟨_, rfl⟩ works _)
      | basing target prepared =>
          exact resumed rfl
            (Session.resumes_completeTurn request target prepared ⟨_, rfl⟩ (.refl ended))
      | building target prepared =>
          exact resumed rfl
            (Session.resumes_finishTurn request target prepared ⟨_, rfl⟩ (.refl ended))
      | finishing target => exact .finished solution
      | defining entry untested => exact .defined solution

variable {request : Request} {stage next : Stage} {reply : Reply} {ended : Session}

theorem resumes_of_nextTurn {callback : Callback} {called : Session}
    (calls : stage.nextTurn request reply ended = .call callback called next) :
    ∃ target, stage.target? = some target ∧ Resumes ended target reply called next := by
  have spec := stage.nextTurn_spec request reply ended
  rw [calls] at spec
  exact spec

theorem closes_of_nextTurn {outcome : Except InstantiationError Unit} {after : Session}
    (answers : stage.nextTurn request reply ended = .answer outcome after) :
    Closes request ended stage reply outcome after := by
  have spec := stage.nextTurn_spec request reply ended
  rw [answers] at spec
  exact spec

theorem Resumes.target?_eq {target : ClassTarget} {called : Session}
    (resumes : Resumes ended target reply called next) : next.target? = some target := by
  cases resumes with
  | works ofTarget _ _ => exact ofTarget
  | defines _ _ => rfl

end Stage

/-- A stage is one in the instantiation that a request has started. -/
inductive Session.Covers (asked : Session) (request : Request) : Stage → Prop
  | classTemplate {target : ClassTarget} {entered : Session} {stage : Stage}
      (isClass : request.kind = .classTemplate)
      (resolves : asked.classTarget request = .ok target)
      (enters : asked.enter target.entry request.location = .ok entered)
      (ofTarget : stage.target? = some target) : Covers asked request stage
  | functionTemplate {primary : SymbolId} {entered copied : Session}
      (isFunction : request.kind = .functionTemplate)
      (resolves : asked.functionTarget request.entry = .ok (some primary))
      (enters : asked.enter request.entry request.location = .ok entered)
      (works : entered.Works copied) : Covers asked request (.defining request.entry copied)

theorem Session.Starts.covers {asked called : Session} {request : Request} {callback : Callback}
    {stage : Stage} (starts : asked.Starts request callback called stage) :
    asked.Covers request stage := by
  cases starts with
  | classTemplate isClass resolves enters => exact .classTemplate isClass resolves enters rfl
  | functionTemplate isFunction resolves enters works =>
      exact .functionTemplate isFunction resolves enters works

namespace Dialogue

variable {request : Request} {asked called after : Session} {calls : List Call} {turn : Turn}
variable {callback : Callback} {stage : Stage} {outcome : Except InstantiationError Unit}

theorem call_inv (dialogue : Dialogue request asked calls (.call callback called stage)) :
    calls = [] ∧ asked.Starts request callback called stage ∨
      ∃ earlier last lastStage target, calls = earlier ++ [last] ∧
        Dialogue request asked earlier (.call last.callback last.called lastStage) ∧
          lastStage.target? = some target ∧
            Stage.Resumes last.ended target last.reply called stage := by
  generalize isTurn : Turn.call callback called stage = turn at dialogue
  cases dialogue with
  | first => exact .inl ⟨rfl, Session.starts_of_firstTurn isTurn.symm⟩
  | next earlier reply ended =>
      obtain ⟨target, ofTarget, resumes⟩ := Stage.resumes_of_nextTurn isTurn.symm
      exact .inr ⟨_, ⟨_, _, reply, ended⟩, _, target, rfl, earlier, ofTarget, resumes⟩

theorem answer_inv (dialogue : Dialogue request asked calls (.answer outcome after)) :
    calls = [] ∧ asked.Declines request outcome after ∨
      ∃ earlier last lastStage, calls = earlier ++ [last] ∧
        Dialogue request asked earlier (.call last.callback last.called lastStage) ∧
          Stage.Closes request last.ended lastStage last.reply outcome after := by
  generalize isTurn : Turn.answer outcome after = turn at dialogue
  cases dialogue with
  | first => exact .inl ⟨rfl, Session.declines_of_firstTurn isTurn.symm⟩
  | next earlier reply ended =>
      exact .inr ⟨_, ⟨_, _, reply, ended⟩, _, rfl, earlier, Stage.closes_of_nextTurn isTurn.symm⟩

/-- Every callback belongs to the instantiation that the request has started. -/
theorem covers (dialogue : Dialogue request asked calls (.call callback called stage)) :
    asked.Covers request stage := by
  generalize isTurn : Turn.call callback called stage = turn at dialogue
  induction dialogue generalizing callback called stage with
  | first => exact (Session.starts_of_firstTurn isTurn.symm).covers
  | next earlier reply ended ih =>
      obtain ⟨target, ofTarget, resumes⟩ := Stage.resumes_of_nextTurn isTurn.symm
      cases ih rfl with
      | classTemplate isClass resolves enters ofTargetBefore =>
          rw [ofTarget, Option.some.injEq] at ofTargetBefore
          subst ofTargetBefore
          exact .classTemplate isClass resolves enters resumes.target?_eq
      | functionTemplate _ _ _ _ => cases ofTarget

theorem eq_of_firstTurn_answer (answers : asked.firstTurn request = .answer outcome after)
    (dialogue : Dialogue request asked calls turn) :
    calls = [] ∧ turn = .answer outcome after := by
  induction dialogue with
  | first => exact ⟨rfl, answers⟩
  | next earlier reply ended ih => cases ih.2

end Dialogue

end CppTemplates
