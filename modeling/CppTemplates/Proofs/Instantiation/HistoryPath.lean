import CppTemplates.Proofs.Instantiation.HistorySteps

/-!
# Histories are paths

Whatever the analyzer does, the history of a run is a path: each of its moments is reached by a step
from the one before.  For this the engine has to take exactly the turns that the dialogue about a
request prescribes, and the room that is left for nested requests has to last.
-/

namespace CppTemplates

namespace Activity

variable {σ α : Type} {allowed : Program → Program → Prop} {start : Session} {rest : List Frame}
variable {request : Request} {room : Option Nat}

/-- An activity does something to the session and has an outcome.  The analyzer does not notice. -/
def Does {τ : Type} (activity : Activity τ α) (before : Compilation τ)
    (done : Except InstantiationError α × Session) : Prop :=
  activity.Satisfies before fun outcome after =>
    (outcome, after.session) = done ∧ after.analyzerState = before.analyzerState

section Does

variable {τ β : Type} {before : Compilation τ} {first : Activity τ α} {next : α → Activity τ β}
variable {left : Session}

theorem does_bind_ok {result : α} {done : Except InstantiationError β × Session}
    (firstDoes : first.Does before (.ok result, left))
    (nextDoes : ∀ middle : Compilation τ, middle.session = left → (next result).Does middle done) :
    (first >>= next).Does before done := by
  apply satisfies_bind
  apply satisfies_mono firstDoes
  rintro outcome middle ⟨ends, sameState⟩
  cases ends
  apply satisfies_mono (nextDoes middle rfl)
  rintro last after ⟨ends, sameLater⟩
  exact ⟨ends, sameLater.trans sameState⟩

theorem does_bind_error {cause : InstantiationError}
    (firstDoes : first.Does before (.error cause, left)) :
    (first >>= next).Does before (.error cause, left) := by
  apply satisfies_bind
  apply satisfies_mono firstDoes
  rintro outcome middle ⟨ends, sameState⟩
  cases ends
  exact ⟨rfl, sameState⟩

theorem does_pure (result : α) (before : Compilation τ) :
    Does (pure result) before (.ok result, before.session) :=
  ⟨rfl, rfl⟩

theorem does_throw (cause : InstantiationError) (before : Compilation τ) :
    Does (α := α) (throw cause) before (.error cause, before.session) :=
  ⟨rfl, rfl⟩

theorem does_ofExcept (outcome : Except InstantiationError α) (before : Compilation τ) :
    (ofExcept outcome).Does before (outcome, before.session) :=
  satisfies_ofExcept ⟨rfl, rfl⟩

theorem does_session (before : Compilation τ) :
    session.Does before (.ok before.session, before.session) :=
  ⟨rfl, rfl⟩

theorem does_program (before : Compilation τ) :
    program.Does before (.ok before.session.program, before.session) :=
  ⟨rfl, rfl⟩

theorem does_logAll (lines : Session → List LogLine) (before : Compilation τ) :
    (logAll lines).Does before (.ok (), before.session) :=
  ⟨rfl, rfl⟩

theorem does_debug (message : Session → String) (before : Compilation τ) :
    (debug message).Does before (.ok (), before.session) :=
  ⟨rfl, rfl⟩

theorem does_modifySession (change : Session → Session) (before : Compilation τ) :
    (modifySession change).Does before (.ok (), change before.session) :=
  ⟨rfl, rfl⟩

theorem does_modifyProgram (change : Program → Program) (before : Compilation τ) :
    (modifyProgram change).Does before
      (.ok (), { before.session with program := change before.session.program }) :=
  ⟨rfl, rfl⟩

theorem does_onProgram (operation : Program → α × Program) (before : Compilation τ) :
    (onProgram operation).Does before
      (.ok (operation before.session.program).1,
        { before.session with program := (operation before.session.program).2 }) :=
  ⟨rfl, rfl⟩

theorem does_onTree (operation : SyntaxTree → α × SyntaxTree) (before : Compilation τ) :
    (onTree operation).Does before
      (.ok (operation before.session.tree).1,
        { before.session with tree := (operation before.session.tree).2 }) :=
  ⟨rfl, rfl⟩

theorem does_injectArgument (context : DeclContext) (name : String) (kind : ParameterKind)
    (argument : TemplateArgument) (before : Compilation τ) :
    (injectArgument context name kind argument).Does before
      (match before.session.injectArgument context name kind argument with
      | .ok (symbol, injected) => (.ok symbol, injected)
      | .error cause => (.error cause, before.session)) := by
  unfold injectArgument
  refine does_bind_ok (does_logAll _ before) fun logged sameLogged => ?_
  refine does_bind_ok (does_session logged) fun read sameRead => ?_
  have injects := does_ofExcept (logged.session.injectArgument context name kind argument) read
  rw [sameRead, sameLogged] at injects
  rw [sameLogged]
  cases outcome : before.session.injectArgument context name kind argument with
  | error cause =>
      rw [outcome] at injects
      exact does_bind_error injects
  | ok injection =>
      rw [outcome] at injects
      exact does_bind_ok injects fun injected _ => ⟨rfl, rfl⟩

theorem does_injectDeductions (context : DeclContext) (parameters : List TemplateParameter)
    (deductions : List Deduction) (before : Compilation τ) :
    (injectDeductions context parameters deductions).Does before
      (before.session.injectDeductions context parameters deductions) := by
  induction deductions generalizing before with
  | nil => exact does_pure () before
  | cons deduction rest ih =>
      obtain ⟨nesting, position, kind, deduced⟩ := deduction
      unfold injectDeductions Session.injectDeductions
      rcases deduced with _ | ⟨argument, _ | ⟨_, _⟩⟩
      · exact does_throw _ before
      · refine does_bind_ok (does_program before) fun read sameRead => ?_
        have names := does_ofExcept
          (before.session.program.parameterName parameters nesting position) read
        rw [sameRead] at names
        dsimp only
        cases outcome : before.session.program.parameterName parameters nesting position with
        | error cause =>
            rw [outcome] at names
            exact does_bind_error names
        | ok name =>
            rw [outcome] at names
            refine does_bind_ok names fun known sameKnown => ?_
            have injects := does_injectArgument context name kind argument known
            rw [sameKnown] at injects
            dsimp only
            cases outcome : before.session.injectArgument context name kind argument with
            | error cause =>
                rw [outcome] at injects
                exact does_bind_error injects
            | ok injection =>
                rw [outcome] at injects
                refine does_bind_ok injects fun injected sameInjected => ?_
                have later := ih injected
                rw [sameInjected] at later
                exact later
      · exact does_throw _ before

theorem does_injectArguments (context : DeclContext)
    (pairs : List (TemplateParameter × TemplateArgument)) (before : Compilation τ) :
    (injectArguments context pairs).Does before
      (before.session.injectArguments context pairs) := by
  induction pairs generalizing before with
  | nil => exact does_pure () before
  | cons pair rest ih =>
      obtain ⟨parameter, argument⟩ := pair
      unfold injectArguments Session.injectArguments
      refine does_bind_ok (does_program before) fun read sameRead => ?_
      have injects := does_injectArgument context
        (before.session.program.symbolName parameter.entry) parameter.kind argument read
      rw [sameRead] at injects
      dsimp only
      cases outcome : before.session.injectArgument context
          (before.session.program.symbolName parameter.entry) parameter.kind argument with
      | error cause =>
          rw [outcome] at injects
          exact does_bind_error injects
      | ok injection =>
          rw [outcome] at injects
          refine does_bind_ok injects fun injected sameInjected => ?_
          have later := ih injected
          rw [sameInjected] at later
          exact later

theorem does_instantiationContext (entry : SymbolId) (before : Compilation τ) :
    (instantiationContext entry none).Does before (before.session.openFunction entry) := by
  unfold instantiationContext Session.openFunction
  refine does_bind_ok (does_session before) fun read sameRead => ?_
  cases before.session.functionSpecialization? entry with
  | none =>
      refine does_bind_ok (does_program read) fun named sameNamed => ?_
      rw [← sameRead, ← sameNamed]
      exact does_throw _ named
  | some specialization =>
      dsimp only [Option.getD_none]
      split
      case isFalse => rw [← sameRead]; exact does_throw _ read
      case isTrue =>
        refine does_bind_ok (does_debug _ read) fun told sameTold => ?_
        refine does_bind_ok (does_program told) fun known sameKnown => ?_
        let context := before.session.program.scopes.newTemplateContext
          (before.session.program.entry entry).declContext
        have opens := does_onProgram (fun program =>
          ((program.scopes.newTemplateContext (before.session.program.entry entry).declContext).1,
            { program with
              scopes := (program.scopes.newTemplateContext
                (before.session.program.entry entry).declContext).2 })) known
        rw [sameTold, sameRead]
        rw [sameKnown, sameTold, sameRead] at opens
        refine does_bind_ok opens fun opened sameOpened => ?_
        have injects := does_injectArguments context.1
          (specialization.parameters.zip specialization.arguments) opened
        rw [sameOpened] at injects
        dsimp only
        cases outcome : Session.injectArguments context.1
            (specialization.parameters.zip specialization.arguments)
            { before.session with
              program := { before.session.program with scopes := context.2 } } with
        | mk ending injected =>
            rw [outcome] at injects
            cases ending with
            | error cause => exact does_bind_error injects
            | ok _ => exact does_bind_ok injects fun _ same => same ▸ does_pure _ _

end Does

variable {asked : Session} {perform : Request → Activity (σ × History) Unit}
variable {analyzer : Analyzer σ}

/-- A part of the work on a request leads to the turn that follows on its result.  If it fails, the
engine ends its work and answers. -/
def LeadsTo (allowed : Program → Program → Prop) (start : Session) (rest : List Frame)
    (request : Request) (asked : Session) (ending : Session → Session)
    (activity : Activity (σ × History) α) (before : Compilation (σ × History))
    (next : α → Session → Turn) : Prop :=
  activity.Satisfies before fun outcome after =>
    after.Engaged allowed start rest request asked
      (match outcome with
      | .ok result => next result after.session
      | .error cause => .answer (.error cause) (ending after.session)) ∧
    before.session.SameLevel after.session

section LeadsTo

variable {β : Type} {ending : Session → Session} {activity : Activity (σ × History) α}
variable {before : Compilation (σ × History)} {goal : β → Session → Turn} {left : Session}

theorem leadsTo_bind {middle : α → Session → Turn} {next : α → Activity (σ × History) β}
    (first : LeadsTo allowed start rest request asked ending activity before middle)
    (goesOn : ∀ result turned,
      turned.Engaged allowed start rest request asked (middle result turned.session) →
        before.session.SameLevel turned.session →
          LeadsTo allowed start rest request asked ending (next result) turned goal) :
    LeadsTo allowed start rest request asked ending (activity >>= next) before goal := by
  apply satisfies_bind
  apply satisfies_mono first
  rintro (cause | result) turned ⟨engaged, sameLevel⟩
  · exact ⟨engaged, sameLevel⟩
  · apply satisfies_mono (goesOn result turned engaged sameLevel)
    rintro outcome after ⟨engagedAfter, sameLater⟩
    exact ⟨engagedAfter, sameLevel.trans sameLater⟩

/-- The engine is still at its turn while it works by itself. -/
theorem leadsTo_after {turn : Turn} {result : α} {next : α → Activity (σ × History) β}
    (engaged : before.Engaged allowed start rest request asked turn)
    (does : activity.Does before (.ok result, left)) (sameLevel : before.session.SameLevel left)
    (goesOn : ∀ middle : Compilation (σ × History), middle.session = left →
      middle.Engaged allowed start rest request asked turn →
        LeadsTo allowed start rest request asked ending (next result) middle goal) :
    LeadsTo allowed start rest request asked ending (activity >>= next) before goal := by
  apply satisfies_bind
  apply satisfies_mono does
  rintro outcome middle ⟨ends, sameState⟩
  cases ends
  apply satisfies_mono (goesOn middle rfl (engaged.of_same sameState))
  rintro last after ⟨engagedAfter, sameLater⟩
  exact ⟨engagedAfter, sameLevel.trans sameLater⟩

theorem leadsTo_fails {cause : InstantiationError} {next : α → Activity (σ × History) β}
    (engaged : before.Engaged allowed start rest request asked
      (.answer (.error cause) (ending left)))
    (does : activity.Does before (.error cause, left)) (sameLevel : before.session.SameLevel left) :
    LeadsTo allowed start rest request asked ending (activity >>= next) before goal := by
  apply satisfies_bind
  apply satisfies_mono does
  rintro outcome middle ⟨ends, sameState⟩
  cases ends
  exact ⟨engaged.of_same sameState, sameLevel⟩

theorem leadsTo_pure {result : β}
    (engaged : before.Engaged allowed start rest request asked (goal result before.session)) :
    LeadsTo allowed start rest request asked ending (pure result) before goal :=
  ⟨engaged, .refl _⟩

theorem leadsTo_throw {cause : InstantiationError}
    (engaged : before.Engaged allowed start rest request asked
      (.answer (.error cause) (ending before.session))) :
    LeadsTo allowed start rest request asked ending (throw cause) before goal :=
  ⟨engaged, .refl _⟩

theorem leadsTo_debug {message : Session → String} {goal : Unit → Session → Turn}
    (engaged : before.Engaged allowed start rest request asked (goal () before.session)) :
    LeadsTo allowed start rest request asked ending (debug message) before goal :=
  ⟨engaged, .refl _⟩

end LeadsTo

section Parts

variable (converses : Converses allowed start room perform)
include converses

/-- A callback for a class leads to the turn that follows on its reply. -/
theorem leadsTo_asCallback {action : Action σ α} (updates : action.Updates allowed)
    (solution : α → Option Solution) {callback : Callback} {stage : Stage} {target : ClassTarget}
    (ofTarget : stage.target? = some target) {before : Compilation (σ × History)}
    (engaged : before.Engaged allowed start rest request asked
      (.call callback before.session stage))
    (hasRoom : before.session.HasRoom room) :
    LeadsTo allowed start rest request asked (·.leave target.entry)
      ((action.asCallback callback solution).run perform) before fun result session =>
        stage.nextTurn request (.ok (solution result)) session := by
  apply satisfies_mono (satisfies_asCallback converses updates solution engaged hasRoom)
  rintro (cause | result) after ⟨engagedAfter, sameLevel⟩
  · refine ⟨?_, sameLevel⟩
    cases stage <;> cases ofTarget <;> exact engagedAfter
  · exact ⟨engagedAfter, sameLevel⟩

section Class

variable {target : ClassTarget} {before : Compilation (σ × History)}
variable (updates : analyzer.Updates allowed) (hasRoom : before.session.HasRoom room)
include updates hasRoom

theorem leadsTo_solveClass
    (engaged : before.Engaged allowed start rest request asked
      (.call (.solveClassTemplate request.context target.template target.entry request.location)
        before.session (.solving target))) :
    LeadsTo allowed start rest request asked (·.leave target.entry)
      (solveClass analyzer.recorded perform request target.entry target.template) before
        fun solution session => session.prepareTurn request target solution := by
  unfold solveClass
  refine leadsTo_bind (leadsTo_asCallback converses (updates.solveClassTemplate _ _ _ _) id rfl
    engaged hasRoom) fun solution solved engaged _ => ?_
  cases solution with
  | some solution => exact leadsTo_pure engaged
  | none =>
      refine leadsTo_after engaged (does_program solved) (.refl _) fun named sameNamed engaged => ?_
      refine leadsTo_after engaged (does_program named) (.refl _) fun found sameFound engaged => ?_
      apply leadsTo_throw
      rw [sameFound, sameNamed]
      exact engaged

theorem leadsTo_buildBases {clause : Option NodeId} {prepared : PreparedClass}
    (engaged : before.Engaged allowed start rest request asked
      (before.session.basesTurn request target clause prepared)) :
    LeadsTo allowed start rest request asked (·.leave target.entry)
      (buildBases analyzer.recorded perform clause target.type prepared.inner) before
        fun _ session => session.completeTurn request target prepared := by
  cases clause with
  | none => exact leadsTo_pure engaged
  | some clause =>
      exact leadsTo_asCallback converses (updates.buildBaseClause _ _ _) _ rfl engaged hasRoom

theorem leadsTo_buildMembers {prepared : PreparedClass}
    (engaged : before.Engaged allowed start rest request asked
      (before.session.membersTurn request target prepared)) :
    LeadsTo allowed start rest request asked (·.leave target.entry)
      (buildMembers analyzer.recorded perform prepared.members target.type prepared.inner) before
        fun _ session => session.finishTurn request target prepared := by
  obtain ⟨members, declaredIn, inner⟩ := prepared
  cases members with
  | none => exact leadsTo_pure engaged
  | some members =>
      exact leadsTo_asCallback converses (updates.buildMembers _ _ _) _ rfl engaged hasRoom

theorem leadsTo_prepareClass
    (engaged : before.Engaged allowed start rest request asked
      (.call (.solveClassTemplate request.context target.template target.entry request.location)
        before.session (.solving target))) :
    LeadsTo allowed start rest request asked (·.leave target.entry)
      (prepareClass analyzer.recorded perform request target.entry target.type target.template)
        before fun prepared session => session.completeTurn request target prepared := by
  unfold prepareClass
  refine leadsTo_bind (leadsTo_solveClass converses updates hasRoom engaged)
    fun solution solved engaged sameSolved => ?_
  refine leadsTo_after engaged (does_session solved) (.refl _) fun read sameRead engaged => ?_
  unfold Session.prepareTurn at engaged
  cases selected : solved.session.selectedTemplate? solution.selected with
  | none =>
      rw [selected] at engaged
      refine leadsTo_after engaged (does_program read) (.refl _) fun named sameNamed engaged => ?_
      apply leadsTo_throw
      rw [sameNamed, sameRead]
      exact engaged
  | some template =>
      obtain ⟨trees, parameters⟩ := template
      rw [selected] at engaged
      dsimp only at engaged ⊢
      refine leadsTo_after engaged (does_onTree _ read) ⟨rfl, rfl⟩
        fun copied sameCopied engaged => ?_
      refine leadsTo_after engaged (does_program copied) (.refl _) fun known sameKnown engaged => ?_
      refine leadsTo_after engaged (does_onProgram _ known) ⟨rfl, rfl⟩
        fun opened sameOpened engaged => ?_
      rw [sameRead] at sameCopied ⊢
      rw [sameCopied] at sameKnown ⊢
      rw [sameKnown] at sameOpened ⊢
      refine leadsTo_after engaged (does_debug _ opened) (.refl _) fun told sameTold engaged => ?_
      let context := (solved.session.program.openInstance target.entry target.type).1.1
      have isOpen : told.session = solved.session.openClass trees target.entry target.type :=
        sameTold.trans sameOpened
      have injects := does_injectDeductions context parameters solution.deductions told
      have works : told.session.Works
          (told.session.injectDeductions context parameters solution.deductions).2 :=
        Session.works_injectDeductions _ _ _
      rw [← isOpen] at engaged
      cases outcome : told.session.injectDeductions context parameters solution.deductions with
      | mk ending left =>
          rw [outcome] at engaged injects works
          have sameLeft := Session.SameLevel.of_works works
          cases ending with
          | error cause => exact leadsTo_fails engaged injects sameLeft
          | ok _ =>
              refine leadsTo_after engaged injects sameLeft fun injected sameInjected engaged => ?_
              refine leadsTo_after engaged (does_debug _ injected) (.refl _)
                fun shown sameShown engaged => ?_
              have isLeft : shown.session = left := sameShown.trans sameInjected
              rw [isOpen] at sameLeft
              rw [← isLeft] at engaged sameLeft
              have sameOpen : solved.session.SameLevel
                  (solved.session.openClass trees target.entry target.type) := ⟨rfl, rfl⟩
              have sameShown := sameSolved.trans (sameOpen.trans sameLeft)
              have bases := leadsTo_buildBases converses updates (sameShown.hasRoom hasRoom) engaged
              refine leadsTo_bind bases fun _ built engaged _ => ?_
              exact leadsTo_pure engaged

theorem leadsTo_completeClass {prepared : PreparedClass}
    (engaged : before.Engaged allowed start rest request asked
      (before.session.completeTurn request target prepared)) :
    LeadsTo allowed start rest request asked (·.leave target.entry)
      (completeClass analyzer.recorded perform request target.entry target.type prepared) before
        fun _ session => .answer (.ok ()) (session.leave target.entry) := by
  unfold completeClass
  refine leadsTo_after engaged (does_modifyProgram _ before) ⟨rfl, rfl⟩
    fun completed sameCompleted engaged => ?_
  have sameLevel : before.session.SameLevel completed.session := by
    rw [sameCompleted]
    exact ⟨rfl, rfl⟩
  have isComplete : completed.session = before.session.completeClass target prepared.inner :=
    sameCompleted
  unfold Session.completeTurn at engaged
  rw [← isComplete] at engaged
  refine leadsTo_bind
    (leadsTo_buildMembers converses updates (sameLevel.hasRoom hasRoom) engaged)
    fun _ built engaged sameBuilt => ?_
  refine leadsTo_after engaged (does_modifyProgram _ built) ⟨rfl, rfl⟩
    fun defined sameDefined engaged => ?_
  have isDefined : defined.session = built.session.define target.entry := sameDefined
  have sameLevel := (sameLevel.trans sameBuilt).trans
    (show built.session.SameLevel defined.session by rw [isDefined]; exact ⟨rfl, rfl⟩)
  unfold Session.finishTurn at engaged
  rw [← isDefined] at engaged
  refine leadsTo_bind (leadsTo_asCallback converses (updates.finishClass _ _ _) _ rfl engaged
    (sameLevel.hasRoom hasRoom)) fun _ finished engaged _ => ?_
  refine leadsTo_after engaged (does_modifySession _ finished) (.record _ _ _)
    fun recorded sameRecorded engaged => ?_
  unfold Stage.nextTurn at engaged
  dsimp only at engaged
  rw [← sameRecorded] at engaged
  exact leadsTo_debug engaged

theorem leadsTo_fillClass
    (engaged : before.Engaged allowed start rest request asked
      (.call (.solveClassTemplate request.context target.template target.entry request.location)
        before.session (.solving target))) :
    LeadsTo allowed start rest request asked (·.leave target.entry)
      (fillClass analyzer.recorded perform request target.entry target.type target.template) before
        fun _ session => .answer (.ok ()) (session.leave target.entry) := by
  unfold fillClass
  refine leadsTo_bind (leadsTo_prepareClass converses updates hasRoom engaged)
    fun prepared middle engaged sameLevel => ?_
  exact leadsTo_completeClass converses updates (sameLevel.hasRoom hasRoom) engaged

end Class

section Function

variable {entry : SymbolId} {before : Compilation (σ × History)}
variable (updates : analyzer.Updates allowed) (hasRoom : before.session.HasRoom room)
include updates hasRoom

/-- A function is built with the test of expressions turned off. -/
theorem leadsTo_define {definition : NodeId} {context : DeclContext}
    (engaged : before.Engaged allowed start rest request asked
      (.call (.buildFunction definition context) (before.session.turn .testExpression)
        (.defining entry before.session))) :
    LeadsTo allowed start rest request asked (·.leave entry)
      (withSwitch .testExpression
        ((analyzer.recorded.buildFunction definition context).run perform)) before fun _ session =>
        .answer (.ok ()) (((session.define entry).record entry request.location).leave entry) := by
  let untested := before.mapSession (·.turn .testExpression)
  have isEngaged : untested.Engaged allowed start rest request asked
      (.call (.buildFunction definition context) untested.session
        (.defining entry before.session)) := engaged.of_same rfl
  apply satisfies_withSwitch
  apply satisfies_mono
    (satisfies_asCallback converses (updates.buildFunction definition context) _ isEngaged hasRoom)
  rintro (cause | _) after ⟨engagedAfter, sameLevel⟩
  · exact ⟨engagedAfter.of_same rfl, ⟨sameLevel.limits, sameLevel.depth⟩⟩
  · exact ⟨engagedAfter.of_same rfl, ⟨sameLevel.limits, sameLevel.depth⟩⟩

theorem leadsTo_buildFunction {definition : Option NodeId}
    (engaged : before.Engaged allowed start rest request asked
      (before.session.defineTurn request.entry definition)) :
    LeadsTo allowed start rest request asked (·.leave request.entry)
      (buildFunction analyzer.recorded perform request definition) before
        fun _ session => .answer (.ok ()) (session.leave request.entry) := by
  unfold buildFunction
  have opens := does_instantiationContext request.entry before
  have works : before.session.Works (before.session.openFunction request.entry).2 :=
    Session.works_openFunction _
  unfold Session.defineTurn at engaged
  cases outcome : before.session.openFunction request.entry with
  | mk ending left =>
      rw [outcome] at opens works engaged
      have sameLeft := Session.SameLevel.of_works works
      cases ending with
      | error cause => exact leadsTo_fails engaged opens sameLeft
      | ok context =>
          refine leadsTo_after engaged opens sameLeft fun opened sameOpened engaged => ?_
          cases definition with
          | none =>
              refine leadsTo_after engaged (does_program opened) (.refl _)
                fun named sameNamed engaged => ?_
              apply leadsTo_throw
              rw [sameNamed, sameOpened]
              exact engaged
          | some definition =>
              refine leadsTo_after engaged (does_onTree _ opened) ⟨rfl, rfl⟩
                fun copied sameCopied engaged => ?_
              have isCopied : copied.session =
                  { left with tree := (left.tree.copyForInstantiation definition).2 } := by
                rw [sameCopied, sameOpened]
              have sameLevel : before.session.SameLevel copied.session := by
                rw [isCopied]
                exact sameLeft.trans ⟨rfl, rfl⟩
              rw [sameOpened]
              dsimp only at engaged
              rw [← isCopied] at engaged
              refine leadsTo_bind (leadsTo_define converses updates (sameLevel.hasRoom hasRoom)
                engaged) fun _ built engaged _ => ?_
              refine leadsTo_after engaged (does_modifyProgram _ built) ⟨rfl, rfl⟩
                fun defined sameDefined engaged => ?_
              have isDefined : defined.session = built.session.define request.entry := sameDefined
              rw [← isDefined] at engaged
              refine leadsTo_after engaged (does_modifySession _ defined) (.record _ _ _)
                fun recorded sameRecorded engaged => ?_
              rw [← sameRecorded] at engaged
              exact leadsTo_debug engaged

end Function

end Parts

section Requests

variable {inner : Option Nat} {before : Compilation (σ × History)}
variable (converses : Converses allowed start inner perform) (updates : analyzer.Updates allowed)
variable (nests : Session.Nests room inner)

section Single

variable (hasRoom : before.session.HasRoom room)
include nests hasRoom

/-- An instantiation is entered, carried out and left, unless it is refused. -/
theorem leadsTo_within {entry : SymbolId} {location : Location}
    {activity : Activity (σ × History) Unit} {turn : Session → Turn}
    (engaged : before.Engaged allowed start rest request asked
      (match before.session.enter entry location with
      | .error cause => .answer (.error cause) before.session
      | .ok entered => turn entered))
    (works : ∀ inside : Compilation (σ × History), inside.session.HasRoom inner →
      inside.Engaged allowed start rest request asked (turn inside.session) →
        LeadsTo allowed start rest request asked (·.leave entry) activity inside
          fun _ session => .answer (.ok ()) (session.leave entry)) :
    LeadsTo allowed start rest request asked id (within entry location activity) before
      fun _ session => .answer (.ok ()) session := by
  apply satisfies_within
  · intro cause refused
    rw [refused] at engaged
    exact ⟨engaged, .refl _⟩
  · intro entered enters
    rw [enters] at engaged
    apply satisfies_mono (works { before with session := entered } (nests hasRoom enters)
      (engaged.of_same rfl))
    obtain ⟨-, isEntered⟩ := Session.enter_eq_ok enters
    rintro outcome after ⟨engagedAfter, limits, depth⟩
    have sameLevel : before.session.SameLevel (after.session.leave entry) := by
      rw [isEntered] at limits depth
      exact ⟨limits, congrArg (· - 1) depth⟩
    cases outcome <;> exact ⟨engagedAfter.of_same rfl, sameLevel⟩

include converses updates

theorem leadsTo_instantiateClass (isClass : request.kind = .classTemplate)
    (engaged : before.Engaged allowed start rest request asked (before.session.firstTurn request)) :
    LeadsTo allowed start rest request asked id (instantiateClass analyzer.recorded perform request)
      before fun _ session => .answer (.ok ()) session := by
  unfold instantiateClass
  unfold Session.firstTurn Session.classTarget at engaged
  rw [isClass] at engaged
  refine leadsTo_after engaged (does_session before) (.refl _) fun read sameRead engaged => ?_
  have resolves := does_ofExcept (before.session.resolveClassEntry request.entry) read
  rw [sameRead] at resolves
  cases outcome : before.session.resolveClassEntry request.entry with
  | error cause =>
      rw [outcome] at resolves engaged
      refine leadsTo_fails engaged resolves (sameRead ▸ .refl _)
  | ok entry =>
      rw [outcome] at resolves engaged
      refine leadsTo_after engaged resolves (sameRead ▸ .refl _)
        fun resolved sameResolved engaged => ?_
      refine leadsTo_after engaged (does_session resolved) (.refl _)
        fun found sameFound engaged => ?_
      rw [sameResolved] at sameFound ⊢
      cases eligible : before.session.eligibleClass? entry with
      | none =>
          simp only [eligible] at engaged
          refine leadsTo_after engaged (does_program found) (.refl _)
            fun named sameNamed engaged => ?_
          apply leadsTo_throw
          rw [sameNamed, sameFound]
          exact engaged
      | some target =>
          obtain ⟨type, template⟩ := target
          simp only [eligible] at engaged
          refine leadsTo_after engaged (does_debug _ found) (.refl _)
            fun told sameTold engaged => ?_
          have isTold : told.session = before.session := sameTold.trans sameFound
          apply leadsTo_within nests (isTold ▸ hasRoom) (isTold ▸ engaged)
          intro inside insideRoom engaged
          have fills := leadsTo_fillClass converses updates insideRoom engaged
          exact fills

theorem leadsTo_instantiateFunction (isFunction : request.kind = .functionTemplate)
    (engaged : before.Engaged allowed start rest request asked (before.session.firstTurn request)) :
    LeadsTo allowed start rest request asked id
      (instantiateFunction analyzer.recorded perform request) before
        fun _ session => .answer (.ok ()) session := by
  unfold instantiateFunction
  unfold Session.firstTurn Session.functionTarget at engaged
  rw [isFunction] at engaged
  -- Each branch of the engine is met by the same branch of its first turn.
  refine leadsTo_after engaged (does_session before) (.refl _) fun read sameRead engaged => ?_
  split
  case isTrue checking =>
    rw [if_pos checking] at engaged
    apply leadsTo_debug
    rw [sameRead]
    exact engaged
  case isFalse checking =>
    rw [if_neg checking] at engaged
    refine leadsTo_after engaged (does_program read) (.refl _) fun known sameKnown engaged => ?_
    rw [sameRead] at sameKnown ⊢
    split
    case isTrue otherKind =>
      rw [if_pos otherKind] at engaged
      refine leadsTo_after engaged (does_program known) (.refl _)
        fun named sameNamed engaged => ?_
      refine leadsTo_after engaged (does_program named) (.refl _)
        fun found sameFound engaged => ?_
      apply leadsTo_throw
      rw [sameFound, sameNamed, sameKnown]
      exact engaged
    case isFalse otherKind =>
      rw [if_neg otherKind] at engaged
      refine leadsTo_after engaged (does_debug _ known) (.refl _) fun told sameTold engaged => ?_
      refine leadsTo_after engaged (does_session told) (.refl _) fun found sameFound engaged => ?_
      rw [sameKnown] at sameTold
      rw [sameTold] at sameFound ⊢
      cases isPrimary : before.session.primaryFunction? request.entry with
      | none =>
          simp only [isPrimary] at engaged
          refine leadsTo_after engaged (does_program found) (.refl _)
            fun named sameNamed engaged => ?_
          apply leadsTo_throw
          rw [sameNamed, sameFound]
          exact engaged
      | some primary =>
          simp only [isPrimary] at engaged
          refine leadsTo_after engaged (does_session found) (.refl _)
            fun asking sameAsking engaged => ?_
          rw [sameFound] at sameAsking ⊢
          cases skips : before.session.reasonToSkip? request.entry primary with
          | some reason =>
              simp only [skips] at engaged
              apply leadsTo_debug
              rw [sameAsking]
              exact engaged
          | none =>
              simp only [skips] at engaged
              refine leadsTo_after engaged (does_session asking) (.refl _)
                fun ready sameReady engaged => ?_
              have isReady : ready.session = before.session := sameReady.trans sameAsking
              rw [sameAsking, ← isReady]
              apply leadsTo_within nests (isReady ▸ hasRoom) (isReady ▸ engaged)
              intro inside insideRoom engaged
              exact leadsTo_buildFunction converses updates insideRoom engaged

end Single

include converses updates nests

theorem converses_performWith :
    Converses allowed start room (performWith analyzer.recorded perform) := by
  intro request rest before engaged hasRoom
  have leads : LeadsTo allowed start rest request before.session id
      (performWith analyzer.recorded perform request) before
        fun _ session => .answer (.ok ()) session := by
    unfold performWith
    cases isKind : request.kind with
    | classTemplate =>
        exact leadsTo_instantiateClass converses updates nests hasRoom isKind engaged
    | functionTemplate =>
        exact leadsTo_instantiateFunction converses updates nests hasRoom isKind engaged
  apply satisfies_mono leads
  rintro (cause | _) after isAnswer <;> exact isAnswer

end Requests

/-- Without any room nothing is refused, since nothing is requested. -/
theorem converses_refuse : Converses allowed start none (refuse (σ := σ × History)) :=
  fun _ _ _ _ hasRoom => hasRoom.elim

theorem converses_performIn (updates : analyzer.Updates allowed) (room : Nat) :
    Converses allowed start (some room) (performIn analyzer.recorded room) := by
  induction room with
  | zero => exact converses_performWith converses_refuse updates Session.nests_zero
  | succ room ih => exact converses_performWith ih updates (Session.nests_succ room)

theorem converses_perform (updates : analyzer.Updates allowed) :
    Converses allowed start room (Activity.perform analyzer.recorded) := by
  intro request rest before engaged _
  let room := before.session.limits.maxDepth - before.session.depth
  have hasRoom : before.session.HasRoom (some room) := by
    simp only [Session.HasRoom, room]
    omega
  exact converses_performIn updates room request rest before engaged hasRoom

theorem exists_of_satisfies {activity : Activity σ α} {before : Compilation σ}
    {goal : Except InstantiationError α → Compilation σ → Prop}
    (satisfies : activity.Satisfies before goal) :
    ∃ outcome, goal outcome (activity.final before) := by
  unfold Satisfies at satisfies
  unfold final
  cases atActivity : activity before with
  | ok result after =>
      rw [atActivity] at satisfies
      exact ⟨.ok result, satisfies⟩
  | error cause after =>
      rw [atActivity] at satisfies
      exact ⟨.error cause, satisfies⟩

/-- The history of every run is a path from the session at its beginning to the one at its end. -/
theorem history_isPath {action : Action σ α} (analyzerUpdates : analyzer.Updates allowed)
    (actionUpdates : action.Updates allowed) (before : Compilation σ) :
    Path allowed before.session (history analyzer action before) []
      ((act analyzer action).final before).session := by
  have isAt : (before.withHistory {}).IsAt allowed before.session [] := ⟨rfl, .start⟩
  have hasRoom : before.session.HasRoom (some before.session.limits.maxDepth) :=
    Nat.le_add_left _ _
  obtain ⟨outcome, middle, ⟨-, path⟩, -, isMiddle⟩ :=
    exists_of_satisfies (satisfies_run (converses_perform analyzerUpdates) actionUpdates
      (fun history _ _ => history) isAt hasRoom)
  have sameSession := congrArg Compilation.session
    ((recordedRun_reflects analyzer action).unlogged_final (before.withHistory {}))
  have isEnd : (recordedRun analyzer action).final (before.withHistory {}) =
      middle.write fun history _ => history := isMiddle
  unfold history
  rw [isEnd] at sameSession ⊢
  exact sameSession ▸ path

end Activity

end CppTemplates
