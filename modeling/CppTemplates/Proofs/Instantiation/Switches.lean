import CppTemplates.Proofs.Instantiation.FunctionBuilds

/-!
# The switches of the analysis

Two switches are turned for a while and then put back to where they stood.  While an ambiguity is
being resolved no function is built, however deep the requests nest.  While a function is being
built expressions are not tested, however deep the callbacks nest.  Both follow from how the stack
accounts for the switches: whatever goes on inside a turned switch leaves it turned.
-/

namespace CppTemplates

namespace Session

/-- No function is changed, defined or recorded. -/
structure LeavesFunctions (before after : Session) : Prop where
  entry : ∀ function, before.program.IsFunction function →
    after.program.entry function = before.program.entry function
  recorded : ∀ function, before.program.IsFunction function → ∀ location,
    (function, location) ∈ after.instantiated ↔ (function, location) ∈ before.instantiated

variable {before after : Session} {entry : SymbolId}

theorem LeavesFunctions.refl (session : Session) : session.LeavesFunctions session :=
  ⟨fun _ _ => rfl, fun _ _ _ => Iff.rfl⟩

theorem Works.leavesFunctions (works : before.Works after) : before.LeavesFunctions after where
  entry := by
    rintro function ⟨_, _, typed, _⟩
    exact works.symbols.entry function (Program.index_lt_of_entryType typed)
  recorded _ _ _ := by rw [works.instantiated_eq]

theorem LeavesFunctions.define (leaves : before.LeavesFunctions after)
    (names : before.program.NamesClass entry) : before.LeavesFunctions (after.define entry) where
  entry := by
    intro function isFunction
    have other : function ≠ entry := by
      rintro rfl
      exact isFunction.not_namesClass names
    rw [entry_define_of_ne other]
    exact leaves.entry function isFunction
  recorded := leaves.recorded

theorem LeavesFunctions.record (leaves : before.LeavesFunctions after)
    (names : before.program.NamesClass entry) (location : Location) :
    before.LeavesFunctions (after.record entry location) where
  entry := by
    intro function isFunction
    rw [(program_record after entry location).1]
    exact leaves.entry function isFunction
  recorded := by
    intro function isFunction place
    have other : entry ≠ function := by
      rintro rfl
      exact isFunction.not_namesClass names
    rw [← leaves.recorded function isFunction place]
    unfold Session.record
    split
    · simp only [List.mem_map]
      constructor
      · rintro ⟨completed, member, isCompleted⟩
        split at isCompleted
        · cases isCompleted
          exact absurd rfl other
        · rw [← isCompleted]
          exact member
      · intro member
        exact ⟨_, member, if_neg (Ne.symm other)⟩
    · simp [other.symm]

theorem LeavesFunctions.leave (leaves : before.LeavesFunctions after) (entity : SymbolId) :
    before.LeavesFunctions (after.leave entity) :=
  ⟨leaves.entry, leaves.recorded⟩

theorem Starts.leavesFunctions {asked called : Session} {request : Request} {callback : Callback}
    {stage : Stage} (starts : asked.Starts request callback called stage)
    (isClass : request.kind = .classTemplate) : asked.LeavesFunctions called := by
  cases starts with
  | classTemplate _ _ enters =>
      obtain ⟨-, rfl⟩ := enter_eq_ok enters
      exact ⟨fun _ _ => rfl, fun _ _ _ => Iff.rfl⟩
  | functionTemplate isFunction _ _ _ =>
      rw [isClass] at isFunction
      cases isFunction

theorem Declines.leavesFunctions {asked : Session} {request : Request}
    {outcome : Except InstantiationError Unit} (declines : asked.Declines request outcome after)
    (isClass : request.kind = .classTemplate) : asked.LeavesFunctions after := by
  cases declines with
  | refused cause => exact .refl _
  | skipped _ _ => exact .refl _
  | spoilt isFunction _ _ _ _ =>
      rw [isClass] at isFunction
      cases isFunction

end Session

namespace Stage

variable {asked ended after called : Session} {request : Request} {stage next : Stage}
variable {reply : Reply}

theorem Resumes.leavesFunctions {target : ClassTarget}
    (resumes : Resumes ended target reply called next)
    (names : ended.program.NamesClass target.entry) : ended.LeavesFunctions called := by
  cases resumes with
  | works _ _ works => exact works.leavesFunctions
  | defines _ works => exact works.leavesFunctions.define names

theorem Closes.leavesFunctions {outcome : Except InstantiationError Unit}
    (closes : Closes request ended stage reply outcome after) (covers : asked.Covers request stage)
    (isClass : request.kind = .classTemplate)
    (retains : asked.program.Retains ended.program) : ended.LeavesFunctions after := by
  cases covers with
  | functionTemplate isFunction _ _ _ =>
      rw [isClass] at isFunction
      cases isFunction
  | classTemplate _ resolves _ ofTarget =>
      have names := (Session.namesClass_of_classTarget resolves).retained retains
      cases closes with
      | rejected cause =>
          cases stage <;> cases ofTarget <;> exact (Session.LeavesFunctions.refl ended).leave _
      | unprepared solution cause works => exact works.leavesFunctions.leave _
      | finished solution =>
          cases ofTarget
          exact ((Session.LeavesFunctions.refl ended).record names request.location).leave _
      | defined solution => cases ofTarget

end Stage

namespace Kept

variable {start after : Session} {rest : List Frame} {pending : Pending}

theorem leavesFunctions_called {callback : Callback} {called : Session} {stage : Stage}
    (kept : Kept start (.request pending :: rest) pending.latest)
    (isClass : pending.request.kind = .classTemplate)
    (turn : Dialogue pending.request pending.asked pending.calls (.call callback called stage)) :
    pending.latest.LeavesFunctions called := by
  rcases turn.call_inv with
    ⟨noCalls, starts⟩ | ⟨_, last, lastStage, target, calls, dialogue, ofTarget, resumes⟩
  · rw [pending.latest_of_calls_nil noCalls]
    exact starts.leavesFunctions isClass
  · have retains := kept.retains_asked
    rw [pending.latest_of_calls calls] at retains ⊢
    cases dialogue.covers with
    | functionTemplate _ _ _ _ => cases ofTarget
    | classTemplate _ resolves _ ofTargetBefore =>
        rw [ofTarget, Option.some.injEq] at ofTargetBefore
        subst ofTargetBefore
        exact resumes.leavesFunctions
          ((Session.namesClass_of_classTarget resolves).retained retains)

theorem leavesFunctions_answered {outcome : Except InstantiationError Unit}
    (kept : Kept start (.request pending :: rest) pending.latest)
    (isClass : pending.request.kind = .classTemplate)
    (turn : Dialogue pending.request pending.asked pending.calls (.answer outcome after)) :
    pending.latest.LeavesFunctions after := by
  rcases turn.answer_inv with ⟨noCalls, declines⟩ | ⟨_, last, _, calls, dialogue, closes⟩
  · rw [pending.latest_of_calls_nil noCalls]
    exact declines.leavesFunctions isClass
  · have retains := kept.retains_asked
    rw [pending.latest_of_calls calls] at retains ⊢
    exact closes.leavesFunctions dialogue.covers isClass retains

end Kept

def Turn.Builds : Turn → Prop
  | .call (.buildFunction _ _) _ _ => True
  | _ => False

namespace Session

variable (session : Session) (request : Request) (target : ClassTarget) (prepared : PreparedClass)

theorem not_builds_membersTurn : ¬(session.membersTurn request target prepared).Builds := by
  unfold membersTurn
  split <;> exact id

theorem not_builds_basesTurn (clause : Option NodeId) :
    ¬(session.basesTurn request target clause prepared).Builds := by
  unfold basesTurn
  split
  · exact id
  · exact not_builds_membersTurn _ request target prepared

theorem not_builds_prepareTurn (solution : Solution) :
    ¬(session.prepareTurn request target solution).Builds := by
  unfold prepareTurn
  split
  · exact id
  · split
    · exact id
    · exact not_builds_basesTurn _ request target _ _

end Session

theorem Stage.not_builds_nextTurn (request : Request) (stage : Stage) (reply : Reply)
    (ended : Session) : ¬(stage.nextTurn request reply ended).Builds := by
  unfold nextTurn
  split
  · exact id
  · split
    · split
      · exact ended.not_builds_prepareTurn request _ _
      · exact id
    · exact Session.not_builds_membersTurn _ request _ _
    · exact id
    · exact id
    · exact id

/-- Only a request for a function leads to the build of one. -/
theorem Dialogue.isFunction_of_builds {request : Request} {asked : Session} {calls : List Call}
    {turn : Turn} (dialogue : Dialogue request asked calls turn) (builds : turn.Builds) :
    request.kind = .functionTemplate := by
  cases dialogue with
  | next _ reply ended => exact absurd builds (Stage.not_builds_nextTurn _ _ _ _)
  | first =>
      cases isTurn : asked.firstTurn request with
      | answer outcome after =>
          rw [isTurn] at builds
          cases builds
      | call callback called stage =>
          rw [isTurn] at builds
          cases Session.starts_of_firstTurn isTurn with
          | classTemplate _ _ _ => cases builds
          | functionTemplate isFunction _ _ _ => exact isFunction

namespace Frame

/-- An ambiguity is being resolved. -/
def Disambiguates : Frame → Prop
  | .switch .checkingAmbiguity _ => True
  | _ => False

/-- A function is being built: the callback for its definition has begun and not ended. -/
def Builds : Frame → Prop
  | .request pending => ∃ definition context called,
      pending.current = some (.buildFunction definition context, called)
  | .switch _ _ => False

/-- The callback that has not ended was made in the dialogue about the request. -/
def IsConversing : Frame → Prop
  | .request pending => ∀ callback called, pending.current = some (callback, called) →
      ∃ stage, Dialogue pending.request pending.asked pending.calls (.call callback called stage)
  | .switch _ _ => True

end Frame

theorem Path.isConversing {allowed : Program → Program → Prop} {start session : Session}
    {moments : List Moment} {stack : List Frame}
    (path : Path allowed start moments stack session) : ∀ frame ∈ stack, frame.IsConversing := by
  induction path with
  | start => exact fun _ member => nomatch member
  | step path step ih =>
      cases step with
      | updated isAllowed => exact ih
      | turned switch => exact List.forall_mem_cons.mpr ⟨trivial, ih⟩
      | restored => exact fun frame member => ih frame (List.mem_cons_of_mem _ member)
      | asked request =>
          refine List.forall_mem_cons.mpr ⟨fun _ _ impossible => ?_, ih⟩
          cases impossible
      | called isIdle turn =>
          refine List.forall_mem_cons.mpr ⟨?_, (List.forall_mem_cons.mp ih).2⟩
          rintro _ _ ⟨⟩
          exact ⟨_, turn⟩
      | replied isBusy reply =>
          refine List.forall_mem_cons.mpr ⟨fun _ _ impossible => ?_, (List.forall_mem_cons.mp ih).2⟩
          cases impossible
      | answered isIdle turn => exact (List.forall_mem_cons.mp ih).2

namespace Kept

variable {start session : Session} {stack rest : List Frame} {frame : Frame} {pending : Pending}

/-- Whatever goes on while an ambiguity is being resolved, the switch stays on. -/
theorem checkingAmbiguity_of_mem (kept : Kept start stack session) (member : frame ∈ stack)
    (disambiguates : frame.Disambiguates) : session.checkingAmbiguity = true := by
  induction kept with
  | start accounts => cases member
  | @inside inner rest session outer isFair accounts ih =>
      rw [accounts.books.checkingAmbiguity]
      rcases List.mem_cons.mp member with rfl | further
      · cases frame with
        | request pending => cases disambiguates
        | switch switch saved =>
            cases switch with
            | checkingAmbiguity => rfl
            | testExpression => cases disambiguates
      · have stillOn := ih further
        cases inner with
        | switch switch saved =>
            cases switch with
            | checkingAmbiguity => rfl
            | testExpression => exact stillOn
        | request pending =>
            unfold Frame.inside
            dsimp only
            split
            · cases pending.request.kind <;> exact stillOn
            · exact stillOn

/-- Whatever goes on while a function is being built, expressions are not tested. -/
theorem testExpression_of_mem (kept : Kept start stack session)
    (conversing : ∀ frame ∈ stack, frame.IsConversing) (member : frame ∈ stack)
    (builds : frame.Builds) : session.testExpression = false := by
  induction kept with
  | start accounts => cases member
  | @inside inner rest session outer isFair accounts ih =>
      obtain ⟨innerConverses, restConverses⟩ := List.forall_mem_cons.mp conversing
      rw [accounts.books.testExpression]
      rcases List.mem_cons.mp member with rfl | further
      · cases frame with
        | switch switch saved => cases builds
        | request pending =>
            obtain ⟨definition, context, called, isBusy⟩ := builds
            obtain ⟨stage, turn⟩ := innerConverses _ _ isBusy
            have isFunction := turn.isFunction_of_builds trivial
            simp only [Frame.inside, pending.isEntered_of_current isBusy, if_true, isFunction]
            rfl
      · have stillOff := ih restConverses further
        cases inner with
        | switch switch saved => cases switch <;> first | exact stillOff | rfl
        | request pending =>
            unfold Frame.inside
            dsimp only
            split
            · cases pending.request.kind <;> first | exact stillOff | rfl
            · exact stillOff

/-- While an ambiguity is being resolved, only classes are instantiated. -/
theorem isClass_of_checking {callback : Callback} {called : Session} {stage : Stage}
    (checking : pending.asked.checkingAmbiguity = true)
    (turn : Dialogue pending.request pending.asked pending.calls (.call callback called stage)) :
    pending.request.kind = .classTemplate := by
  cases isKind : pending.request.kind with
  | classTemplate => rfl
  | functionTemplate =>
      obtain ⟨unchecked, -, -⟩ := (Session.admits_function_iff isKind).mp turn.covers.admits
      rw [checking] at unchecked
      cases unchecked

end Kept

/-- The event is a turn of the engine. -/
def Event.IsTurn : Event → Prop
  | .called _ | .answered _ _ => True
  | _ => False

namespace Moment

def Disambiguates (moment : Moment) : Prop :=
  ∃ frame ∈ moment.stack, frame.Disambiguates

def Builds (moment : Moment) : Prop :=
  ∃ frame ∈ moment.stack, frame.Builds

/-- The switches hold at a moment, given the session right before it. -/
structure HeedsSwitches (before : Session) (moment : Moment) : Prop where
  /-- The switch is on while an ambiguity is being resolved. -/
  checking : moment.Disambiguates → moment.session.checkingAmbiguity = true
  /-- No callback is made for a function then, -/
  unbuilt : moment.Disambiguates → ∀ definition context,
    moment.event ≠ .called (.buildFunction definition context)
  /-- a request for a function does nothing, -/
  passed : moment.Disambiguates → ∀ pending outcome, moment.event = .answered pending outcome →
    pending.request.kind = .functionTemplate →
      outcome = .ok () ∧ pending.calls = [] ∧ moment.session = pending.asked
  /-- and in no turn does the engine define or record a function. -/
  untouched : moment.Disambiguates → moment.event.IsTurn → before.LeavesFunctions moment.session
  /-- When a function is to be built, no ambiguity is being resolved. -/
  unchecked : ∀ definition context, moment.event = .called (.buildFunction definition context) →
    moment.Builds ∧ before.checkingAmbiguity = false ∧ moment.session.checkingAmbiguity = false
  /-- Expressions are not tested while a function is being built. -/
  untested : moment.Builds → moment.session.testExpression = false
  /-- When a request is answered, the switches stand as they stood when it was made. -/
  restored : ∀ pending outcome, moment.event = .answered pending outcome →
    moment.session.testExpression = pending.asked.testExpression ∧
      moment.session.checkingAmbiguity = pending.asked.checkingAmbiguity

end Moment

namespace Kept

variable {start before after : Session} {rest : List Frame} {pending : Pending}

theorem called_of_disambiguates {callback : Callback} {called : Session} {stage : Stage}
    (kept : Kept start (.request pending :: rest) pending.latest)
    (turn : Dialogue pending.request pending.asked pending.calls (.call callback called stage))
    (resolving : ∃ frame ∈ rest, frame.Disambiguates) :
    (∀ definition context, callback ≠ .buildFunction definition context) ∧
      pending.latest.LeavesFunctions called := by
  obtain ⟨frame, member, disambiguates⟩ := resolving
  have outer : Kept start rest pending.asked := kept.outer
  have isClass := isClass_of_checking (outer.checkingAmbiguity_of_mem member disambiguates) turn
  refine ⟨?_, kept.leavesFunctions_called isClass turn⟩
  rintro definition context rfl
  have isFunction := turn.isFunction_of_builds trivial
  rw [isClass] at isFunction
  cases isFunction

theorem answered_of_disambiguates {outcome : Except InstantiationError Unit}
    (kept : Kept start (.request pending :: rest) pending.latest)
    (turn : Dialogue pending.request pending.asked pending.calls (.answer outcome after))
    (resolving : ∃ frame ∈ rest, frame.Disambiguates) :
    (pending.request.kind = .functionTemplate →
        outcome = .ok () ∧ pending.calls = [] ∧ after = pending.asked) ∧
      pending.latest.LeavesFunctions after := by
  obtain ⟨frame, member, disambiguates⟩ := resolving
  have outer : Kept start rest pending.asked := kept.outer
  have needNot : pending.asked.NeedNotBuild [] pending.request.entry :=
    .ambiguous (outer.checkingAmbiguity_of_mem member disambiguates)
  have passed : pending.request.kind = .functionTemplate →
      outcome = .ok () ∧ pending.calls = [] ∧ after = pending.asked :=
    fun isFunction => turn.eq_of_needNotBuild isFunction needNot fun _ member => nomatch member
  refine ⟨passed, ?_⟩
  cases isKind : pending.request.kind with
  | classTemplate => exact kept.leavesFunctions_answered isKind turn
  | functionTemplate =>
      obtain ⟨-, noCalls, rfl⟩ := passed isKind
      rw [pending.latest_of_calls_nil noCalls]
      exact .refl _

theorem unchecked_of_builds {definition : NodeId} {context : DeclContext} {called : Session}
    {stage : Stage} (turn : Dialogue pending.request pending.asked pending.calls
      (.call (.buildFunction definition context) called stage)) :
    pending.latest.checkingAmbiguity = false ∧ called.checkingAmbiguity = false := by
  have isFunction := turn.isFunction_of_builds trivial
  obtain ⟨noCalls, starts⟩ := turn.starts_of_function isFunction
  obtain ⟨unchecked, -, -⟩ := (Session.admits_function_iff isFunction).mp turn.covers.admits
  rw [pending.latest_of_calls_nil noCalls]
  refine ⟨unchecked, starts.changes.1.checkingAmbiguity.trans ?_⟩
  rw [isFunction]
  exact unchecked

/-- A frame that is no request stands further down. -/
theorem exists_of_cons (resolving : ∃ frame ∈ Frame.request pending :: rest, frame.Disambiguates) :
    ∃ frame ∈ rest, frame.Disambiguates := by
  obtain ⟨frame, member, disambiguates⟩ := resolving
  rcases List.mem_cons.mp member with rfl | further
  · cases disambiguates
  · exact ⟨frame, further, disambiguates⟩

/-- A step from a session whose books are accounted for heeds the switches. -/
theorem heedsSwitches {stack later : List Frame} {event : Event} (kept : Kept start stack before)
    (step : Step Program.Retains stack before event later after)
    (conversing : ∀ frame ∈ later, frame.IsConversing) :
    Moment.HeedsSwitches before ⟨event, later, after⟩ := by
  have keptLater := kept.step step
  refine ⟨?_, ?_, ?_, ?_, ?_, ?_, ?_⟩
  · rintro ⟨frame, member, disambiguates⟩
    exact keptLater.checkingAmbiguity_of_mem member disambiguates
  · rintro resolving definition context rfl
    cases step with
    | called isIdle turn =>
        have unbuilt := (kept.called_of_disambiguates turn (exists_of_cons resolving)).1
        exact unbuilt definition context rfl
  · rintro resolving pending outcome rfl isFunction
    cases step with
    | answered isIdle turn => exact (kept.answered_of_disambiguates turn resolving).1 isFunction
  · intro resolving isTurn
    cases step with
    | called isIdle turn =>
        exact (kept.called_of_disambiguates turn (exists_of_cons resolving)).2
    | answered isIdle turn => exact (kept.answered_of_disambiguates turn resolving).2
    | _ => cases isTurn
  · rintro definition context rfl
    cases step with
    | called isIdle turn =>
        exact ⟨⟨_, List.mem_cons_self, definition, context, _, rfl⟩, unchecked_of_builds turn⟩
  · rintro ⟨frame, member, builds⟩
    exact keptLater.testExpression_of_mem conversing member builds
  · rintro pending outcome rfl
    cases step with
    | answered isIdle turn =>
        have books := (kept.answered turn).2
        exact ⟨books.testExpression, books.checkingAmbiguity⟩

end Kept

namespace Activity

variable {σ α : Type} {analyzer : Analyzer σ} {action : Action σ α}

/-- The switches hold for everything nested below them, whatever the analyzer does, as long as it
takes back nothing that was declared. -/
theorem switches_hold (analyzerUpdates : analyzer.Updates Program.Retains)
    (actionUpdates : action.Updates Program.Retains) {before : Compilation σ}
    (idle : before.session.IsIdle) {earlier later : List Moment} {moment : Moment}
    (isHistory : history analyzer action before = earlier ++ moment :: later) :
    moment.HeedsSwitches (lastSession before.session earlier) := by
  have path := history_isPath analyzerUpdates actionUpdates before
  rw [isHistory, ← List.singleton_append, ← List.append_assoc] at path
  obtain ⟨stack, session, path⟩ := path.exists_of_append
  have conversing := path.isConversing
  obtain ⟨rfl, rfl, stackBefore, sessionBefore, pathBefore, step⟩ := path.snoc_inv
  rw [← pathBefore.eq_lastSession]
  exact (pathBefore.kept idle).heedsSwitches step conversing

end Activity

namespace Sample

/-- The class is instantiated while an ambiguity is being resolved, the function afterwards. -/
def disambiguating : Action Unit Unit :=
  .withSwitch .checkingAmbiguity instantiating fun _ =>
    .instantiate (requestFor .functionTemplate functionOfInt.1) .done

theorem disambiguating_updates (allowed : Program → Program → Prop) :
    disambiguating.Updates allowed :=
  ⟨instantiating_updates allowed, fun _ _ => trivial⟩

set_option maxRecDepth 100000 in
/-- While the ambiguity is being resolved, the members of the class request the function in vain.
Later it is built, with the test of expressions off from its callback to its answer. -/
theorem switches_hold_here :
    bounded.session.IsIdle ∧
    (Activity.history nesting disambiguating bounded).map
        (fun moment => (moment.session.checkingAmbiguity, moment.session.testExpression)) =
      List.replicate 11 (true, true) ++ List.replicate 2 (false, true) ++
        List.replicate 12 (false, false) ++ [(false, true)] ∧
    ∀ earlier moment later,
      Activity.history nesting disambiguating bounded = earlier ++ moment :: later →
        moment.HeedsSwitches (lastSession bounded.session earlier) := by
  have idle : bounded.session.IsIdle := ⟨rfl, rfl⟩
  refine ⟨idle, by cbv, fun earlier moment later isHistory => ?_⟩
  exact Activity.switches_hold (nesting_updates Program.Retains)
    (disambiguating_updates Program.Retains) idle isHistory

end Sample

end CppTemplates
