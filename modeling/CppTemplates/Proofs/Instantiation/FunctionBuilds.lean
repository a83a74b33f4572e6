import CppTemplates.Proofs.Instantiation.Discipline

/-!
# Functions are built at most once

Two marks keep a function from being built twice.  While it is being built it is on the list of
active entities, and once it is built it is defined.  A declaration defines no instance of a
function template, and nothing takes a definition back.  So the function is defined from the moment
on at which a build of it succeeds, and undefined up to that moment.
-/

namespace CppTemplates

namespace Program

/-- Between two programs something was declared, and of the instances of function templates at most
those allowed were defined. -/
structure DefinesOnly (allowed : SymbolId → Prop) (before after : Program) : Prop
    extends before.Retains after where
  defined : ∀ id, (before.entry id).defined = true → (after.entry id).defined = true
  instances : ∀ id primary, before.Instantiates id primary → id ≠ primary →
    (before.entry id).defined = false → (after.entry id).defined = true → allowed id

namespace DefinesOnly

variable {allowed : SymbolId → Prop} {first second third before after : Program} {entry : SymbolId}

theorem of_declares (declares : before.Declares after) : DefinesOnly allowed before after where
  toRetains := declares.toRetains
  defined := declares.defined
  instances := by
    intro id primary instantiates other undefined isDefined
    rw [declares.instances id primary instantiates other undefined] at isDefined
    cases isDefined

theorem refl (program : Program) : DefinesOnly allowed program program :=
  of_declares (.refl program)

theorem trans (earlier : DefinesOnly allowed first second)
    (later : DefinesOnly allowed second third) : DefinesOnly allowed first third where
  toRetains := earlier.toRetains.trans later.toRetains
  defined id isDefined := later.defined id (earlier.defined id isDefined)
  instances := by
    intro id primary instantiates other undefined isDefined
    cases middle : (second.entry id).defined with
    | true => exact earlier.instances id primary instantiates other undefined middle
    | false =>
        exact later.instances id primary (instantiates.retained earlier.toRetains) other middle
          isDefined

theorem undefined (only : DefinesOnly allowed before after) {id primary : SymbolId}
    (instantiates : before.Instantiates id primary) (other : id ≠ primary)
    (undefined : (before.entry id).defined = false) (notChosen : ¬allowed id) :
    (after.entry id).defined = false := by
  cases isDefined : (after.entry id).defined with
  | false => rfl
  | true =>
      exact absurd (only.instances id primary instantiates other undefined isDefined) notChosen

theorem awaits (only : DefinesOnly allowed before after) {id primary : SymbolId}
    (awaits : before.Awaits id primary) (notChosen : ¬allowed id) : after.Awaits id primary where
  ofKind := by
    rw [(only.toRetains.entry id awaits.instantiates.index_lt).kind, awaits.ofKind]
  instantiates := awaits.instantiates.retained only.toRetains
  primaryDefined := only.defined primary awaits.primaryDefined
  undefined := only.undefined awaits.instantiates awaits.other awaits.undefined notChosen

theorem mono {more : SymbolId → Prop} (only : DefinesOnly allowed before after)
    (weaker : ∀ id, allowed id → more id) : DefinesOnly more before after where
  toRetains := only.toRetains
  defined := only.defined
  instances id primary instantiates other undefined isDefined :=
    weaker id (only.instances id primary instantiates other undefined isDefined)

end DefinesOnly

end Program

namespace Session

variable {session asked ended middle after called : Session} {request : Request}
variable {allowed : SymbolId → Prop} {entry : SymbolId}

theorem Works.definesOnly (works : session.Works after) :
    Program.DefinesOnly allowed session.program after.program :=
  .of_declares (.of_keepsSymbols works.retains works.symbols)

theorem Works.instantiated_eq (works : session.Works after) :
    after.instantiated = session.instantiated := by
  rw [works.books]

theorem entry_define_of_ne {id : SymbolId} (other : id ≠ entry) :
    (session.define entry).program.entry id = session.program.entry id :=
  Program.entry_modifyEntry_of_ne other _

theorem defined_define (bound : entry.index < session.program.symbols.size) :
    ((session.define entry).program.entry entry).defined = true := by
  unfold define
  rw [Program.entry_modifyEntry_self bound]

theorem definesOnly_define
    (chosen : ∀ primary, session.program.Instantiates entry primary → allowed entry) :
    Program.DefinesOnly allowed session.program (session.define entry).program where
  toRetains := retains_define session entry
  defined := by
    intro id isDefined
    by_cases same : id = entry
    · subst same
      exact defined_define (Program.index_lt_of_defined isDefined)
    · rw [entry_define_of_ne same]
      exact isDefined
  instances := by
    intro id primary instantiates _ undefined isDefined
    by_cases same : id = entry
    · subst same
      exact chosen primary instantiates
    · rw [entry_define_of_ne same, undefined] at isDefined
      cases isDefined

theorem definesOnly_define_class (names : session.program.NamesClass entry) :
    Program.DefinesOnly allowed session.program (session.define entry).program :=
  definesOnly_define fun _ instantiates => absurd names instantiates.isFunction.not_namesClass

theorem Starts.definesOnly {callback : Callback} {stage : Stage}
    (starts : asked.Starts request callback called stage) :
    Program.DefinesOnly allowed asked.program called.program := by
  cases starts with
  | classTemplate _ _ enters =>
      rw [(Activity.program_of_enter enters).1]
      exact .refl _
  | functionTemplate _ _ enters works =>
      rw [← (Activity.program_of_enter enters).1]
      exact works.definesOnly

theorem Declines.definesOnly {outcome : Except InstantiationError Unit}
    (declines : asked.Declines request outcome after) :
    Program.DefinesOnly allowed asked.program after.program := by
  cases declines with
  | refused cause => exact .refl _
  | skipped _ _ => exact .refl _
  | spoilt _ _ enters works cause =>
      rw [← (Activity.program_of_enter enters).1]
      exact works.definesOnly

theorem Declines.instantiated_eq {outcome : Except InstantiationError Unit}
    (declines : asked.Declines request outcome after) :
    after.instantiated = asked.instantiated := by
  cases declines with
  | refused cause => rfl
  | skipped _ _ => rfl
  | spoilt _ _ enters works cause =>
      refine works.instantiated_eq.trans ?_
      obtain ⟨-, rfl⟩ := enter_eq_ok enters
      rfl

/-- What is recorded is a class or defined. -/
def RecordsBuilt (session : Session) : Prop :=
  ∀ completed ∈ session.instantiated,
    session.program.NamesClass completed.1 ∨ (session.program.entry completed.1).defined = true

theorem RecordsBuilt.goesOn (records : session.RecordsBuilt)
    (defines : Program.DefinesOnly allowed session.program after.program)
    (same : after.instantiated = session.instantiated) : after.RecordsBuilt := by
  intro completed member
  rw [same] at member
  rcases records completed member with names | isDefined
  · exact .inl (names.retained defines.toRetains)
  · exact .inr (defines.defined _ isDefined)

theorem RecordsBuilt.record (records : session.RecordsBuilt) {location : Location}
    (built : session.program.NamesClass entry ∨ (session.program.entry entry).defined = true) :
    (session.record entry location).RecordsBuilt := by
  intro completed member
  rw [(program_record session entry location).1]
  unfold Session.record at member
  split at member
  · obtain ⟨old, recorded, isCompleted⟩ := List.mem_map.mp member
    split at isCompleted
    · rw [← isCompleted]
      exact built
    · rw [← isCompleted]
      exact records old recorded
  · rcases List.mem_append.mp member with old | new
    · exact records completed old
    · rw [List.mem_singleton.mp new]
      exact built

end Session

namespace Stage

variable {asked ended after called : Session} {request : Request} {stage : Stage} {reply : Reply}
variable {allowed : SymbolId → Prop}

theorem Resumes.definesOnly {target : ClassTarget} {next : Stage}
    (resumes : Resumes ended target reply called next)
    (names : ended.program.NamesClass target.entry) :
    Program.DefinesOnly allowed ended.program called.program := by
  cases resumes with
  | works _ _ works => exact works.definesOnly
  | defines _ works =>
      exact works.definesOnly.trans
        (Session.definesOnly_define_class (names.retained works.retains))

/-- The answer to a request defines a function only if it was built. -/
theorem Closes.definesOnly {outcome : Except InstantiationError Unit}
    (closes : Closes request ended stage reply outcome after)
    (covers : asked.Covers request stage) :
    Program.DefinesOnly (fun function => request.kind = .functionTemplate ∧
      request.entry = function ∧ outcome = .ok ()) ended.program after.program := by
  cases closes with
  | rejected cause =>
      cases covers with
      | classTemplate _ _ _ ofTarget => cases stage <;> cases ofTarget <;> exact .refl _
      | functionTemplate _ _ _ _ => exact .refl _
  | unprepared solution cause works => exact works.definesOnly
  | finished solution =>
      change Program.DefinesOnly _ _ (ended.record _ _).program
      rw [(Session.program_record _ _ _).1]
      exact .refl _
  | defined solution =>
      cases covers with
      | classTemplate _ _ _ ofTarget => cases ofTarget
      | functionTemplate isFunction _ _ _ =>
          change Program.DefinesOnly _ ended.program (Session.record _ _ _).program
          rw [(Session.program_record _ _ _).1]
          exact Session.definesOnly_define fun _ _ => ⟨isFunction, rfl, rfl⟩

theorem entry_lt_of_covers (covers : asked.Covers request stage)
    (isFunction : request.kind = .functionTemplate)
    (retains : asked.program.Retains ended.program) :
    request.entry.index < ended.program.symbols.size := by
  obtain ⟨-, ⟨primary, awaits⟩, -⟩ := (Session.admits_function_iff isFunction).mp covers.admits
  exact (awaits.instantiates.retained retains).index_lt

theorem Closes.isDefined {value : Unit}
    (closes : Closes request ended stage reply (.ok value) after)
    (covers : asked.Covers request stage) (isFunction : request.kind = .functionTemplate)
    (retains : asked.program.Retains ended.program) :
    (after.program.entry request.entry).defined = true := by
  have bound := entry_lt_of_covers covers isFunction retains
  cases closes with
  | finished _ =>
      cases covers with
      | classTemplate isClass _ _ _ =>
          rw [isFunction] at isClass
          cases isClass
  | @defined entry untested _ =>
      cases covers with
      | classTemplate _ _ _ ofTarget => cases ofTarget
      | functionTemplate _ _ _ _ =>
          let untold := ended.putBack untested .testExpression
          have isDefined : ((untold.define request.entry).program.entry
              request.entry).defined = true :=
            Session.defined_define bound
          rw [← (Session.program_record _ request.entry request.location).1] at isDefined
          exact isDefined

/-- The answer to a request records only what is built. -/
theorem Closes.recordsBuilt {outcome : Except InstantiationError Unit}
    (closes : Closes request ended stage reply outcome after) (covers : asked.Covers request stage)
    (retains : asked.program.Retains ended.program) (records : ended.RecordsBuilt) :
    after.RecordsBuilt := by
  cases closes with
  | rejected cause =>
      cases covers with
      | classTemplate _ _ _ ofTarget => cases stage <;> cases ofTarget <;> exact records
      | functionTemplate _ _ _ _ => exact records
  | unprepared solution cause works =>
      have keeps : Program.DefinesOnly (fun _ => False) ended.program _ := works.definesOnly
      exact records.goesOn keeps works.instantiated_eq
  | finished solution =>
      cases covers with
      | classTemplate _ resolves _ ofTarget =>
          cases ofTarget
          have names := (Session.namesClass_of_classTarget resolves).retained retains
          exact records.record (.inl names)
  | @defined entry untested solution =>
      have coversThis := covers
      cases covers with
      | classTemplate _ _ _ ofTarget => cases ofTarget
      | functionTemplate isFunction _ _ _ =>
          have bound := entry_lt_of_covers coversThis isFunction retains
          let untold := ended.putBack untested .testExpression
          have keeps : Program.DefinesOnly (fun _ => True) untold.program
              (untold.define request.entry).program :=
            Session.definesOnly_define fun _ _ => trivial
          have isDefined : ((untold.define request.entry).program.entry
              request.entry).defined = true := Session.defined_define bound
          have untoldRecords : untold.RecordsBuilt := records
          exact (untoldRecords.goesOn keeps rfl).record (.inr isDefined)

end Stage

/-- A function is built in a single callback. -/
theorem Dialogue.starts_of_function {request : Request} {asked called : Session}
    {calls : List Call} {callback : Callback} {stage : Stage}
    (dialogue : Dialogue request asked calls (.call callback called stage))
    (isFunction : request.kind = .functionTemplate) :
    calls = [] ∧ asked.Starts request callback called stage := by
  rcases dialogue.call_inv with starts | ⟨_, _, lastStage, target, _, earlier, ofTarget, _⟩
  · exact starts
  · cases earlier.covers with
    | classTemplate isClass _ _ _ =>
        rw [isFunction] at isClass
        cases isClass
    | functionTemplate _ _ _ _ => cases ofTarget

theorem Pending.instantiated_eq {pending : Pending} {called : Session}
    {callback : Callback} {stage : Stage}
    (dialogue : Dialogue pending.request pending.asked pending.calls
      (.call callback called stage)) : called.instantiated = pending.latest.instantiated := by
  rcases dialogue.call_inv with ⟨noCalls, starts⟩ | ⟨_, last, _, _, calls, _, _, resumes⟩
  · rw [pending.latest_of_calls_nil noCalls]
    cases starts with
    | classTemplate _ _ enters =>
        obtain ⟨-, rfl⟩ := Session.enter_eq_ok enters
        rfl
    | functionTemplate _ _ enters works =>
        refine works.instantiated_eq.trans ?_
        obtain ⟨-, rfl⟩ := Session.enter_eq_ok enters
        rfl
  · rw [pending.latest_of_calls calls]
    cases resumes with
    | works _ _ works => exact works.instantiated_eq
    | defines _ works => exact works.instantiated_eq

def Event.Builds (function : SymbolId) : Event → Prop
  | .answered pending (.ok _) =>
      pending.request.kind = .functionTemplate ∧ pending.request.entry = function ∧
        pending.calls ≠ []
  | _ => False

/-- Besides the books, it is accounted for what is defined: nothing that is being built, but all
that is recorded apart from classes. -/
structure Tidy (start : Session) (stack : List Frame) (session : Session) : Prop where
  kept : Kept start stack session
  awaits : ∀ function ∈ functions stack, ∃ primary, session.program.Awaits function primary
  records : session.RecordsBuilt

namespace Kept

variable {start before after : Session} {stack later : List Frame} {event : Event}

theorem step_declares (kept : Kept start stack before)
    (step : Step Program.Declares stack before event later after) : Kept start later after :=
  kept.step (step.mono fun _ _ => Program.Declares.toRetains)

variable {rest : List Frame} {pending : Pending}

theorem retains_asked (kept : Kept start (.request pending :: rest) before) :
    pending.asked.program.Retains before.program := by
  have retains := kept.accounts.retains
  rw [Frame.program_inside] at retains
  exact retains

theorem definesOnly_called {allowed : SymbolId → Prop} {callback : Callback} {called : Session}
    {stage : Stage} (kept : Kept start (.request pending :: rest) pending.latest)
    (turn : Dialogue pending.request pending.asked pending.calls (.call callback called stage)) :
    Program.DefinesOnly allowed pending.latest.program called.program := by
  rcases turn.call_inv with
    ⟨noCalls, starts⟩ | ⟨_, last, lastStage, target, calls, dialogue, ofTarget, resumes⟩
  · rw [pending.latest_of_calls_nil noCalls]
    exact starts.definesOnly
  · have retains := kept.retains_asked
    rw [pending.latest_of_calls calls] at retains ⊢
    cases dialogue.covers with
    | functionTemplate _ _ _ _ => cases ofTarget
    | classTemplate _ resolves _ ofTargetBefore =>
        rw [ofTarget, Option.some.injEq] at ofTargetBefore
        subst ofTargetBefore
        exact resumes.definesOnly ((Session.namesClass_of_classTarget resolves).retained retains)

theorem definesOnly_answered {outcome : Except InstantiationError Unit}
    (turn : Dialogue pending.request pending.asked pending.calls (.answer outcome after)) :
    Program.DefinesOnly (Event.answered pending outcome).Builds pending.latest.program
      after.program := by
  rcases turn.answer_inv with ⟨noCalls, declines⟩ | ⟨_, last, _, calls, dialogue, closes⟩
  · rw [pending.latest_of_calls_nil noCalls]
    exact declines.definesOnly
  · rw [pending.latest_of_calls calls]
    refine (closes.definesOnly dialogue.covers).mono ?_
    rintro function ⟨isFunction, isEntry, rfl⟩
    exact ⟨isFunction, isEntry, by simp [calls]⟩

theorem definesOnly (kept : Kept start stack before)
    (step : Step Program.Declares stack before event later after) :
    Program.DefinesOnly event.Builds before.program after.program := by
  cases step with
  | updated isAllowed => exact .of_declares isAllowed
  | turned switch => cases switch <;> exact .refl _
  | @restored switch => cases switch <;> exact .refl _
  | asked request => exact .refl _
  | replied isBusy reply => exact .refl _
  | called isIdle turn => exact kept.definesOnly_called turn
  | answered isIdle turn => exact definesOnly_answered turn

end Kept

namespace Tidy

variable {start before after : Session} {stack later rest : List Frame} {event : Event}
variable {pending : Pending} {function : SymbolId}

theorem goesOn (tidy : Tidy start stack before) (kept : Kept start later after)
    {allowed : SymbolId → Prop} (only : Program.DefinesOnly allowed before.program after.program)
    (notBuilt : ∀ function ∈ functions later, function ∈ functions stack ∧ ¬allowed function)
    (records : after.RecordsBuilt) : Tidy start later after where
  kept := kept
  awaits function building := by
    obtain ⟨wasBuilding, notChosen⟩ := notBuilt function building
    obtain ⟨primary, awaits⟩ := tidy.awaits function wasBuilding
    exact ⟨primary, only.awaits awaits notChosen⟩
  records := records

theorem called {callback : Callback} {called : Session} {stage : Stage}
    (tidy : Tidy start (.request pending :: rest) pending.latest)
    (turn : Dialogue pending.request pending.asked pending.calls (.call callback called stage)) :
    Tidy start (.request (pending.busy callback called) :: rest) called := by
  have kept := tidy.kept.called turn
  have only : Program.DefinesOnly (fun _ => False) pending.latest.program called.program :=
    tidy.kept.definesOnly_called turn
  have records := tidy.records.goesOn only (Pending.instantiated_eq turn)
  cases isKind : pending.request.kind with
  | classTemplate =>
      refine tidy.goesOn kept only (fun function building => ⟨?_, id⟩) records
      rw [functions_class isKind]
      rw [functions_class (show (pending.busy _ _).request.kind = _ from isKind)] at building
      exact building
  | functionTemplate =>
      obtain ⟨noCalls, starts⟩ := turn.starts_of_function isKind
      refine ⟨kept, fun function building => ?_, records⟩
      rw [functions_entered (pending.isEntered_busy _ _) isKind, List.mem_cons] at building
      rcases building with rfl | wasBuilding
      · obtain ⟨-, ⟨primary, awaits⟩, -⟩ :=
          (Session.admits_function_iff isKind).mp starts.covers.admits
        rw [pending.latest_of_calls_nil noCalls] at only
        exact ⟨primary, only.awaits awaits id⟩
      · obtain ⟨primary, awaits⟩ := tidy.awaits function (mem_functions_cons wasBuilding _)
        exact ⟨primary, only.awaits awaits id⟩

theorem answered {outcome : Except InstantiationError Unit}
    (tidy : Tidy start (.request pending :: rest) pending.latest)
    (turn : Dialogue pending.request pending.asked pending.calls (.answer outcome after)) :
    Tidy start rest after := by
  have kept := (tidy.kept.answered turn).1
  refine tidy.goesOn kept (Kept.definesOnly_answered turn)
    (fun function building => ⟨mem_functions_cons building _, ?_⟩) ?_
  · cases outcome with
    | error cause => exact id
    | ok _ =>
        rintro ⟨isFunction, rfl, someCalls⟩
        rcases turn.answer_inv with ⟨noCalls, _⟩ | ⟨_, _, _, _, dialogue, _⟩
        · exact someCalls noCalls
        · have outer : Kept start rest pending.asked := tidy.kept.outer
          apply outer.subject_not_mem_functions dialogue.covers.admits
          rw [Session.subject_of_function isFunction]
          exact building
  · rcases turn.answer_inv with ⟨noCalls, declines⟩ | ⟨_, last, _, calls, dialogue, closes⟩
    · have records := tidy.records
      rw [pending.latest_of_calls_nil noCalls] at records
      have only : Program.DefinesOnly (fun _ => False) pending.asked.program after.program :=
        declines.definesOnly
      exact records.goesOn only declines.instantiated_eq
    · have records := tidy.records
      have retains := tidy.kept.retains_asked
      rw [pending.latest_of_calls calls] at records retains
      exact closes.recordsBuilt dialogue.covers retains records

/-- Where the engine does nothing, nothing gets built. -/
theorem declares (tidy : Tidy start stack before) (kept : Kept start later after)
    (declares : before.program.Declares after.program)
    (sameFunctions : functions later = functions stack)
    (sameRecords : after.instantiated = before.instantiated) : Tidy start later after := by
  have only : Program.DefinesOnly (fun _ => False) before.program after.program :=
    .of_declares declares
  refine tidy.goesOn kept only (fun function building => ⟨?_, id⟩)
    (tidy.records.goesOn only sameRecords)
  rw [← sameFunctions]
  exact building

theorem step (tidy : Tidy start stack before)
    (step : Step Program.Declares stack before event later after) : Tidy start later after := by
  have kept := tidy.kept.step_declares step
  have same := Program.Declares.refl before.program
  cases step with
  | updated isAllowed => exact tidy.declares kept isAllowed rfl rfl
  | turned switch => cases switch <;> exact tidy.declares kept same rfl rfl
  | @restored switch => cases switch <;> exact tidy.declares kept same rfl rfl
  | asked request => exact tidy.declares kept same (functions_unentered rfl) rfl
  | called isIdle turn => exact tidy.called turn
  | replied isBusy reply =>
      exact tidy.declares kept same
        (functions_congr (Pending.isEntered_of_current _ isBusy) (Pending.isEntered_idle _ _) rfl)
        rfl
  | answered isIdle turn => exact tidy.answered turn

end Tidy

/-- No function is being built twice at a time. -/
theorem Kept.nodup_functions {start session : Session} {stack : List Frame}
    (kept : Kept start stack session) : (functions stack).Nodup := by
  induction kept with
  | start accounts => exact .nil
  | @inside frame rest session outer isFair accounts ih =>
      cases frame with
      | switch turned saved => exact ih
      | request pending =>
          cases isKind : pending.request.kind with
          | classTemplate => rw [functions_class isKind]; exact ih
          | functionTemplate =>
              cases isEntered : pending.isEntered with
              | false => rw [functions_unentered isEntered]; exact ih
              | true =>
                  obtain ⟨stage, covers⟩ := isFair isEntered
                  have fresh := outer.subject_not_mem_functions covers.admits
                  rw [Session.subject_of_function isKind] at fresh
                  rw [functions_entered isEntered isKind]
                  exact List.nodup_cons.mpr ⟨fresh, ih⟩

theorem Path.tidy {start session : Session} {moments : List Moment} {stack : List Frame}
    (path : Path Program.Declares start moments stack session) (idle : start.IsIdle)
    (records : start.RecordsBuilt) : Tidy start stack session := by
  induction path with
  | start =>
      have kept : Kept start [] start := Path.kept .start idle
      exact ⟨kept, fun _ building => (nomatch building), records⟩
  | step path step ih => exact ih.step step

/-- A request for a function need not build it, given the functions that are being built. -/
inductive Session.NeedNotBuild (session : Session) (building : List SymbolId)
    (function : SymbolId) : Prop
  /-- An ambiguity is being resolved. -/
  | ambiguous (checking : session.checkingAmbiguity = true)
  /-- The function template is only declared so far, or the function is there already or is being
  built further up. -/
  | hasReason {primary : SymbolId} (ofKind : (session.program.entry function).kind = .function)
      (instantiates : session.program.Instantiates function primary)
      (reason : (session.program.entry primary).defined = false ∨
        (session.program.entry function).defined = true ∨ function ∈ building)

/-- Nothing is to be done if there is no need to build a function. -/
theorem Session.functionTarget_eq_none {session : Session} {building : List SymbolId}
    {function : SymbolId} (needNot : session.NeedNotBuild building function)
    (active : ∀ id ∈ building, id ∈ session.active) :
    session.functionTarget function = .ok none := by
  cases needNot with
  | ambiguous checking => simp [functionTarget, checking]
  | @hasReason primary ofKind instantiates reason =>
      have isPrimary := primaryFunction?_eq_some_iff.mpr instantiates
      have skips : session.reasonToSkip? function primary ≠ none := by
        intro noReason
        obtain ⟨isDefined, undefined, idle⟩ := reasonToSkip?_eq_none_iff.mp noReason
        rcases reason with undefinedPrimary | isDefinedFunction | isBuilt
        · rw [isDefined] at undefinedPrimary
          cases undefinedPrimary
        · rw [undefined] at isDefinedFunction
          cases isDefinedFunction
        · exact idle (active function isBuilt)
      obtain ⟨text, skips⟩ := Option.ne_none_iff_exists'.mp skips
      simp [functionTarget, ofKind, isPrimary, skips]

theorem Dialogue.eq_of_needNotBuild {request : Request} {asked after : Session} {calls : List Call}
    {outcome : Except InstantiationError Unit} {building : List SymbolId}
    (turn : Dialogue request asked calls (.answer outcome after))
    (isFunction : request.kind = .functionTemplate)
    (needNot : asked.NeedNotBuild building request.entry)
    (active : ∀ id ∈ building, id ∈ asked.active) :
    outcome = .ok () ∧ calls = [] ∧ after = asked := by
  have skips := Session.functionTarget_eq_none needNot active
  have first : asked.firstTurn request = .answer (.ok ()) asked := by
    unfold Session.firstTurn
    rw [isFunction]
    simp only [skips]
  obtain ⟨noCalls, same⟩ := eq_of_firstTurn_answer first turn
  cases same
  exact ⟨rfl, noCalls, rfl⟩

namespace Moment

variable (function : SymbolId) (moment : Moment)

def Calls : Prop :=
  ∃ callback pending rest, moment.event = .called callback ∧
    moment.stack = .request pending :: rest ∧ pending.request.kind = .functionTemplate ∧
      pending.request.entry = function

def Fails : Prop :=
  ∃ pending cause, moment.event = .answered pending (.error cause) ∧
    pending.request.kind = .functionTemplate ∧ pending.request.entry = function ∧
      pending.asked.Admits pending.request

end Moment

/-- In the course of some moments functions are built at most once. -/
structure BuildsFunctionsOnce (moments : List Moment) : Prop where
  /-- No function is being built twice at a time. -/
  nodup : ∀ moment ∈ moments, (functions moment.stack).Nodup
  /-- After a function was built, there is no callback for it. -/
  final : ∀ earlier built later function, moments = earlier ++ built :: later →
    built.event.Builds function → ∀ moment ∈ later, ¬moment.Calls function
  /-- A request for a function that need not be built changes nothing. -/
  unchanged : ∀ moment ∈ moments, ∀ pending outcome, moment.event = .answered pending outcome →
    pending.request.kind = .functionTemplate →
      pending.asked.NeedNotBuild (functions moment.stack) pending.request.entry →
        outcome = .ok () ∧ pending.calls = [] ∧ moment.session = pending.asked
  /-- A function whose build has failed is neither defined nor recorded. -/
  failed : ∀ moment ∈ moments, ∀ function, moment.Fails function →
    (moment.session.program.entry function).defined = false ∧
      function ∉ moment.session.instantiated.map (·.1)
  /-- It is tried again when it is requested later, unless it was built in between, an ambiguity is
  being resolved, or it is being built further up. -/
  again : ∀ earlier failed between again rest request,
    moments = earlier ++ failed :: (between ++ again :: rest) → failed.Fails request.entry →
      again.event = .asked request → request.kind = .functionTemplate →
        (∀ moment ∈ between, ¬moment.event.Builds request.entry) →
          again.session.checkingAmbiguity = false →
            request.entry ∉ functions again.stack → again.session.Admits request

namespace Tidy

variable {start before after : Session} {stack later : List Frame} {event : Event}
variable {function : SymbolId}

theorem defined_of_builds (tidy : Tidy start stack before)
    (step : Step Program.Declares stack before event later after) (builds : event.Builds function) :
    (after.program.entry function).defined = true := by
  cases step with
  | @answered pending _ outcome _ isIdle turn =>
      cases outcome with
      | error cause => cases builds
      | ok _ =>
          obtain ⟨isFunction, rfl, someCalls⟩ := builds
          rcases turn.answer_inv with ⟨noCalls, _⟩ | ⟨_, last, _, calls, dialogue, closes⟩
          · exact absurd noCalls someCalls
          · have retains := tidy.kept.retains_asked
            rw [pending.latest_of_calls calls] at retains
            exact closes.isDefined dialogue.covers isFunction retains
  | _ => cases builds

/-- A function whose build has failed could still be built. -/
theorem awaits_of_fails {pending : Pending} {rest : List Frame} {cause : InstantiationError}
    (tidy : Tidy start (.request pending :: rest) pending.latest)
    (isFunction : pending.request.kind = .functionTemplate)
    (admits : pending.asked.Admits pending.request)
    (turn : Dialogue pending.request pending.asked pending.calls (.answer (.error cause) after)) :
    ∃ primary, after.program.Awaits pending.request.entry primary := by
  have awaits : ∃ primary, pending.latest.program.Awaits pending.request.entry primary := by
    rcases turn.answer_inv with ⟨noCalls, _⟩ | ⟨_, _, _, calls, _, _⟩
    · rw [pending.latest_of_calls_nil noCalls]
      exact ((Session.admits_function_iff isFunction).mp admits).2.1
    · apply tidy.awaits
      rw [functions_entered (pending.isEntered_of_calls calls) isFunction]
      exact List.mem_cons_self
  obtain ⟨primary, awaits⟩ := awaits
  exact ⟨primary, (Kept.definesOnly_answered turn).awaits awaits id⟩

end Tidy

namespace Activity

variable {σ α : Type} {analyzer : Analyzer σ} {action : Action σ α} {before : Compilation σ}
variable {earlier later : List Moment} {function : SymbolId}

section Runs

variable (analyzerUpdates : analyzer.Updates Program.Declares)
variable (actionUpdates : action.Updates Program.Declares)
variable (idle : before.session.IsIdle) (records : before.session.RecordsBuilt)
include analyzerUpdates actionUpdates idle records

/-- Every moment of a run is reached by a step from where all is tidy. -/
theorem exists_tidy {moment : Moment} (member : moment ∈ history analyzer action before) :
    ∃ stack session, Tidy before.session stack session ∧
      Step Program.Declares stack session moment.event moment.stack moment.session := by
  have path := history_isPath analyzerUpdates actionUpdates before
  obtain ⟨_, stack, session, pathBefore, step⟩ := path.exists_step member
  exact ⟨stack, session, pathBefore.tidy idle records, step⟩

/-- After a function was built, there is no callback for it. -/
theorem not_calls_of_builds {built : Moment}
    (isHistory : history analyzer action before = earlier ++ built :: later)
    (builds : built.event.Builds function) : ∀ moment ∈ later, ¬moment.Calls function := by
  have path := history_isPath analyzerUpdates actionUpdates before
  rw [isHistory] at path
  have builtMember : built ∈ history analyzer action before := by simp [isHistory]
  obtain ⟨_, _, tidy, step⟩ :=
    exists_tidy analyzerUpdates actionUpdates idle records builtMember
  have isDefined := tidy.defined_of_builds step builds
  have keeps : ∀ moments stack session, ∀ moment ∈ later,
      Path Program.Declares before.session moments stack session →
        Step Program.Declares stack session moment.event moment.stack moment.session →
          (session.program.entry function).defined = true →
            (moment.session.program.entry function).defined = true := by
    intro _ _ _ _ _ pathBefore step
    exact ((pathBefore.tidy idle records).kept.definesOnly step).defined function
  rintro moment member ⟨callback, pending, rest, isCall, isStack, isFunction, rfl⟩
  have stillDefined := (path.persists isDefined keeps).2 moment member
  obtain ⟨_, _, tidyBefore, call⟩ := exists_tidy analyzerUpdates actionUpdates idle records
    (show moment ∈ history analyzer action before by simp [isHistory, member])
  have awaits := (tidyBefore.step call).awaits pending.request.entry
  rw [isCall, isStack] at call
  have isEntered : pending.isEntered = true := by
    cases call with
    | called isIdle turn => exact Pending.isEntered_busy _ _ _
  rw [isStack, functions_entered isEntered isFunction] at awaits
  obtain ⟨primary, awaits⟩ := awaits List.mem_cons_self
  rw [awaits.undefined] at stillDefined
  cases stillDefined

/-- A request for a function that need not be built changes nothing. -/
theorem unchanged_of_needNotBuild {moment : Moment} {pending : Pending}
    {outcome : Except InstantiationError Unit} (member : moment ∈ history analyzer action before)
    (isAnswer : moment.event = .answered pending outcome)
    (isFunction : pending.request.kind = .functionTemplate)
    (needNot : pending.asked.NeedNotBuild (functions moment.stack) pending.request.entry) :
    outcome = .ok () ∧ pending.calls = [] ∧ moment.session = pending.asked := by
  obtain ⟨_, _, tidy, step⟩ := exists_tidy analyzerUpdates actionUpdates idle records member
  obtain ⟨event, stack, session⟩ := moment
  obtain rfl := isAnswer
  cases step with
  | answered isIdle turn =>
      have outer : Kept before.session stack pending.asked := tidy.kept.outer
      obtain ⟨_, accounts⟩ := outer.exists_accounts
      exact turn.eq_of_needNotBuild isFunction needNot accounts.functions

/-- After the build of a function has failed, the function could still be built and is not
recorded. -/
theorem awaits_of_failed {failed : Moment} (member : failed ∈ history analyzer action before)
    (fails : failed.Fails function) :
    (∃ primary, failed.session.program.Awaits function primary) ∧
      function ∉ failed.session.instantiated.map (·.1) := by
  obtain ⟨_, _, tidy, step⟩ := exists_tidy analyzerUpdates actionUpdates idle records member
  have tidyLater := tidy.step step
  obtain ⟨pending, cause, isAnswer, isFunction, rfl, admits⟩ := fails
  obtain ⟨event, stack, session⟩ := failed
  obtain rfl := isAnswer
  cases step with
  | answered isIdle turn =>
      obtain ⟨primary, awaits⟩ := tidy.awaits_of_fails isFunction admits turn
      refine ⟨⟨primary, awaits⟩, fun recorded => ?_⟩
      obtain ⟨completed, member, isEntry⟩ := List.mem_map.mp recorded
      rcases tidyLater.records completed member with names | isDefined
      · rw [isEntry] at names
        exact awaits.instantiates.isFunction.not_namesClass names
      · rw [isEntry, awaits.undefined] at isDefined
        cases isDefined

/-- What could be built at a moment is tried when it is requested later, unless it was built in
between, an ambiguity is being resolved, or it is being built further up. -/
theorem admits_of_awaits {first again : Moment} {between rest : List Moment} {request : Request}
    {primary : SymbolId}
    (isHistory : history analyzer action before = earlier ++ first :: (between ++ again :: rest))
    (awaits : first.session.program.Awaits request.entry primary)
    (isFunction : request.kind = .functionTemplate) (asks : again.event = .asked request)
    (notBuilt : ∀ moment ∈ between, ¬moment.event.Builds request.entry)
    (unchecked : again.session.checkingAmbiguity = false)
    (idleFunction : request.entry ∉ functions again.stack) : again.session.Admits request := by
  have path := history_isPath analyzerUpdates actionUpdates before
  rw [isHistory, show earlier ++ first :: (between ++ again :: rest) =
    (earlier ++ first :: (between ++ [again])) ++ rest by simp] at path
  obtain ⟨_, _, path⟩ := path.exists_of_append
  have keeps : ∀ moments stack session, ∀ moment ∈ between ++ [again],
      Path Program.Declares before.session moments stack session →
        Step Program.Declares stack session moment.event moment.stack moment.session →
          session.program.Awaits request.entry primary →
            moment.session.program.Awaits request.entry primary := by
    intro _ _ _ moment member pathBefore step awaits
    refine ((pathBefore.tidy idle records).kept.definesOnly step).awaits awaits ?_
    rcases List.mem_append.mp member with inBetween | isLast
    · exact notBuilt moment inBetween
    · rw [List.mem_singleton.mp isLast, asks]
      exact id
  have stillAwaits := (path.persists awaits keeps).2 again (by simp)
  obtain ⟨_, _, tidy, step⟩ := exists_tidy analyzerUpdates actionUpdates idle records
    (show again ∈ history analyzer action before by simp [isHistory])
  have isActive := (tidy.step step).kept.mem_active_iff stillAwaits.instantiates.isFunction
  rw [Session.admits_function_iff isFunction, isActive]
  exact ⟨unchecked, ⟨primary, stillAwaits⟩, idleFunction⟩

/-- Functions are built at most once, whatever the analyzer does, as long as it takes back nothing
and leaves the instances of function templates to be defined here. -/
theorem functions_built_once : BuildsFunctionsOnce (history analyzer action before) where
  nodup moment member := by
    obtain ⟨_, _, tidy, step⟩ := exists_tidy analyzerUpdates actionUpdates idle records member
    exact (tidy.step step).kept.nodup_functions
  final _ _ _ _ isHistory builds :=
    not_calls_of_builds analyzerUpdates actionUpdates idle records isHistory builds
  unchanged _ member _ _ isAnswer isFunction needNot :=
    unchanged_of_needNotBuild analyzerUpdates actionUpdates idle records member isAnswer isFunction
      needNot
  failed moment member function fails := by
    obtain ⟨⟨primary, awaits⟩, unrecorded⟩ :=
      awaits_of_failed analyzerUpdates actionUpdates idle records member fails
    exact ⟨awaits.undefined, unrecorded⟩
  again earlier failed between again rest request isHistory fails asks isFunction notBuilt unchecked
      idleFunction := by
    have member : failed ∈ history analyzer action before := by simp [isHistory]
    obtain ⟨⟨primary, awaits⟩, -⟩ :=
      awaits_of_failed analyzerUpdates actionUpdates idle records member fails
    exact admits_of_awaits analyzerUpdates actionUpdates idle records isHistory awaits isFunction
      asks notBuilt unchecked idleFunction

end Runs

end Activity

namespace Sample

def requestingInt : Request :=
  requestFor .functionTemplate functionOfInt.1

def unbuilt : Compilation Bool where
  session := bounded.session
  analyzerState := false

/-- The first build of the function requests the function once more and fails. -/
def failingOnce : Analyzer Bool :=
  { Analyzer.idle Bool with
    buildFunction := fun _ _ =>
      .inspect fun compilation =>
        if compilation.analyzerState then
          .done (.ok ())
        else
          .update (fun compilation => { compilation with analyzerState := true })
            (.instantiate requestingInt fun _ => .done (.error default)) }

theorem failingOnce_updates : failingOnce.Updates Program.Declares :=
  { Analyzer.idle_updates Bool Program.Declares with
    buildFunction := by
      intro _ _ compilation
      dsimp only
      split
      · trivial
      · exact ⟨fun _ => .refl _, fun _ => trivial⟩ }

def requestingThrice : Action Bool Unit :=
  .instantiate requestingInt fun _ =>
    .instantiate requestingInt fun _ => .instantiate requestingInt .done

theorem requestingThrice_updates : requestingThrice.Updates Program.Declares :=
  fun _ _ _ => trivial

set_option maxRecDepth 100000 in
/-- The second build of the function is the last. -/
theorem built_on_second_request :
    unbuilt.session.IsIdle ∧ unbuilt.session.RecordsBuilt ∧
    (Activity.history failingOnce requestingThrice unbuilt).map
      (fun moment => (functions moment.stack).length) = [0, 1, 1, 1, 1, 1, 0, 0, 1, 1, 0, 0, 0] ∧
    BuildsFunctionsOnce (Activity.history failingOnce requestingThrice unbuilt) := by
  have idle : unbuilt.session.IsIdle := ⟨rfl, rfl⟩
  have records : unbuilt.session.RecordsBuilt := fun _ member => nomatch member
  exact ⟨idle, records, by cbv, Activity.functions_built_once failingOnce_updates
    requestingThrice_updates idle records⟩

end Sample

end CppTemplates
