import Mathlib
import CppTemplates.Proofs.Instantiation.Books
import CppTemplates.Proofs.Instantiation.HistoryPath

/-!
# The discipline of sessions

Instantiations nest to any depth, and each may fail anywhere.  Whatever happens in between, when a
request is answered the books are as they were when it was made.  This holds because the stack of
what goes on always accounts for the books: whatever goes on has changed them in a known way and
has the session from before at hand.

The list of active entities is not restored like the rest, since a class that is requested again
while its bases are recorded is taken off the list with the inner instantiation.  No function can
be entered twice, so functions are on the list exactly while they are being built.
-/

namespace CppTemplates

namespace Frame

def outside : Frame → Session
  | .request pending => pending.asked
  | .switch _ saved => saved

def inside : Frame → Session
  | .request pending =>
      if pending.isEntered then pending.asked.inside pending.request.kind else pending.asked
  | .switch turned saved => saved.turn turned

def entity? : Frame → Option SymbolId
  | .request pending =>
      if pending.isEntered then some (pending.asked.subject pending.request) else none
  | .switch _ _ => none

def function? : Frame → Option SymbolId
  | .request pending =>
      if pending.isEntered ∧ pending.request.kind = .functionTemplate then
        some pending.request.entry
      else
        none
  | .switch _ _ => none

/-- An instantiation was entered by rights. -/
def IsFair : Frame → Prop
  | .request pending =>
      pending.isEntered → ∃ stage, pending.asked.Covers pending.request stage
  | .switch _ _ => True

theorem program_inside (frame : Frame) : frame.inside.program = frame.outside.program := by
  cases frame with
  | request pending =>
      unfold inside outside
      dsimp only
      split
      · cases pending.request.kind <;> rfl
      · rfl
  | switch turned saved => cases turned <;> rfl

end Frame

/-- The instantiations in progress, innermost first. -/
def entities (stack : List Frame) : List SymbolId :=
  stack.filterMap Frame.entity?

/-- The functions that are being built, innermost first. -/
def functions (stack : List Frame) : List SymbolId :=
  stack.filterMap Frame.function?

section Lists

variable {pending : Pending} {rest : List Frame} {function : SymbolId}

@[simp]
theorem entities_switch (turned : Switch) (saved : Session) :
    entities (.switch turned saved :: rest) = entities rest := rfl

theorem entities_entered (isEntered : pending.isEntered = true) :
    entities (.request pending :: rest) =
      pending.asked.subject pending.request :: entities rest := by
  simp [entities, Frame.entity?, isEntered]

theorem entities_unentered (isEntered : pending.isEntered = false) :
    entities (.request pending :: rest) = entities rest := by
  simp [entities, Frame.entity?, isEntered]

theorem functions_unentered (isEntered : pending.isEntered = false) :
    functions (.request pending :: rest) = functions rest := by
  simp [functions, Frame.function?, isEntered]

theorem functions_class (isClass : pending.request.kind = .classTemplate) :
    functions (.request pending :: rest) = functions rest := by
  simp [functions, Frame.function?, isClass]

theorem functions_entered (isEntered : pending.isEntered = true)
    (isFunction : pending.request.kind = .functionTemplate) :
    functions (.request pending :: rest) = pending.request.entry :: functions rest := by
  simp [functions, Frame.function?, isEntered, isFunction]

theorem functions_congr {next : Pending} (isEntered : pending.isEntered = true)
    (isEnteredNext : next.isEntered = true) (sameRequest : next.request = pending.request) :
    functions (.request next :: rest) = functions (.request pending :: rest) := by
  have sameFunction : (Frame.request next).function? = (Frame.request pending).function? := by
    simp [Frame.function?, isEntered, isEnteredNext, sameRequest]
  rw [functions, List.filterMap_cons, sameFunction, ← List.filterMap_cons, functions]

theorem mem_functions_cons (building : function ∈ functions rest) (frame : Frame) :
    function ∈ functions (frame :: rest) := by
  obtain ⟨builder, member, builds⟩ := List.mem_filterMap.mp building
  exact List.mem_filterMap.mpr ⟨builder, List.mem_cons_of_mem _ member, builds⟩

end Lists

/-- A stack accounts for the books of a session, given the books inside what goes on innermost. -/
structure Accounts (inside : Session) (stack : List Frame) (session : Session) : Prop where
  books : inside.SameBooks session
  retains : inside.program.Retains session.program
  active : ∀ entity ∈ session.active, entity ∈ entities stack
  functions : ∀ function ∈ functions stack, function ∈ session.active

/-- A stack accounts for the books of a session, and so does each rest of it for those of the
session from before. -/
inductive Kept (start : Session) : List Frame → Session → Prop
  | start {session : Session} (accounts : Accounts start [] session) : Kept start [] session
  | inside {frame : Frame} {rest : List Frame} {session : Session}
      (outer : Kept start rest frame.outside) (isFair : frame.IsFair)
      (accounts : Accounts frame.inside (frame :: rest) session) :
      Kept start (frame :: rest) session

namespace Kept

variable {start before after : Session} {stack rest : List Frame} {frame : Frame}

theorem exists_accounts (kept : Kept start stack before) :
    ∃ inside, Accounts inside stack before := by
  cases kept with
  | start accounts => exact ⟨_, accounts⟩
  | inside _ _ accounts => exact ⟨_, accounts⟩

/-- A stack accounts for all that comes after with the same books. -/
theorem resume (kept : Kept start stack before) (books : before.SameBooks after)
    (retains : before.program.Retains after.program)
    (active : ∀ entity ∈ after.active, entity ∈ entities stack)
    (functions : ∀ function ∈ functions stack, function ∈ after.active) :
    Kept start stack after := by
  cases kept with
  | start accounts =>
      exact .start ⟨accounts.books.trans books, accounts.retains.trans retains, active, functions⟩
  | inside outer isFair accounts =>
      exact .inside outer isFair
        ⟨accounts.books.trans books, accounts.retains.trans retains, active, functions⟩

theorem goesOn (kept : Kept start stack before) (books : before.SameBooks after)
    (retains : before.program.Retains after.program) (active : after.active = before.active) :
    Kept start stack after := by
  obtain ⟨_, accounts⟩ := kept.exists_accounts
  refine kept.resume books retains ?_ ?_
  · rw [active]
    exact accounts.active
  · rw [active]
    exact accounts.functions

theorem outer (kept : Kept start (frame :: rest) before) : Kept start rest frame.outside := by
  cases kept with
  | inside outer _ _ => exact outer

theorem accounts (kept : Kept start (frame :: rest) before) :
    Accounts frame.inside (frame :: rest) before := by
  cases kept with
  | inside _ _ accounts => exact accounts

/-- Of everything that goes on, the session from before is accounted for, and what was declared in
it is declared now. -/
theorem of_mem (kept : Kept start stack before) (member : frame ∈ stack) :
    frame.IsFair ∧ frame.outside.program.Retains before.program := by
  induction kept with
  | start accounts => cases member
  | inside outer isFair accounts ih =>
      have retains := accounts.retains
      rw [Frame.program_inside] at retains
      rcases List.mem_cons.mp member with rfl | later
      · exact ⟨isFair, retains⟩
      · obtain ⟨fair, retainsOuter⟩ := ih later
        exact ⟨fair, retainsOuter.trans retains⟩

/-- What is being built is an instance of a function template other than its generic definition. -/
theorem instantiates (kept : Kept start stack before) {function : SymbolId}
    (building : function ∈ functions stack) :
    ∃ primary, function ≠ primary ∧ before.program.Instantiates function primary := by
  obtain ⟨frame, member, isBuilt⟩ := List.mem_filterMap.mp building
  obtain ⟨isFair, retains⟩ := kept.of_mem member
  cases frame with
  | switch _ _ => cases isBuilt
  | request pending =>
      simp only [Frame.function?, Option.ite_none_right_eq_some, Option.some.injEq] at isBuilt
      obtain ⟨⟨entered, ofFunction⟩, rfl⟩ := isBuilt
      obtain ⟨stage, covers⟩ := isFair entered
      obtain ⟨-, ⟨primary, awaits⟩, -⟩ := (Session.admits_function_iff ofFunction).mp covers.admits
      exact ⟨primary, awaits.other, awaits.instantiates.retained retains⟩

variable {pending : Pending}

/-- A request that can be entered is for no function that is being built. -/
theorem subject_not_mem_functions (kept : Kept start stack before) {request : Request}
    (admits : before.Admits request) : before.subject request ∉ functions stack := by
  intro building
  cases isKind : request.kind with
  | classTemplate =>
      obtain ⟨_, -, instantiates⟩ := kept.instantiates building
      exact instantiates.isFunction.not_namesClass (admits.class isKind)
  | functionTemplate =>
      obtain ⟨inside, accounts⟩ := kept.exists_accounts
      rw [Session.subject_of_function isKind] at building
      obtain ⟨-, -, idle⟩ := (Session.admits_function_iff isKind).mp admits
      exact idle (accounts.functions _ building)

/-- Only the entity that is instantiated can be a further function that is being built. -/
theorem mem_functions_request {function : SymbolId}
    (building : function ∈ functions (.request pending :: rest)) :
    function = pending.asked.subject pending.request ∨ function ∈ functions rest := by
  cases isKind : pending.request.kind with
  | classTemplate => rw [functions_class isKind] at building; exact .inr building
  | functionTemplate =>
      cases isEntered : pending.isEntered with
      | false => rw [functions_unentered isEntered] at building; exact .inr building
      | true =>
          rw [functions_entered isEntered isKind] at building
          rw [Session.subject_of_function isKind]
          exact List.mem_cons.mp building

theorem enters {callback : Callback} {called : Session} {stage : Stage}
    (kept : Kept start rest pending.asked) (isEntered : pending.isEntered = true)
    (starts : pending.asked.Starts pending.request callback called stage) :
    Kept start (.request pending :: rest) called := by
  obtain ⟨books, retains, active⟩ := starts.changes
  obtain ⟨_, accounts⟩ := kept.exists_accounts
  refine .inside kept (fun _ => ⟨stage, starts.covers⟩) ⟨?_, ?_, ?_, ?_⟩
  · simpa [Frame.inside, isEntered] using books
  · rw [Frame.program_inside]
    exact retains
  · intro entity isActive
    rw [active, List.mem_insert_iff] at isActive
    rw [entities_entered isEntered, List.mem_cons]
    exact isActive.imp_right (accounts.active entity)
  · intro function building
    rw [active, List.mem_insert_iff]
    exact (mem_functions_request building).imp_right (accounts.functions function)

theorem leaves {after : Session} (kept : Kept start (.request pending :: rest) before)
    (isEntered : pending.isEntered = true) (admits : pending.asked.Admits pending.request)
    (books : pending.asked.SameBooks after) (retains : before.program.Retains after.program)
    (active : after.active = before.active.filter (· ≠ pending.asked.subject pending.request)) :
    Kept start rest after := by
  have accounts := kept.accounts
  have retainsInside := accounts.retains
  rw [Frame.program_inside] at retainsInside
  have outer : Kept start rest pending.asked := kept.outer
  refine outer.resume books (retainsInside.trans retains) ?_ ?_
  · intro entity isActive
    rw [active, List.mem_filter, decide_eq_true_eq] at isActive
    have inProgress := accounts.active entity isActive.1
    rw [entities_entered isEntered, List.mem_cons] at inProgress
    exact inProgress.resolve_left isActive.2
  · intro function building
    rw [active, List.mem_filter, decide_eq_true_eq]
    refine ⟨accounts.functions function ?_, ?_⟩
    · exact mem_functions_cons building _
    · rintro rfl
      exact outer.subject_not_mem_functions admits building

/-- One of the callbacks of a request has ended or the next has begun. -/
theorem replace {next : Pending} (kept : Kept start (.request pending :: rest) before)
    (isEntered : pending.isEntered = true) (isEnteredNext : next.isEntered = true)
    (sameRequest : next.request = pending.request) (sameAsked : next.asked = pending.asked) :
    Kept start (.request next :: rest) before := by
  have fair := (kept.of_mem List.mem_cons_self).1
  have accounts := kept.accounts
  have outer : Kept start rest pending.asked := kept.outer
  have inside : (Frame.request next).inside = (Frame.request pending).inside := by
    simp [Frame.inside, isEntered, isEnteredNext, sameRequest, sameAsked]
  have sameEntities : entities (.request next :: rest) = entities (.request pending :: rest) := by
    rw [entities_entered isEntered, entities_entered isEnteredNext, sameRequest, sameAsked]
  have sameFunctions : functions (.request next :: rest) =
      functions (.request pending :: rest) := by
    have sameFunction : (Frame.request next).function? = (Frame.request pending).function? := by
      simp [Frame.function?, isEntered, isEnteredNext, sameRequest]
    rw [functions, List.filterMap_cons, sameFunction, ← List.filterMap_cons, functions]
  rw [← sameAsked] at outer
  refine .inside outer (fun _ => ?_) ⟨inside ▸ accounts.books, inside ▸ accounts.retains,
    sameEntities ▸ accounts.active, sameFunctions ▸ accounts.functions⟩
  rw [sameAsked, sameRequest]
  exact fair isEntered

theorem resumes {last : Session} {target : ClassTarget} {reply : Reply}
    {called : Session} {stage : Stage} (kept : Kept start stack last)
    (resumes : Stage.Resumes last target reply called stage) : Kept start stack called := by
  cases resumes with
  | works _ _ works => exact kept.goesOn works.sameBooks works.retains works.active_eq
  | defines _ works =>
      exact (kept.goesOn works.sameBooks works.retains works.active_eq).goesOn
        (Session.sameBooks_define _ _) (Session.retains_define _ _) rfl

theorem turned (kept : Kept start stack before) (switch : Switch) :
    Kept start (.switch switch before :: stack) (before.turn switch) := by
  obtain ⟨_, accounts⟩ := kept.exists_accounts
  have active : (before.turn switch).active = before.active := by cases switch <;> rfl
  refine .inside kept trivial ⟨.refl _, .refl _, ?_, ?_⟩
  · rw [active]
    exact accounts.active
  · rw [active]
    exact accounts.functions

theorem restored {switch : Switch} {saved : Session}
    (kept : Kept start (.switch switch saved :: rest) before) :
    Kept start rest (before.putBack saved switch) := by
  have outer : Kept start rest saved := kept.outer
  obtain ⟨books, retains, active, functions⟩ := kept.accounts
  rw [Frame.program_inside] at retains
  cases switch with
  | checkingAmbiguity =>
      exact outer.resume ⟨⟨books.limits, books.depth⟩, rfl, books.testExpression⟩ retains active
        functions
  | testExpression =>
      exact outer.resume ⟨⟨books.limits, books.depth⟩, books.checkingAmbiguity, rfl⟩ retains active
        functions

theorem called {callback : Callback} {called : Session} {stage : Stage}
    (kept : Kept start (.request pending :: rest) pending.latest)
    (turn : Dialogue pending.request pending.asked pending.calls (.call callback called stage)) :
    Kept start (.request (pending.busy callback called) :: rest) called := by
  have isBusy := pending.isEntered_busy callback called
  rcases turn.call_inv with ⟨_, starts⟩ | ⟨_, last, _, _, calls, _, _, resumes⟩
  · have outer : Kept start rest (pending.busy callback called).asked := kept.outer
    exact outer.enters isBusy starts
  · rw [pending.latest_of_calls calls] at kept
    exact (kept.resumes resumes).replace (pending.isEntered_of_calls calls) isBusy rfl rfl

theorem answered {outcome : Except InstantiationError Unit}
    (kept : Kept start (.request pending :: rest) pending.latest)
    (turn : Dialogue pending.request pending.asked pending.calls (.answer outcome after)) :
    Kept start rest after ∧ pending.asked.SameBooks after := by
  rcases turn.answer_inv with ⟨_, declines⟩ | ⟨_, last, _, calls, dialogue, closes⟩
  · obtain ⟨books, retains, active⟩ := declines.changes
    have outer : Kept start rest pending.asked := kept.outer
    exact ⟨outer.goesOn books retains active, books⟩
  · rw [pending.latest_of_calls calls] at kept
    have isEntered := pending.isEntered_of_calls calls
    have inside := kept.accounts.books
    simp only [Frame.inside, isEntered, if_true] at inside
    obtain ⟨books, retains, active⟩ := Stage.Closes.changes dialogue.covers closes inside
    exact ⟨kept.leaves isEntered dialogue.covers.admits books retains active, books⟩

theorem step {later : List Frame} {event : Event} (kept : Kept start stack before)
    (step : Step Program.Retains stack before event later after) : Kept start later after := by
  cases step with
  | updated isAllowed => exact kept.goesOn ⟨⟨rfl, rfl⟩, rfl, rfl⟩ isAllowed rfl
  | turned switch => exact kept.turned switch
  | restored => exact kept.restored
  | asked request =>
      obtain ⟨_, accounts⟩ := kept.exists_accounts
      exact .inside kept (fun isEntered => by cases isEntered) ⟨.refl _, .refl _,
        accounts.active, accounts.functions⟩
  | called isIdle turn => exact kept.called turn
  | replied isBusy reply ended =>
      exact kept.replace (Pending.isEntered_of_current _ isBusy) (Pending.isEntered_idle _ _) rfl
        rfl
  | answered isIdle turn => exact (kept.answered turn).1

/-- The depth is the number of instantiations in progress. -/
theorem depth_eq (kept : Kept start stack before) (idle : start.depth = 0) :
    before.depth = (entities stack).length := by
  induction kept with
  | start accounts => exact accounts.books.depth.trans idle
  | @inside frame rest session outer isFair accounts ih =>
      rw [accounts.books.depth]
      cases frame with
      | switch turned saved =>
          rw [entities_switch, ← ih]
          cases turned <;> rfl
      | request pending =>
          cases isEntered : pending.isEntered with
          | false =>
              rw [entities_unentered isEntered, ← ih]
              simp [Frame.inside, Frame.outside, isEntered]
          | true =>
              rw [entities_entered isEntered, List.length_cons, ← ih]
              simp only [Frame.inside, Frame.outside, isEntered, if_true]
              cases pending.request.kind <;> rfl

theorem limits_inside (frame : Frame) : frame.inside.limits = frame.outside.limits := by
  cases frame with
  | switch turned saved => cases turned <;> rfl
  | request pending =>
      unfold Frame.inside Frame.outside
      dsimp only
      split
      · cases pending.request.kind <;> rfl
      · rfl

theorem limits_eq (kept : Kept start stack before) : before.limits = start.limits := by
  induction kept with
  | start accounts => exact accounts.books.limits
  | inside outer isFair accounts ih => rw [accounts.books.limits, limits_inside, ih]

/-- The depth does not exceed the limit, since no instantiation is entered there. -/
theorem depth_le (kept : Kept start stack before) (idle : start.depth = 0) :
    before.depth ≤ start.limits.maxDepth := by
  induction kept with
  | start accounts =>
      rw [accounts.books.depth, idle]
      exact Nat.zero_le _
  | @inside frame rest session outer isFair accounts ih =>
      rw [accounts.books.depth]
      cases frame with
      | switch turned saved => cases turned <;> exact ih
      | request pending =>
          cases isEntered : pending.isEntered with
          | false => simpa [Frame.inside, Frame.outside, isEntered] using ih
          | true =>
              obtain ⟨stage, covers⟩ := isFair isEntered
              obtain ⟨entered, enters⟩ := covers.enter_eq_ok
              have below := (Session.enter_eq_ok enters).1
              rw [show pending.asked.limits = start.limits from outer.limits_eq] at below
              simp only [Frame.inside, isEntered, if_true]
              cases pending.request.kind <;> exact below

/-- A function is active exactly while it is being built. -/
theorem mem_active_iff (kept : Kept start stack before) {function : SymbolId}
    (isFunction : before.program.IsFunction function) :
    function ∈ before.active ↔ function ∈ functions stack := by
  obtain ⟨_, accounts⟩ := kept.exists_accounts
  refine ⟨fun isActive => ?_, accounts.functions function⟩
  obtain ⟨frame, member, isEntity⟩ := List.mem_filterMap.mp (accounts.active function isActive)
  obtain ⟨isFair, retains⟩ := kept.of_mem member
  cases frame with
  | switch _ _ => cases isEntity
  | request pending =>
      simp only [Frame.entity?, Option.ite_none_right_eq_some, Option.some.injEq] at isEntity
      obtain ⟨isEntered, rfl⟩ := isEntity
      obtain ⟨stage, covers⟩ := isFair isEntered
      cases isKind : pending.request.kind with
      | classTemplate =>
          exact absurd ((covers.admits.class isKind).retained retains) isFunction.not_namesClass
      | functionTemplate =>
          refine List.mem_filterMap.mpr ⟨_, member, ?_⟩
          simp [Frame.function?, isEntered, isKind, Session.subject_of_function isKind]

end Kept

/-- A request that gets as far as entering is turned away at the limit. -/
theorem Session.firstTurn_at_limit {session : Session} {request : Request}
    (admits : session.Admits request) (atLimit : session.limits.maxDepth ≤ session.depth) :
    session.firstTurn request =
      .answer (.error (.depthExceeded (session.program.symbolName (session.subject request))
        session.limits.maxDepth request.location)) session := by
  unfold Admits at admits
  unfold firstTurn subject
  cases isKind : request.kind with
  | classTemplate =>
      rw [isKind] at admits
      obtain ⟨target, resolves⟩ := admits
      simp only [resolves, enterClass, enter, if_pos atLimit]
  | functionTemplate =>
      rw [isKind] at admits
      obtain ⟨primary, resolves⟩ := admits
      simp only [resolves, enterFunction, enter, if_pos atLimit]

/-- No instantiation is in progress. -/
structure Session.IsIdle (session : Session) : Prop where
  depth : session.depth = 0
  active : session.active = []

/-- The discipline of sessions at a moment of a run. -/
structure Moment.IsDisciplined (limits : InstantiationLimits) (moment : Moment) : Prop where
  /-- When a request is answered, the books are as they were when it was made. -/
  restores : ∀ pending outcome, moment.event = .answered pending outcome →
    pending.asked.SameBooks moment.session
  /-- A request that gets as far as entering an instantiation at the limit is turned away. -/
  refuses : ∀ pending outcome, moment.event = .answered pending outcome →
    pending.asked.Admits pending.request → limits.maxDepth ≤ pending.asked.depth →
      pending.calls = [] ∧ moment.session = pending.asked ∧
        outcome = .error (.depthExceeded
          (pending.asked.program.symbolName (pending.asked.subject pending.request))
          limits.maxDepth pending.request.location)
  /-- The depth is the number of instantiations in progress. -/
  depth_eq : moment.session.depth = (entities moment.stack).length
  depth_le : moment.session.depth ≤ limits.maxDepth
  /-- At every callback an instantiation is in progress. -/
  depth_pos : ∀ callback, moment.event = .called callback → 1 ≤ moment.session.depth
  /-- A function is active exactly while it is being built. -/
  active : ∀ function, moment.session.program.IsFunction function →
    (function ∈ moment.session.active ↔ function ∈ functions moment.stack)

theorem Path.kept {start session : Session} {moments : List Moment} {stack : List Frame}
    (path : Path Program.Retains start moments stack session) (idle : start.IsIdle) :
    Kept start stack session := by
  induction path with
  | start =>
      refine .start ⟨.refl _, .refl _, ?_, ?_⟩
      · rw [idle.active]
        exact fun _ isActive => isActive
      · exact fun _ building => nomatch building
  | step path step ih => exact ih.step step

theorem Kept.isDisciplined {start before after : Session} {stack later : List Frame} {event : Event}
    (kept : Kept start stack before) (idle : start.depth = 0)
    (step : Step Program.Retains stack before event later after) :
    Moment.IsDisciplined start.limits ⟨event, later, after⟩ := by
  have keptLater := kept.step step
  refine ⟨?_, ?_, keptLater.depth_eq idle, keptLater.depth_le idle, ?_, fun _ =>
    keptLater.mem_active_iff⟩
  · rintro pending outcome rfl
    cases step with
    | answered isIdle turn => exact (kept.answered turn).2
  · rintro pending outcome rfl admits atLimit
    cases step with
    | answered isIdle turn =>
        have outer : Kept start later pending.asked := kept.outer
        rw [← outer.limits_eq] at atLimit ⊢
        obtain ⟨noCalls, same⟩ :=
          Dialogue.eq_of_firstTurn_answer (Session.firstTurn_at_limit admits atLimit) turn
        cases same
        exact ⟨noCalls, rfl, rfl⟩
  · rintro callback rfl
    rw [keptLater.depth_eq idle]
    cases step with
    | called isIdle turn =>
        rw [entities_entered (Pending.isEntered_busy _ _ _)]
        exact Nat.le_add_left _ _

namespace Activity

variable {σ α : Type} {analyzer : Analyzer σ} {action : Action σ α}

/-- Nested runs are disciplined, whatever the analyzer does, as long as it takes back nothing that
was declared.  In the end the books are as they were at the beginning. -/
theorem session_discipline (analyzerUpdates : analyzer.Updates Program.Retains)
    (actionUpdates : action.Updates Program.Retains) {before : Compilation σ}
    (idle : before.session.IsIdle) :
    (∀ moment ∈ history analyzer action before, moment.IsDisciplined before.session.limits) ∧
      before.session.SameBooks ((act analyzer action).final before).session := by
  have path := history_isPath analyzerUpdates actionUpdates before
  constructor
  · intro moment member
    obtain ⟨earlier, stack, session, earlierPath, step⟩ := path.exists_step member
    exact (earlierPath.kept idle).isDisciplined idle.depth step
  · cases path.kept idle with
    | start accounts => exact accounts.books

end Activity

namespace Sample

def char : TypeId × Program := start.newType (.builtin .char)

def classTemplate : SymbolId × Program :=
  char.2.declareClassTemplate ScopeTree.globalContext "A" [.type "T"] { members := some ⟨0⟩ }

def functionTemplate : SymbolId × Program :=
  classTemplate.2.declareFunctionTemplate ScopeTree.globalContext "f" [.type "T"] (some ⟨1⟩)

def classOfInt : SymbolId × Program :=
  (functionTemplate.2.classInstance? classTemplate.1 [.type int]).getD default

def functionOfInt : SymbolId × Program :=
  (classOfInt.2.functionInstance? functionTemplate.1 [.type int]).getD default

def functionOfChar : SymbolId × Program :=
  (functionOfInt.2.functionInstance? functionTemplate.1 [.type char.1]).getD default

def requestFor (kind : RequestKind) (entry : SymbolId) : Request where
  kind
  entry
  context := ScopeTree.globalContext
  location := .builtin

def bounded : Compilation Unit where
  session :=
    { program := functionOfChar.2
      tree := ((SyntaxTree.empty.addIntegerLiteral "1").2.addIntegerLiteral "2").2
      limits := { maxDepth := 2 } }
  analyzerState := ()

/-- The members of the class need the function for `int`, whose definition needs itself and the
function for `char`. -/
def nesting : Analyzer Unit :=
  { Analyzer.idle Unit with
    buildMembers := fun _ _ _ =>
      .instantiate (requestFor .functionTemplate functionOfInt.1) .done
    buildFunction := fun _ _ =>
      .instantiate (requestFor .functionTemplate functionOfInt.1) fun _ =>
        .instantiate (requestFor .functionTemplate functionOfChar.1) .done }

theorem nesting_updates (allowed : Program → Program → Prop) : nesting.Updates allowed :=
  { Analyzer.idle_updates Unit allowed with
    buildMembers := fun _ _ _ _ => trivial
    buildFunction := fun _ _ _ _ => trivial }

def instantiating : Action Unit Unit :=
  .instantiate (requestFor .classTemplate classOfInt.1) .done

theorem instantiating_updates (allowed : Program → Program → Prop) :
    instantiating.Updates allowed :=
  fun _ => trivial

set_option maxRecDepth 100000 in
/-- Inside the class and the function for `int` there is no room for the function for `char`.  It
is turned away, the error ends everything, and the books are in order all the time. -/
theorem nesting_is_disciplined :
    bounded.session.IsIdle ∧
    (Activity.history nesting instantiating bounded).map (fun moment => moment.session.depth) =
      [0, 1, 1, 1, 1, 2, 2, 2, 2, 2, 2, 1, 1, 0] ∧
    (∀ moment ∈ Activity.history nesting instantiating bounded,
      moment.IsDisciplined { maxDepth := 2 }) ∧
    bounded.session.SameBooks ((Activity.act nesting instantiating).final bounded).session := by
  have idle : bounded.session.IsIdle := ⟨rfl, rfl⟩
  refine ⟨idle, by cbv, ?_⟩
  exact Activity.session_discipline (nesting_updates Program.Retains)
    (instantiating_updates Program.Retains) idle

end Sample

end CppTemplates
