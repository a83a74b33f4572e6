import CppTemplates.Proofs.Instantiation.Contracts
import CppTemplates.Proofs.Instantiation.History

/-!
# What is written in a history are steps

While the analyzer acts, everything that it writes down is a step.  A request leads to the first
turn of the engine, and the end of a callback to the turn that follows on the reply.  That the
engine takes these turns is shown elsewhere; here it is a property of how requests are carried out.
-/

namespace CppTemplates

variable {σ α : Type}

/-- An action changes programs by itself only as allowed. -/
def Action.Updates (allowed : Program → Program → Prop) : Action σ α → Prop
  | .done _ => True
  | .update change next =>
      (∀ compilation, allowed compilation.session.program (change compilation).session.program) ∧
        next.Updates allowed
  | .inspect next => ∀ compilation, (next compilation).Updates allowed
  | .instantiate _ next => ∀ outcome, (next outcome).Updates allowed
  | .withSwitch _ work next => work.Updates allowed ∧ ∀ outcome, (next outcome).Updates allowed

structure Analyzer.Updates (analyzer : Analyzer σ) (allowed : Program → Program → Prop) :
    Prop where
  solveClassTemplate : ∀ context template requested location,
    (analyzer.solveClassTemplate context template requested location).Updates allowed
  buildBaseClause : ∀ clause type context,
    (analyzer.buildBaseClause clause type context).Updates allowed
  buildMembers : ∀ members type context,
    (analyzer.buildMembers members type context).Updates allowed
  buildFunction : ∀ definition context,
    (analyzer.buildFunction definition context).Updates allowed
  finishClass : ∀ type context location,
    (analyzer.finishClass type context location).Updates allowed

theorem Analyzer.idle_updates (σ : Type) (allowed : Program → Program → Prop) :
    (Analyzer.idle σ).Updates allowed where
  solveClassTemplate _ _ _ _ _ := trivial
  buildBaseClause _ _ _ := trivial
  buildMembers _ _ _ := trivial
  buildFunction _ _ := trivial
  finishClass _ _ _ := trivial

def anyChange (_ _ : Program) : Prop :=
  True

theorem Action.updates_anyChange (action : Action σ α) : action.Updates anyChange := by
  induction action with
  | done outcome => exact trivial
  | update change next ih => exact ⟨fun _ => trivial, ih⟩
  | inspect next ih => exact ih
  | instantiate request next ih => exact ih
  | withSwitch switch work next workIh nextIh => exact ⟨workIh, nextIh⟩

theorem Analyzer.updates_anyChange (analyzer : Analyzer σ) : analyzer.Updates anyChange where
  solveClassTemplate _ _ _ _ := Action.updates_anyChange _
  buildBaseClause _ _ _ := Action.updates_anyChange _
  buildMembers _ _ _ := Action.updates_anyChange _
  buildFunction _ _ := Action.updates_anyChange _
  finishClass _ _ _ := Action.updates_anyChange _

/-- Two sessions are at the same level: as many instantiations are in progress, of as many as may
be. -/
structure Session.SameLevel (before after : Session) : Prop where
  limits : after.limits = before.limits
  depth : after.depth = before.depth

namespace Session.SameLevel

theorem refl (session : Session) : session.SameLevel session :=
  ⟨rfl, rfl⟩

theorem trans {first second third : Session} (earlier : first.SameLevel second)
    (later : second.SameLevel third) : first.SameLevel third :=
  ⟨later.limits.trans earlier.limits, later.depth.trans earlier.depth⟩

theorem of_works {before after : Session} (works : before.Works after) :
    before.SameLevel after := by
  rw [works.books]
  exact ⟨rfl, rfl⟩

theorem record (session : Session) (entity : SymbolId) (location : Location) :
    session.SameLevel (session.record entity location) := by
  unfold Session.record
  split <;> exact ⟨rfl, rfl⟩

end Session.SameLevel

/-- The room for nested instantiations lasts up to the limit.  Without any room there is nothing to
be said. -/
def Session.HasRoom (session : Session) : Option Nat → Prop
  | some room => session.limits.maxDepth ≤ session.depth + room
  | none => False

theorem Session.SameLevel.hasRoom {before after : Session} (same : before.SameLevel after)
    {room : Option Nat} (hasRoom : before.HasRoom room) : after.HasRoom room := by
  cases room with
  | none => exact hasRoom
  | some room =>
      unfold Session.HasRoom at hasRoom ⊢
      rw [same.limits, same.depth]
      exact hasRoom

/-- With room for the nested instantiations, entering one leaves room for those nested in it.  No
instantiation is entered at the limit. -/
def Session.Nests (outer inner : Option Nat) : Prop :=
  ∀ ⦃session entered : Session⦄ ⦃entity : SymbolId⦄ ⦃location : Location⦄, session.HasRoom outer →
    session.enter entity location = .ok entered → entered.HasRoom inner

theorem Session.nests_succ (room : Nat) : Session.Nests (some (room + 1)) (some room) := by
  intro session entered entity location hasRoom enters
  obtain ⟨-, rfl⟩ := Session.enter_eq_ok enters
  simp only [Session.HasRoom] at hasRoom ⊢
  omega

theorem Session.nests_zero : Session.Nests (some 0) none := by
  intro session entered entity location hasRoom enters
  obtain ⟨below, -⟩ := Session.enter_eq_ok enters
  simp only [Session.HasRoom] at hasRoom ⊢
  omega

namespace Compilation

/-- So far the history is a path, and it has come to the present. -/
def IsAt (allowed : Program → Program → Prop) (start : Session) (stack : List Frame)
    (compilation : Compilation (σ × History)) : Prop :=
  compilation.history.stack = stack ∧
    Path allowed start compilation.history.moments stack compilation.session

/-- The engine has a turn in the dialogue about the innermost request.  The history has come to the
last moment before that. -/
def Engaged (allowed : Program → Program → Prop) (start : Session) (rest : List Frame)
    (request : Request) (asked : Session) (turn : Turn) (compilation : Compilation (σ × History)) :
    Prop :=
  ∃ pending : Pending, pending.request = request ∧ pending.asked = asked ∧
    pending.current = none ∧ Dialogue request asked pending.calls turn ∧
      compilation.history.stack = .request pending :: rest ∧
        Path allowed start compilation.history.moments (.request pending :: rest) pending.latest

variable {allowed : Program → Program → Prop} {start asked : Session} {rest stack : List Frame}
variable {request : Request} {turn : Turn} {before after : Compilation (σ × History)}

/-- What the engine does by itself is not written down. -/
theorem Engaged.of_same (engaged : before.Engaged allowed start rest request asked turn)
    (same : after.analyzerState = before.analyzerState) :
    after.Engaged allowed start rest request asked turn := by
  unfold Engaged history at engaged ⊢
  rw [same]
  exact engaged

theorem IsAt.notes_update (isAt : before.IsAt allowed start stack) {program : Program}
    {tree : SyntaxTree} (isAllowed : allowed before.session.program program)
    (sameHistory : after.history = before.history)
    (session : after.session = { before.session with program, tree }) :
    (after.write History.noteUpdate).IsAt allowed start stack := by
  obtain ⟨sameStack, path⟩ := isAt
  refine ⟨(congrArg History.stack sameHistory).trans sameStack, ?_⟩
  have step : Step allowed stack before.session .updated stack
      { before.session with program, tree } :=
    .updated isAllowed
  rw [← session] at step
  have moments : (after.write History.noteUpdate).history.moments =
      before.history.moments ++ [⟨.updated, stack, after.session⟩] := by
    simp only [write, withHistory, history, History.noteUpdate, History.note]
    rw [show after.analyzerState.2 = before.analyzerState.2 from sameHistory,
      show before.analyzerState.2.stack = stack from sameStack]
  rw [moments]
  exact path.step step

theorem IsAt.notes_turn (isAt : before.IsAt allowed start stack) (switch : Switch) :
    ((before.mapSession (·.turn switch)).write fun history =>
      history.noteTurn switch before.session).IsAt allowed start
        (.switch switch before.session :: stack) := by
  obtain ⟨rfl, path⟩ := isAt
  exact ⟨rfl, path.step (.turned switch)⟩

theorem IsAt.notes_restored {switch : Switch} {saved : Session}
    (isAt : before.IsAt allowed start (.switch switch saved :: stack)) :
    ((before.mapSession (·.putBack saved switch)).write fun history =>
      history.noteRestored switch).IsAt allowed start stack := by
  obtain ⟨sameStack, path⟩ := isAt
  have sameTail : before.history.stack.tail = stack := by rw [sameStack]; rfl
  refine ⟨sameTail, ?_⟩
  have step := path.step .restored
  rw [← sameTail] at step ⊢
  exact step

theorem IsAt.notes_request (isAt : before.IsAt allowed start stack) (request : Request) :
    (before.write fun history => history.noteRequest request).Engaged allowed start stack request
      before.session (before.session.firstTurn request) := by
  obtain ⟨rfl, path⟩ := isAt
  exact ⟨{ request, asked := before.session }, rfl, rfl, rfl, .first, rfl,
    path.step (.asked request)⟩

theorem Engaged.notes_answer {outcome : Except InstantiationError Unit}
    (engaged : before.Engaged allowed start rest request asked (.answer outcome before.session)) :
    (before.write fun history => history.noteAnswer outcome).IsAt allowed start rest := by
  obtain ⟨pending, rfl, rfl, isIdle, turn, sameStack, path⟩ := engaged
  have noted : before.history.noteAnswer outcome before.session =
      before.history.note (.answered pending outcome) rest before.session := by
    simp only [History.noteAnswer, sameStack]
  refine ⟨congrArg History.stack noted, ?_⟩
  rw [show (before.write fun history => history.noteAnswer outcome).history.moments = _ from
    congrArg History.moments noted]
  exact path.step (.answered isIdle turn)

theorem IsAt.notes_reply {pending : Pending} {callback : Callback} {called : Session}
    {stage : Stage}
    (isAt : before.IsAt allowed start (.request (pending.busy callback called) :: rest))
    (turn : Dialogue pending.request pending.asked pending.calls (.call callback called stage))
    (reply : Reply) :
    (before.write fun history => history.noteReply reply).Engaged allowed start rest
      pending.request pending.asked (stage.nextTurn pending.request reply before.session) := by
  obtain ⟨sameStack, path⟩ := isAt
  have noted : before.history.noteReply reply before.session =
      before.history.note (.replied reply)
        (.request (pending.idle ⟨callback, called, reply, before.session⟩) :: rest)
        before.session := by
    simp only [History.noteReply, sameStack]
    rfl
  refine ⟨pending.idle ⟨callback, called, reply, before.session⟩, rfl, rfl, rfl,
    turn.next reply before.session, congrArg History.stack noted, ?_⟩
  rw [show (before.write fun history => history.noteReply reply).history.moments = _ from
    congrArg History.moments noted, Pending.latest_idle]
  exact path.step (.replied rfl reply before.session)

end Compilation

namespace Activity

variable {allowed : Program → Program → Prop} {start : Session} {rest : List Frame}
variable {request : Request} {room : Option Nat}

/-- Requests are carried out in dialogue with the analyzer, as long as there is room. -/
def Converses (allowed : Program → Program → Prop) (start : Session) (room : Option Nat)
    (perform : Request → Activity (σ × History) Unit) : Prop :=
  ∀ request rest before, before.Engaged allowed start rest request before.session
      (before.session.firstTurn request) → before.session.HasRoom room →
    (perform request).Satisfies before fun outcome after =>
      after.Engaged allowed start rest request before.session (.answer outcome after.session) ∧
        before.session.SameLevel after.session

section Actions

variable {τ : Type} {perform : Request → Activity τ Unit} {before : Compilation τ}
variable {goal : Except InstantiationError α → Compilation τ → Prop}

theorem satisfies_update {change : Compilation τ → Compilation τ} {next : Action τ α}
    (goesOn : (next.run perform).Satisfies (before.adopt (change before)) goal) :
    ((Action.update change next).run perform).Satisfies before goal :=
  goesOn

theorem satisfies_inspect {next : Compilation τ → Action τ α}
    (goesOn : ((next before).run perform).Satisfies before goal) :
    ((Action.inspect next).run perform).Satisfies before goal :=
  goesOn

/-- Writing the history changes nothing else. -/
theorem satisfies_write {perform : Request → Activity (σ × History) Unit}
    {before : Compilation (σ × History)}
    {goal : Except InstantiationError α → Compilation (σ × History) → Prop}
    {note : History → Session → History} {next : Action (σ × History) α}
    (goesOn : (next.run perform).Satisfies (before.write note) goal) :
    ((Action.update (·.write note) next).run perform).Satisfies before goal :=
  goesOn

theorem satisfies_instantiate {next : Except InstantiationError Unit → Action τ α}
    (performs : (perform request).Satisfies before fun outcome answered =>
      ((next outcome).run perform).Satisfies answered goal) :
    ((Action.instantiate request next).run perform).Satisfies before goal :=
  satisfies_bind (satisfies_outcome performs)

theorem satisfies_turned {switch : Switch} {work : Action τ α}
    {next : Except InstantiationError α → Action τ α}
    (works : (work.run perform).Satisfies (before.mapSession (·.turn switch)) fun outcome worked =>
      ((next outcome).run perform).Satisfies
        (worked.mapSession (·.putBack before.session switch)) goal) :
    ((Action.withSwitch switch work next).run perform).Satisfies before goal :=
  satisfies_bind (satisfies_outcome (satisfies_withSwitch works))

end Actions

/-- The history stays a path while an action runs, and what went on before goes on after it. -/
theorem satisfies_run {perform : Request → Activity (σ × History) Unit}
    (converses : Converses allowed start room perform) {action : Action σ α}
    (updates : action.Updates allowed)
    (close : History → Except InstantiationError α → Session → History) {stack : List Frame}
    {before : Compilation (σ × History)} (isAt : before.IsAt allowed start stack)
    (hasRoom : before.session.HasRoom room) :
    ((action.recorded close).run perform).Satisfies before fun outcome after =>
      ∃ middle : Compilation (σ × History), middle.IsAt allowed start stack ∧
        before.session.SameLevel middle.session ∧
          after = middle.write fun history => close history outcome := by
  -- The path that is noted grows with each operation, and what follows is noted behind it.
  induction action generalizing close stack before with
  | done outcome =>
      apply satisfies_write
      exact satisfies_ofExcept ⟨before, isAt, .refl _, rfl⟩
  | update change next ih =>
      obtain ⟨isAllowed, updatesNext⟩ := updates
      let changed := before.adopt ((change before.unlogged).withHistory before.history)
      have isAtChanged : (changed.write History.noteUpdate).IsAt allowed start stack :=
        isAt.notes_update (isAllowed before.unlogged) rfl rfl
      have sameLevel : before.session.SameLevel changed.session := ⟨rfl, rfl⟩
      apply satisfies_update
      apply satisfies_write
      apply satisfies_mono
        (ih updatesNext close isAtChanged (sameLevel.hasRoom hasRoom))
      rintro _ after ⟨middle, isAtMiddle, sameLater, rfl⟩
      exact ⟨middle, isAtMiddle, sameLevel.trans sameLater, rfl⟩
  | inspect next ih => exact ih before.unlogged (updates before.unlogged) close isAt hasRoom
  | instantiate request next ih =>
      apply satisfies_write
      apply satisfies_instantiate
      let asking := before.write fun history => history.noteRequest request
      apply satisfies_mono (converses request stack asking (isAt.notes_request request) hasRoom)
      rintro outcome answered ⟨engaged, sameLevel⟩
      apply satisfies_write
      apply satisfies_mono
        (ih outcome (updates outcome) close engaged.notes_answer (sameLevel.hasRoom hasRoom))
      rintro _ after ⟨middle, isAtMiddle, sameLater, rfl⟩
      exact ⟨middle, isAtMiddle, sameLevel.trans sameLater, rfl⟩
  | withSwitch switch work next workIh nextIh =>
      obtain ⟨updatesWork, updatesNext⟩ := updates
      have turnedRoom : (before.session.turn switch).HasRoom room := by
        cases switch <;> exact hasRoom
      apply satisfies_inspect
      apply satisfies_turned
      apply satisfies_write
      apply satisfies_mono (workIh updatesWork (fun history _ _ => history)
        (isAt.notes_turn switch) turnedRoom)
      rintro outcome worked ⟨middle, isAtMiddle, sameLevel, rfl⟩
      have sameAfter : before.session.SameLevel
          (middle.session.putBack before.session switch) := by
        cases switch <;> exact ⟨sameLevel.limits, sameLevel.depth⟩
      apply satisfies_write
      apply satisfies_mono (nextIh outcome (updatesNext outcome) close isAtMiddle.notes_restored
        (sameAfter.hasRoom hasRoom))
      rintro _ after ⟨last, isAtLast, sameLater, rfl⟩
      exact ⟨last, isAtLast, sameAfter.trans sameLater, rfl⟩

/-- After a callback the engine has the turn that follows the reply. -/
theorem satisfies_asCallback {perform : Request → Activity (σ × History) Unit}
    (converses : Converses allowed start room perform) {action : Action σ α}
    (updates : action.Updates allowed) (solution : α → Option Solution) {asked : Session}
    {callback : Callback} {stage : Stage} {before : Compilation (σ × History)}
    (engaged : before.Engaged allowed start rest request asked
      (.call callback before.session stage))
    (hasRoom : before.session.HasRoom room) :
    ((action.asCallback callback solution).run perform).Satisfies before fun outcome after =>
      after.Engaged allowed start rest request asked
        (stage.nextTurn request (outcome.map solution) after.session) ∧
          before.session.SameLevel after.session := by
  obtain ⟨pending, rfl, rfl, isIdle, turn, sameStack, path⟩ := engaged
  have noted : before.history.noteCallback callback before.session =
      before.history.note (.called callback)
        (.request (pending.busy callback before.session) :: rest) before.session := by
    simp only [History.noteCallback, sameStack]
  have isAt : (before.write fun history => history.noteCallback callback).IsAt allowed start
      (.request (pending.busy callback before.session) :: rest) := by
    refine ⟨congrArg History.stack noted, ?_⟩
    rw [show (before.write fun history => history.noteCallback callback).history.moments = _ from
      congrArg History.moments noted]
    exact path.step (.called isIdle turn)
  apply satisfies_write
  apply satisfies_mono (satisfies_run converses updates
    (fun history outcome => history.noteReply (outcome.map solution)) isAt hasRoom)
  rintro outcome after ⟨middle, isAtMiddle, sameLevel, rfl⟩
  exact ⟨isAtMiddle.notes_reply turn _, sameLevel⟩

end Activity

end CppTemplates
