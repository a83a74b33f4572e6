import CppTemplates.Proofs.Instantiation.DeductionOrder
import CppTemplates.Proofs.Instantiation.Upkeep

/-!
# Scopes from before a request

The engine declares arguments and the names of classes only in scopes that it has opened for the
request.  So as long as the number of scopes does not shrink in callbacks, all the scopes from
before a request are as the analyzer leaves them: no turn of the engine touches them.
-/

namespace CppTemplates

/-- The scopes below a number are the same in two sessions. -/
def Session.KeepsScopes (bound : Nat) (before after : Session) : Prop :=
  ∀ scope : ScopeId, scope.index < bound →
    after.program.scopes.scope scope = before.program.scopes.scope scope

namespace Session

variable {bound : Nat}

namespace KeepsScopes

theorem refl (session : Session) : session.KeepsScopes bound session :=
  fun _ _ => rfl

theorem trans {first second third : Session} (earlier : first.KeepsScopes bound second)
    (later : second.KeepsScopes bound third) : first.KeepsScopes bound third :=
  fun scope below => (later scope below).trans (earlier scope below)

theorem of_sameScopes {before after : Session}
    (same : after.program.scopes = before.program.scopes) : before.KeepsScopes bound after :=
  fun scope _ => by rw [same]

theorem lookupLocal {before after : Session} (keeps : before.KeepsScopes bound after)
    {scope : ScopeId} (below : scope.index < bound) (name : String) :
    after.program.scopes.lookupLocal scope name = before.program.scopes.lookupLocal scope name := by
  rw [ScopeTree.lookupLocal, keeps scope below, ScopeTree.lookupLocal]

end KeepsScopes

theorem Injects.keepsScopes {scope : ScopeId} {before after : Session}
    (injects : before.Injects scope after) (above : bound ≤ scope.index) :
    before.KeepsScopes bound after := by
  intro other below
  apply injects.others
  rintro rfl
  exact Nat.not_lt_of_le above below

section Engine

variable (session : Session)

theorem keepsScopes_record (entity : SymbolId) (location : Location) :
    session.KeepsScopes bound (session.record entity location) :=
  .of_sameScopes (by rw [(program_record session entity location).1])

variable {session}

theorem keepsScopes_completeClass (target : ClassTarget) {inner : DeclContext}
    (above : bound ≤ inner.currentScope.index) :
    session.KeepsScopes bound (session.completeClass target inner) := by
  intro scope below
  have other : scope ≠ inner.currentScope := by
    rintro rfl
    exact Nat.not_lt_of_le above below
  rw [completeClass, Program.scopes_completeInstance, ScopeTree.scope_insert_of_ne other]

variable (inTree : bound ≤ session.program.scopes.scopes.size)
include inTree

theorem keepsScopes_newScope (parent : ScopeId) (kind : ScopeKind) (owner : Option SymbolId) :
    session.KeepsScopes bound { session with program := { session.program with
      scopes := (session.program.scopes.createChild parent kind owner).2 } } :=
  fun _ below => ScopeTree.scope_createChild_of_lt (Nat.lt_of_lt_of_le below inTree) _ _ _

theorem keepsScopes_openSelected (target : ClassTarget) (selection : Selection) :
    session.KeepsScopes bound (session.openSelected target selection).2 := by
  obtain ⟨inScope, -⟩ := session.program.newScopes_openInstance target.entry target.type
  have opens : session.KeepsScopes bound
      (session.openClass selection.trees target.entry target.type) := by
    intro scope below
    have belowSize := Nat.lt_of_lt_of_le below inTree
    rw [openClass, Program.scopes_openInstance, ScopeTree.scope_createChild_of_lt,
      ScopeTree.scope_createChild_of_lt belowSize]
    rw [ScopeTree.size_createChild]
    exact Nat.lt_succ_of_lt belowSize
  have injects := injects_of_injectDeductions inScope selection.parameters selection.deductions
    (session.openClass selection.trees target.entry target.type)
  exact opens.trans (injects.keepsScopes inTree)

theorem keepsScopes_openFunction (entry : SymbolId) :
    session.KeepsScopes bound (session.openFunction entry).2 := by
  unfold openFunction
  split
  · exact .refl session
  · next specialization _ =>
    split
    · let outer := (session.program.entry entry).declContext
      let opened : Session := { session with program := { session.program with
        scopes := (session.program.scopes.newTemplateContext outer).2 } }
      have opens : session.KeepsScopes bound opened := keepsScopes_newScope inTree _ _ _
      let context := (session.program.scopes.newTemplateContext outer).1
      have inScope : context.templateScope = some ⟨session.program.scopes.scopes.size⟩ := rfl
      let pairs := specialization.parameters.zip specialization.arguments
      have injects : opened.Injects ⟨session.program.scopes.scopes.size⟩
          (injectArguments context pairs opened).2 :=
        related_injectArguments Injects.refl (fun _ _ _ => Injects.trans)
          (injects_injectArgument inScope) pairs opened
      exact opens.trans (injects.keepsScopes inTree)
    · exact .refl session

end Engine

end Session

/-- What a stage is to write goes into scopes from a number on. -/
def Stage.IsAbove (bound : Nat) : Stage → Prop
  | .basing _ prepared | .building _ prepared => bound ≤ prepared.inner.currentScope.index
  | .solving _ | .finishing _ | .defining _ _ => True

/-- A turn leaves the scopes below a number alone, and so will what follows on it. -/
def Turn.KeepsScopes (bound : Nat) (latest : Session) : Turn → Prop
  | .call _ called stage => latest.KeepsScopes bound called ∧ stage.IsAbove bound
  | .answer _ after => latest.KeepsScopes bound after

theorem Turn.KeepsScopes.later {bound : Nat} {latest middle : Session} {turn : Turn}
    (earlier : latest.KeepsScopes bound middle) (keeps : turn.KeepsScopes bound middle) :
    turn.KeepsScopes bound latest := by
  cases turn with
  | call _ _ _ => exact ⟨earlier.trans keeps.1, keeps.2⟩
  | answer _ _ => exact earlier.trans keeps

namespace Session

variable {bound : Nat} {session : Session} {request : Request} {target : ClassTarget}
variable {prepared : PreparedClass}

theorem keepsScopes_finishTurn :
    (session.finishTurn request target prepared).KeepsScopes bound session :=
  ⟨.of_sameScopes rfl, trivial⟩

theorem keepsScopes_completeTurn (above : bound ≤ prepared.inner.currentScope.index) :
    (session.completeTurn request target prepared).KeepsScopes bound session := by
  have completes : session.KeepsScopes bound (session.completeClass target prepared.inner) :=
    keepsScopes_completeClass target above
  unfold completeTurn membersTurn
  split
  · exact ⟨completes, above⟩
  · exact .later completes keepsScopes_finishTurn

section Opening

variable (inTree : bound ≤ session.program.scopes.scopes.size)
include inTree

theorem keepsScopes_prepareTurn (solution : Solution) :
    (session.prepareTurn request target solution).KeepsScopes bound session := by
  unfold prepareTurn
  split
  · exact .of_sameScopes rfl
  · next trees parameters _ =>
    have opens := keepsScopes_openSelected inTree target ⟨trees, parameters, solution.deductions⟩
    have above : bound ≤ (session.preparedClass trees target).inner.currentScope.index :=
      Nat.le_trans inTree
        (session.program.size_le_openInstance_currentScope target.entry target.type)
    dsimp only [openSelected] at opens
    split
    · next injected injects =>
      rw [injects] at opens
      exact opens.trans (.of_sameScopes rfl)
    · next injected injects =>
      rw [injects] at opens
      unfold basesTurn
      split
      · exact ⟨opens, above⟩
      · exact .later opens (keepsScopes_completeTurn above)

theorem keepsScopes_defineTurn (entry : SymbolId) (definition : Option NodeId) :
    (session.defineTurn entry definition).KeepsScopes bound session := by
  have opens := keepsScopes_openFunction inTree entry
  unfold defineTurn
  split
  · next opened isOpened =>
    rw [isOpened] at opens
    exact opens.trans (.of_sameScopes rfl)
  · next context opened isOpened =>
    rw [isOpened] at opens
    split
    · exact opens.trans (.of_sameScopes rfl)
    · exact ⟨opens.trans (.of_sameScopes rfl), trivial⟩

theorem keepsScopes_firstTurn (request : Request) :
    (session.firstTurn request).KeepsScopes bound session := by
  have entered {entity : SymbolId} {location : Location} {later : Session}
      (enters : session.enter entity location = .ok later) :
      session.KeepsScopes bound later ∧ bound ≤ later.program.scopes.scopes.size := by
    obtain ⟨-, rfl⟩ := enter_eq_ok enters
    exact ⟨.refl _, inTree⟩
  unfold firstTurn
  split
  · split
    · exact KeepsScopes.refl session
    · unfold enterClass
      split
      · exact KeepsScopes.refl session
      · next enters => exact ⟨(entered enters).1, trivial⟩
  · split
    · exact KeepsScopes.refl session
    · exact KeepsScopes.refl session
    · unfold enterFunction
      split
      · exact KeepsScopes.refl session
      · next enters =>
        obtain ⟨same, inTreeLater⟩ := entered enters
        exact .later same (keepsScopes_defineTurn inTreeLater _ _)

end Opening

end Session

/-- After a reply, too, a turn leaves the scopes from before the request alone. -/
theorem Stage.keepsScopes_nextTurn {bound : Nat} (request : Request) {stage : Stage}
    (above : stage.IsAbove bound) (reply : Reply) {ended : Session}
    (inTree : bound ≤ ended.program.scopes.scopes.size) :
    (stage.nextTurn request reply ended).KeepsScopes bound ended := by
  cases reply with
  | error cause => cases stage <;> exact Session.KeepsScopes.of_sameScopes rfl
  | ok solution =>
      cases stage with
      | solving target =>
          cases solution with
          | none => exact Session.KeepsScopes.of_sameScopes rfl
          | some solution => exact Session.keepsScopes_prepareTurn inTree solution
      | basing target prepared => exact Session.keepsScopes_completeTurn above
      | building target prepared => exact Session.keepsScopes_finishTurn
      | finishing target =>
          exact (ended.keepsScopes_record target.entry request.location).trans (.of_sameScopes rfl)
      | defining entry untested =>
          have settled : ended.KeepsScopes bound
              ((ended.putBack untested .testExpression).define entry) := .of_sameScopes rfl
          exact (settled.trans (Session.keepsScopes_record _ _ _)).trans (.of_sameScopes rfl)

/-- There were so many scopes when a request was made and after each of its callbacks. -/
structure Pending.HasScopes (pending : Pending) (bound : Nat) : Prop where
  asked : bound ≤ pending.asked.program.scopes.scopes.size
  ended : ∀ call ∈ pending.calls, bound ≤ call.ended.program.scopes.scopes.size

theorem Pending.HasScopes.busy {bound : Nat} {pending : Pending} (has : pending.HasScopes bound)
    (callback : Callback) (called : Session) : (pending.busy callback called).HasScopes bound :=
  ⟨has.asked, has.ended⟩

theorem Pending.HasScopes.idle {bound : Nat} {pending : Pending} (has : pending.HasScopes bound)
    {call : Call} (atEnd : bound ≤ call.ended.program.scopes.scopes.size) :
    (pending.idle call).HasScopes bound :=
  ⟨has.asked, List.forall_mem_append.mpr ⟨has.ended, List.forall_mem_singleton.mpr atEnd⟩⟩

/-- No turn of the engine touches a scope from before the request. -/
theorem Pending.keepsScopes_turn {bound : Nat} {pending : Pending} {turn : Turn}
    (dialogue : Dialogue pending.request pending.asked pending.calls turn)
    (hasScopes : pending.HasScopes bound) : turn.KeepsScopes bound pending.latest := by
  obtain ⟨request, asked, calls, current⟩ := pending
  dsimp only at dialogue
  induction dialogue with
  | first => exact Session.keepsScopes_firstTurn hasScopes.asked request
  | @next calls callback called stage earlier reply ended ih =>
      obtain ⟨-, above⟩ := ih ⟨hasScopes.asked, fun call member =>
        hasScopes.ended call (List.mem_append_left _ member)⟩
      rw [Pending.latest_of_calls _ rfl]
      exact Stage.keepsScopes_nextTurn request above reply
        (hasScopes.ended ⟨callback, called, reply, ended⟩ (by simp))

end CppTemplates
