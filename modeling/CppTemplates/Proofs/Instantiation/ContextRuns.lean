import CppTemplates.Proofs.Instantiation.ArgumentBinding
import CppTemplates.Proofs.Instantiation.ContextOperations
import CppTemplates.Proofs.Instantiation.Discipline
import CppTemplates.Proofs.Instantiation.HistoryPath

/-!
# Contexts in a run

The engine derives the contexts of its callbacks from what symbols store, opens scopes for them and
keeps some of them until a later callback.  The analyzer does what it likes with the contexts that
it knows.  If it gives operations and requests only contexts that have been handed out, the program
is coherent at every moment of a run, and the context of every callback has been handed out, too.
-/

namespace CppTemplates

def Callback.context : Callback → DeclContext
  | .solveClassTemplate context _ _ _ | .buildBaseClause _ _ context
  | .buildMembers _ _ context | .buildFunction _ context | .finishClass _ context _ => context

/-- The contexts that are kept for a class have been handed out. -/
structure PreparedClass.IsSituated (prepared : PreparedClass) (scopes : ScopeTree) : Prop where
  declaredIn : scopes.HandsOut prepared.declaredIn
  inner : scopes.HandsOut prepared.inner

/-- The contexts that the engine keeps until the callback ends have been handed out. -/
def Stage.IsSituated (scopes : ScopeTree) : Stage → Prop
  | .basing _ prepared | .building _ prepared => prepared.IsSituated scopes
  | _ => True

/-- After a turn the program stores contexts as it should, and so does the engine. -/
def Turn.SituatedSince (start : Program) : Turn → Prop
  | .call callback session stage =>
      session.program.SituatedSince start ∧
        session.program.scopes.HandsOut callback.context ∧
          stage.IsSituated session.program.scopes
  | .answer _ session => session.program.SituatedSince start

theorem PreparedClass.IsSituated.later {prepared : PreparedClass} {program after : Program}
    (isSituated : prepared.IsSituated program.scopes) (since : after.SituatedSince program) :
    prepared.IsSituated after.scopes :=
  ⟨since.handsOut isSituated.declaredIn, since.handsOut isSituated.inner⟩

theorem Stage.IsSituated.later {stage : Stage} {program after : Program}
    (isSituated : stage.IsSituated program.scopes) (since : after.SituatedSince program) :
    stage.IsSituated after.scopes := by
  cases stage with
  | basing target prepared => exact PreparedClass.IsSituated.later isSituated since
  | building target prepared => exact PreparedClass.IsSituated.later isSituated since
  | _ => trivial

namespace Session

variable {session : Session} {start : Program} {context : DeclContext} {request : Request}
variable {target : ClassTarget} {prepared : PreparedClass}

theorem situated_injectDeductions (situated : session.program.SituatedSince start)
    (given : session.program.scopes.HandsOut context) (parameters : List TemplateParameter)
    (deductions : List Deduction) :
    (session.injectDeductions context parameters deductions).2.program.SituatedSince start := by
  induction deductions generalizing session with
  | nil => exact situated
  | cons deduction rest ih =>
      unfold injectDeductions
      split
      · split
        · exact situated
        · split
          · exact situated
          · next injects =>
            have injected := situated.since.injectArgument given injects
            exact ih (injected.trans situated) (injected.handsOut given)
      · exact situated

theorem situated_injectArguments (situated : session.program.SituatedSince start)
    (given : session.program.scopes.HandsOut context)
    (pairs : List (TemplateParameter × TemplateArgument)) :
    (session.injectArguments context pairs).2.program.SituatedSince start := by
  induction pairs generalizing session with
  | nil => exact situated
  | cons pair rest ih =>
      unfold injectArguments
      split
      · exact situated
      · next injects =>
        have injected := situated.since.injectArgument given injects
        exact ih (injected.trans situated) (injected.handsOut given)

theorem situated_openFunction (situated : session.program.SituatedSince start)
    (entry : SymbolId) :
    (session.openFunction entry).2.program.SituatedSince start ∧
      ∀ context, (session.openFunction entry).1 = .ok context →
        (session.openFunction entry).2.program.scopes.HandsOut context := by
  suffices opened : (session.openFunction entry).2.program.SituatedSince start ∧
      ∀ context, (session.openFunction entry).1 = .ok context →
        (session.openFunction entry).2.program.scopes.HandsOut
          (session.program.scopes.newTemplateContext (session.program.entry entry).declContext).1 by
    refine ⟨opened.1, fun context opens => ?_⟩
    rw [context_of_openFunction opens]
    exact opened.2 context opens
  unfold openFunction
  split
  · exact ⟨situated, by rintro _ ⟨⟩⟩
  · next specialization _ =>
    split
    · have given := situated.declContext entry
      have opens := situated.since.opensScope given .templateScope none
      have handed := ScopeTree.handsOut_newTemplateContext given
      have injected := @situated_injectArguments { session with program.scopes := _ } _ _
        opens.since handed (specialization.parameters.zip specialization.arguments)
      exact ⟨(injected.trans opens).trans situated, fun _ _ => injected.handsOut handed⟩
    · exact ⟨situated, by rintro _ ⟨⟩⟩

theorem situated_finishTurn (situated : session.program.SituatedSince start)
    (isPrepared : prepared.IsSituated session.program.scopes) :
    (session.finishTurn request target prepared).SituatedSince start := by
  refine ⟨?_, isPrepared.declaredIn, trivial⟩
  exact situated.modifyEntry target.entry fun _ => rfl

theorem situated_membersTurn (situated : session.program.SituatedSince start)
    (isPrepared : prepared.IsSituated session.program.scopes) :
    (session.membersTurn request target prepared).SituatedSince start := by
  unfold membersTurn
  split
  · exact ⟨situated, isPrepared.inner.marked _ _, isPrepared⟩
  · exact situated_finishTurn situated isPrepared

theorem situated_completeTurn (situated : session.program.SituatedSince start)
    (isPrepared : prepared.IsSituated session.program.scopes) :
    (session.completeTurn request target prepared).SituatedSince start := by
  have completed : (session.completeClass target prepared.inner).program.SituatedSince
      session.program := situated.since.completeInstance target.entry target.type prepared.inner
  exact situated_membersTurn (completed.trans situated) (isPrepared.later completed)

theorem situated_basesTurn (situated : session.program.SituatedSince start)
    (isPrepared : prepared.IsSituated session.program.scopes) (clause : Option NodeId) :
    (session.basesTurn request target clause prepared).SituatedSince start := by
  unfold basesTurn
  split
  · exact ⟨situated, isPrepared.inner, isPrepared⟩
  · exact situated_completeTurn situated isPrepared

/-- The contexts of a class are those that opening it has handed out. -/
theorem situated_prepareTurn (situated : session.program.SituatedSince start)
    (solution : Solution) :
    (session.prepareTurn request target solution).SituatedSince start := by
  unfold prepareTurn
  split
  · exact situated
  · next trees parameters _ =>
    obtain ⟨opened, forArguments, forMembers⟩ :=
      situated.since.openInstance target.entry target.type
    have opens : (session.openClass trees target.entry target.type).program.SituatedSince
        session.program := opened
    have injected := situated_injectDeductions opens.since forArguments parameters
      solution.deductions
    have isPrepared : (session.preparedClass trees target).IsSituated
        (session.openClass trees target.entry target.type).program.scopes :=
      ⟨opens.handsOut (situated.declContext target.entry), forMembers⟩
    split
    · next injects =>
      rw [injects] at injected
      exact (injected.trans opens).trans situated
    · next injects =>
      rw [injects] at injected
      exact situated_basesTurn ((injected.trans opens).trans situated)
        (isPrepared.later injected) _

theorem situated_defineTurn (situated : session.program.SituatedSince start) (entry : SymbolId)
    (definition : Option NodeId) : (session.defineTurn entry definition).SituatedSince start := by
  obtain ⟨opened, handed⟩ := situated_openFunction situated entry
  unfold defineTurn
  split
  · next opens =>
    rw [opens] at opened
    exact opened
  · next context _ opens =>
    rw [opens] at opened handed
    split
    · exact opened
    · exact ⟨opened, (handed context rfl).marked _ _, trivial⟩

/-- The first callback is given the context of the request or one that is derived from the context
of the requested function. -/
theorem situated_firstTurn (situated : session.program.SituatedSince start)
    (given : session.program.scopes.HandsOut request.context) :
    (session.firstTurn request).SituatedSince start := by
  unfold firstTurn
  split
  · split
    · exact situated
    · unfold enterClass
      split
      · exact situated
      · next enters =>
        obtain ⟨-, rfl⟩ := enter_eq_ok enters
        exact ⟨situated, given, trivial⟩
  · split
    · exact situated
    · exact situated
    · unfold enterFunction
      split
      · exact situated
      · next entered enters =>
        have situatedInside : entered.program.SituatedSince start :=
          (Activity.program_of_enter enters).1 ▸ situated
        exact situated_defineTurn situatedInside _ _

end Session

/-- After a callback the engine goes on with the contexts that it has kept. -/
theorem Stage.situated_nextTurn {stage : Stage} {ended : Session} {start : Program}
    (situated : ended.program.SituatedSince start)
    (isKept : stage.IsSituated ended.program.scopes) (request : Request) (reply : Reply) :
    (stage.nextTurn request reply ended).SituatedSince start := by
  cases reply with
  | error cause => cases stage <;> exact situated
  | ok solution =>
      cases stage with
      | solving target =>
          cases solution with
          | none => exact situated
          | some solution => exact Session.situated_prepareTurn situated solution
      | basing target prepared => exact Session.situated_completeTurn situated isKept
      | building target prepared => exact Session.situated_finishTurn situated isKept
      | finishing target =>
          have recorded := (Session.program_record ended target.entry request.location).1
          exact (show (ended.record target.entry request.location).program.SituatedSince start from
            recorded ▸ situated)
      | defining entry untested =>
          have defined : ((ended.putBack untested .testExpression).define entry
              ).program.SituatedSince start := situated.modifyEntry entry fun _ => rfl
          have recorded := (Session.program_record
            ((ended.putBack untested .testExpression).define entry) entry request.location).1
          exact (show (((ended.putBack untested .testExpression).define entry).record entry
            request.location).program.SituatedSince start from recorded ▸ defined)

/-- In the course of a request, every turn goes on from where the last callback has ended, if every
callback has left the contexts in order. -/
theorem Dialogue.situated {request : Request} {asked : Session} {calls : List Call} {turn : Turn}
    (dialogue : Dialogue request asked calls turn) (situated : asked.program.IsSituated)
    (given : asked.program.scopes.HandsOut request.context)
    (kept : ∀ call ∈ calls, call.ended.program.SituatedSince call.called.program) :
    turn.SituatedSince ({ request, asked, calls : Pending }.latest.program) := by
  induction dialogue with
  | first => exact Session.situated_firstTurn situated.since given
  | @next calls callback called stage earlier reply ended ih =>
      obtain ⟨-, -, isKept⟩ := ih fun call member => kept call (List.mem_append_left _ member)
      -- what the engine has kept over this callback was handed out before it began
      have since := kept ⟨callback, called, reply, ended⟩ (by simp)
      rw [Pending.latest_of_calls _ rfl]
      exact Stage.situated_nextTurn since.since (Stage.IsSituated.later isKept since) request reply

/-- The contexts that a request in progress has to do with are in order: those of the program that
it was made in, its own, and those that the analyzer stores during callbacks. -/
structure Pending.IsSituated (now : Program) (pending : Pending) : Prop where
  asked : pending.asked.program.IsSituated
  context : pending.asked.program.scopes.HandsOut pending.request.context
  calls : ∀ call ∈ pending.calls, call.ended.program.SituatedSince call.called.program
  current : ∀ callback called, pending.current = some (callback, called) →
    now.SituatedSince called.program

def Frame.IsSituated (now : Program) : Frame → Prop
  | .request pending => pending.IsSituated now
  | .switch _ _ => True

theorem Frame.IsSituated.later {frame : Frame} {now after : Program}
    (isSituated : frame.IsSituated now) (since : after.SituatedSince now) :
    frame.IsSituated after := by
  cases frame with
  | switch turned saved => trivial
  | request pending =>
      exact ⟨isSituated.asked, isSituated.context, isSituated.calls,
        fun callback called isBusy => since.trans (isSituated.current callback called isBusy)⟩

/-- What the analyzer does by itself at a moment, it does with contexts that have been handed
out. -/
def Moment.UsesHandedOut (before : Session) (moment : Moment) : Prop :=
  match moment.event with
  | .updated =>
      Relation.ReflTransGen Program.ContextOperation before.program moment.session.program
  | .asked request => before.program.scopes.HandsOut request.context
  | _ => True

/-- All that the analyzer does by itself, it does with contexts that have been handed out. -/
inductive UsesHandedOut : Session → List Moment → Prop
  | nil {before : Session} : UsesHandedOut before []
  | cons {before : Session} {moment : Moment} {rest : List Moment}
      (uses : moment.UsesHandedOut before) (further : UsesHandedOut moment.session rest) :
      UsesHandedOut before (moment :: rest)

theorem UsesHandedOut.snoc_inv {start : Session} {moments : List Moment} {moment : Moment}
    (uses : UsesHandedOut start (moments ++ [moment])) :
    UsesHandedOut start moments ∧ moment.UsesHandedOut (lastSession start moments) := by
  induction moments generalizing start with
  | nil =>
      cases uses with
      | cons usesLast _ => exact ⟨.nil, usesLast⟩
  | cons first rest ih =>
      cases uses with
      | cons usesFirst further =>
          obtain ⟨usesRest, usesLast⟩ := ih further
          have same : lastSession start (first :: rest) = lastSession first.session rest := by
            cases rest <;> simp [lastSession, List.getLast?_cons]
          exact ⟨.cons usesFirst usesRest, same ▸ usesLast⟩

/-- A step leaves the contexts in order, and hands out what the analyzer is called with. -/
theorem Step.situated {stack later : List Frame} {before after : Session} {event : Event}
    (step : Step anyChange stack before event later after)
    (uses : Moment.UsesHandedOut before ⟨event, later, after⟩)
    (situated : before.program.IsSituated)
    (frames : ∀ frame ∈ stack, frame.IsSituated before.program) :
    after.program.SituatedSince before.program ∧
      (∀ frame ∈ later, frame.IsSituated after.program) ∧
      ∀ callback, event = .called callback →
        after.program.scopes.HandsOut callback.context := by
  cases step with
  | updated _ =>
      have since := situated.since.operations uses
      exact ⟨since, fun frame member => (frames frame member).later since, by rintro _ ⟨⟩⟩
  | turned switch =>
      have same : (before.turn switch).program = before.program := by cases switch <;> rfl
      rw [same]
      exact ⟨situated.since, List.forall_mem_cons.mpr ⟨trivial, frames⟩, by rintro _ ⟨⟩⟩
  | @restored switch saved _ _ =>
      have same : (before.putBack saved switch).program = before.program := by
        cases switch <;> rfl
      rw [same]
      exact ⟨situated.since, (List.forall_mem_cons.mp frames).2, by rintro _ ⟨⟩⟩
  | asked request =>
      have asks : Pending.IsSituated before.program { request, asked := before } :=
        ⟨situated, uses, by rintro _ ⟨⟩, by rintro _ _ ⟨⟩⟩
      exact ⟨situated.since, List.forall_mem_cons.mpr ⟨asks, frames⟩, by rintro _ ⟨⟩⟩
  | @called pending rest callback _ stage isIdle turn =>
      obtain ⟨ofPending, ofRest⟩ := List.forall_mem_cons.mp frames
      obtain ⟨asked, context, calls, -⟩ := ofPending
      obtain ⟨since, handed, -⟩ := turn.situated asked context calls
      -- The callback is given a context that the engine has opened in this very turn.
      have busy : (pending.busy callback after).IsSituated after.program := by
        refine ⟨asked, context, calls, ?_⟩
        rintro _ _ ⟨⟩
        exact since.since
      refine ⟨since, List.forall_mem_cons.mpr ⟨busy, ?_⟩, ?_⟩
      · exact fun frame member => (ofRest frame member).later since
      · rintro _ ⟨⟩
        exact handed
  | @replied pending rest callback inside isBusy reply _ =>
      obtain ⟨ofPending, ofRest⟩ := List.forall_mem_cons.mp frames
      obtain ⟨asked, context, calls, current⟩ := ofPending
      have idle : (pending.idle ⟨callback, inside, reply, before⟩).IsSituated before.program := by
        refine ⟨asked, context, List.forall_mem_append.mpr ⟨calls, ?_⟩, by rintro _ _ ⟨⟩⟩
        exact List.forall_mem_singleton.mpr (current callback inside isBusy)
      exact ⟨situated.since, List.forall_mem_cons.mpr ⟨idle, ofRest⟩, by rintro _ ⟨⟩⟩
  | @answered pending rest outcome _ isIdle turn =>
      obtain ⟨ofPending, ofRest⟩ := List.forall_mem_cons.mp frames
      have since := turn.situated ofPending.asked ofPending.context ofPending.calls
      exact ⟨since, fun frame member => (ofRest frame member).later since, by rintro _ ⟨⟩⟩

/-- At a moment the contexts of the program are in order, and so is the one that the analyzer is
called with. -/
structure Moment.IsSituated (moment : Moment) : Prop where
  program : moment.session.program.IsSituated
  callback : ∀ callback, moment.event = .called callback →
    moment.session.program.scopes.HandsOut callback.context

/-- Steps leave the contexts in order all the way. -/
theorem Path.situated {start session : Session} {moments : List Moment} {stack : List Frame}
    (path : Path anyChange start moments stack session) (uses : UsesHandedOut start moments)
    (situated : start.program.IsSituated) :
    session.program.IsSituated ∧ (∀ frame ∈ stack, frame.IsSituated session.program) ∧
      ∀ moment ∈ moments, moment.IsSituated := by
  -- by induction on the steps, with what the frames of the stack have kept since they began
  induction path with
  | start => exact ⟨situated, by rintro _ ⟨⟩, by rintro _ ⟨⟩⟩
  | step path step ih =>
      obtain ⟨usesBefore, usesNow⟩ := uses.snoc_inv
      rw [← path.eq_lastSession] at usesNow
      obtain ⟨situatedBefore, frames, moments⟩ := ih usesBefore
      obtain ⟨since, framesNow, callback⟩ := step.situated usesNow situatedBefore frames
      refine ⟨since.toIsSituated, framesNow, List.forall_mem_append.mpr ⟨moments, ?_⟩⟩
      exact List.forall_mem_singleton.mpr ⟨since.toIsSituated, callback⟩

/-- A program whose scopes are nested up to the global one and whose contexts are coherent, those
that it stores and those that it hands out, now and next, and in which lookup finds what the nearest
scope declares. -/
structure Program.IsCoherent (program : Program) : Prop extends program.IsSituated where
  ends : ∀ scope : ScopeId, scope.index < program.scopes.scopes.size →
    program.scopes.Encloses ScopeTree.global scope
  coherent : ∀ context, program.scopes.HandsOut context → program.scopes.IsCoherent context
  opens : ∀ context inner after, program.scopes.HandsOut context →
    program.Opens context inner after → after.scopes.HandsOut inner
  lookup : ∀ name scope, program.scopes.FindsNearest name scope

theorem Program.IsSituated.isCoherent {program : Program} (situated : program.IsSituated) :
    program.IsCoherent where
  toIsSituated := situated
  ends := situated.nested.global_encloses
  coherent _ given := given.isCoherent situated.nested
  opens _ _ _ given opens := (situated.since.opens given opens).2
  lookup := situated.nested.findsNearest

namespace Activity

variable {σ α : Type} {analyzer : Analyzer σ} {action : Action σ α} {before : Compilation σ}

/-- Starting from the empty program, scopes and contexts are coherent at every moment, however
operations and instantiations follow on each other and whatever the analyzer does during callbacks,
as long as it uses no contexts but those that have been handed out.  What the engine passes to the
analyzer has been handed out. -/
theorem contexts_stay_coherent (isEmpty : before.session.program = {})
    (uses : UsesHandedOut before.session (history analyzer action before)) :
    (∀ moment ∈ history analyzer action before,
      moment.session.program.IsCoherent ∧
      ∀ callback, moment.event = .called callback →
        moment.session.program.scopes.HandsOut callback.context) ∧
    ((act analyzer action).final before).session.program.IsCoherent := by
  have situated : before.session.program.IsSituated := by
    rw [isEmpty]
    exact Program.isSituated_empty
  have path : Path anyChange before.session (history analyzer action before) [] _ :=
    history_isPath analyzer.updates_anyChange action.updates_anyChange before
  obtain ⟨atEnd, -, moments⟩ := path.situated uses situated
  refine ⟨fun moment member => ?_, atEnd.isCoherent⟩
  exact ⟨(moments moment member).program.isCoherent, (moments moment member).callback⟩

end Activity

namespace Sample

def spaceN : (SymbolId × DeclContext) × Program :=
  start.declareNamespace ScopeTree.globalContext "n"

/-- The class template `n::A`. -/
def templateInN : SymbolId × Program :=
  spaceN.2.declareClassTemplate spaceN.1.2 "A" [.type "T"] { members := some ⟨0⟩ }

def classInN : SymbolId × Program :=
  (templateInN.2.classInstance? templateInN.1 [.type int]).getD default

def fromNothing : Compilation Unit where
  session := { program := {}, tree := SyntaxTree.empty }
  analyzerState := ()

/-- The members of a class are one variable, which is declared in the context that is passed. -/
def declaringX : Analyzer Unit :=
  { Analyzer.idle Unit with
    buildMembers := fun _ _ context =>
      .update (fun compilation =>
          { compilation with session.program :=
              (compilation.session.program.declareVariable context "x" int none).2 })
        (.done (.ok ())) }

def declaringThenBuilding : Action Unit Unit :=
  .update (fun compilation => { compilation with session.program := classInN.2 })
    (.instantiate (requestFor .classTemplate classInN.1) .done)

def withX : Program :=
  ((Activity.act declaringX declaringThenBuilding).final fromNothing).session.program

/-- The context of `x`: the members of the class are in the scope of its arguments, and that is in
the namespace. -/
def contextOfX : DeclContext where
  globalScope := ScopeTree.global
  namespaceScope := ⟨1⟩
  currentScope := ⟨4⟩
  templateScope := some ⟨3⟩
  classScope := some ⟨4⟩
  flags := { instantiating := true }

theorem classInN_reached :
    Relation.ReflTransGen Program.ContextOperation {} classInN.2 := by
  have given : spaceN.2.scopes.HandsOut spaceN.1.2 := .inNamespace .ofGlobal ⟨rfl, rfl⟩
  have names : templateInN.2.classInstance? templateInN.1 [.type int] = some classInN := by cbv
  have typed : Relation.ReflTransGen Program.ContextOperation {} start :=
    .single (.ofType (by rintro _ ⟨⟩))
  have opened := typed.tail (.opens .ofGlobal (.declaredNamespace "n"))
  have declared := opened.tail (.ofClassTemplate given "A" [.type "T"] { members := some ⟨0⟩ })
  exact declared.tail (.ofClassInstance names)

theorem handsOut_contextOfX {tree : ScopeTree}
    (forNamespace : tree.IsOpened .namespaceScope ⟨1⟩ ScopeTree.global)
    (forArguments : tree.IsOpened .templateScope ⟨3⟩ ⟨1⟩)
    (forMembers : tree.IsOpened .classScope ⟨4⟩ ⟨3⟩) : tree.HandsOut contextOfX :=
  ((ScopeTree.HandsOut.ofGlobal.inNamespace forNamespace).inTemplate forArguments).inClass
    forMembers |>.marked { instantiating := true } 0

set_option maxRecDepth 100000 in
theorem declaringX_usesHandedOut : UsesHandedOut fromNothing.session
    (Activity.history declaringX declaringThenBuilding fromNothing) := by
  have reached := classInN_reached
  cbv at reached ⊢
  refine .cons reached (.cons .ofGlobal (.cons trivial (.cons trivial (.cons trivial (.cons
    (.single (@Program.ContextOperation.ofVariable _ contextOfX ?_ "x" int none))
    (.cons trivial (.cons trivial (.cons trivial (.cons trivial .nil)))))))))
  exact handsOut_contextOfX ⟨rfl, rfl⟩ ⟨rfl, rfl⟩ ⟨rfl, rfl⟩

set_option maxRecDepth 100000 in
/-- The scopes that the context of `x` names are the namespace, the arguments and the class around
it. -/
theorem context_of_member_is_coherent :
    UsesHandedOut fromNothing.session
      (Activity.history declaringX declaringThenBuilding fromNothing) ∧
    (withX.entry ⟨7⟩).name = "x" ∧ (withX.entry ⟨7⟩).declContext = contextOfX ∧
    withX.scopes.IsCoherent contextOfX := by
  have isX : (withX.entry ⟨7⟩).name = "x" := by cbv
  have isItsContext : (withX.entry ⟨7⟩).declContext = contextOfX := by cbv
  have coherent : withX.IsCoherent :=
    (Activity.contexts_stay_coherent (by rfl) declaringX_usesHandedOut).2
  have handed := coherent.declContext ⟨7⟩
  rw [isItsContext] at handed
  exact ⟨declaringX_usesHandedOut, isX, isItsContext, coherent.coherent contextOfX handed⟩

end Sample

end CppTemplates
