import CppTemplates.Proofs.Instantiation.Books
import CppTemplates.Proofs.Instantiation.HistoryPath

/-!
# Classes that are left alone

While a class is being instantiated, the analyzer may have other classes and functions instantiated.
That leaves the class as it is.  So a callback spares the class if what the analyzer changes by
itself does, and nobody requests the class once more.
-/

namespace CppTemplates

/-- A type is a class that is filled in so far, with a context for its members. -/
def Program.ClassIs (program : Program) (type : TypeId) (completeness : Completeness)
    (inner : Option DeclContext) : Prop :=
  ∃ data, program.type type = .classType data ∧ data.completeness = completeness ∧
    data.innerContext = inner

theorem Program.Leaves.classIs {type : TypeId} {before after : Program}
    (leaves : Leaves type before after) {completeness : Completeness} {inner : Option DeclContext}
    (classIs : before.ClassIs type completeness inner) :
    after.ClassIs type completeness inner := by
  obtain ⟨data, isClass, isSo⟩ := classIs
  exact ⟨data, leaves.classType data isClass, isSo⟩

namespace Session

/-- A class is left as it is, and nothing else is taken back. -/
structure Spares (type : TypeId) (before after : Session) : Prop where
  retains : before.program.Retains after.program
  scopes_le : before.program.scopes.scopes.size ≤ after.program.scopes.scopes.size
  tree : before.tree.Extends after.tree
  classIs : ∀ completeness inner, before.program.ClassIs type completeness inner →
    after.program.ClassIs type completeness inner

namespace Spares

variable {type : TypeId} {before after : Session}

theorem refl (session : Session) : session.Spares type session :=
  ⟨.refl _, Nat.le_refl _, .refl _, fun _ _ classIs => classIs⟩

theorem trans {first second third : Session} (earlier : first.Spares type second)
    (later : second.Spares type third) : first.Spares type third where
  retains := earlier.retains.trans later.retains
  scopes_le := Nat.le_trans earlier.scopes_le later.scopes_le
  tree := earlier.tree.trans later.tree
  classIs _ _ classIs := later.classIs _ _ (earlier.classIs _ _ classIs)

theorem of_same (sameProgram : after.program = before.program)
    (sameTree : after.tree = before.tree) : before.Spares type after := by
  have spares : before.Spares type before := refl before
  exact ⟨sameProgram ▸ spares.retains, sameProgram ▸ spares.scopes_le, sameTree ▸ spares.tree,
    sameProgram ▸ spares.classIs⟩

theorem of_leaves (retains : before.program.Retains after.program)
    (tree : before.tree.Extends after.tree)
    (leaves : Program.Leaves type before.program after.program) : before.Spares type after :=
  ⟨retains, leaves.lists.size_le, tree, fun _ _ => leaves.classIs⟩

end Spares

/-- All that declaring arguments in a scope changes is that scope. -/
structure Injects (scope : ScopeId) (before after : Session) : Prop where
  works : before.Works after
  keeps : before.program.KeepsEntities after.program
  leaves : ∀ type, Program.Leaves type before.program after.program
  others : ∀ other : ScopeId, other ≠ scope →
    after.program.scopes.scope other = before.program.scopes.scope other

namespace Injects

variable {scope : ScopeId}

theorem refl (session : Session) : session.Injects scope session :=
  ⟨.refl _, .refl _, fun _ => .refl _, fun _ _ => rfl⟩

theorem trans {first second third : Session} (earlier : first.Injects scope second)
    (later : second.Injects scope third) : first.Injects scope third where
  works := earlier.works.trans later.works
  keeps := earlier.keeps.trans later.keeps
  leaves type := (earlier.leaves type).trans (later.leaves type)
  others other different := (later.others other different).trans (earlier.others other different)

end Injects

section Injecting

variable {context : DeclContext} {scope : ScopeId} (inScope : context.templateScope = some scope)
include inScope

theorem injects_injectArgument {session after : Session} {name : String} {kind : ParameterKind}
    {argument : TemplateArgument} {symbol : SymbolId}
    (injects : session.injectArgument context name kind argument = .ok (symbol, after)) :
    session.Injects scope after := by
  obtain ⟨keeps, -, scopes, -⟩ := injectArgument_ok inScope injects
  refine ⟨works_injectArgument injects, keeps, Activity.leaves_injectArgument injects, ?_⟩
  intro other different
  rw [scopes, ScopeTree.scope_insert_of_ne different]

theorem injects_of_injectDeductions (parameters : List TemplateParameter)
    (deductions : List Deduction) (session : Session) :
    session.Injects scope (injectDeductions context parameters deductions session).2 :=
  related_injectDeductions Injects.refl (fun _ _ _ => Injects.trans)
    (injects_injectArgument inScope) parameters deductions session

end Injecting

section Engine

variable {type : TypeId} (session : Session)

theorem leaves_injectDeductions (context : DeclContext) (parameters : List TemplateParameter)
    (deductions : List Deduction) :
    Program.Leaves type session.program
      (injectDeductions context parameters deductions session).2.program :=
  @related_injectDeductions (fun before after => Program.Leaves type before.program after.program)
    (fun _ => .refl _) (fun _ _ _ => .trans) context
    (fun injects => Activity.leaves_injectArgument injects type) parameters deductions session

theorem leaves_injectArguments (context : DeclContext)
    (pairs : List (TemplateParameter × TemplateArgument)) :
    Program.Leaves type session.program (injectArguments context pairs session).2.program :=
  @related_injectArguments (fun before after => Program.Leaves type before.program after.program)
    (fun _ => .refl _) (fun _ _ _ => .trans) context
    (fun injects => Activity.leaves_injectArgument injects type) pairs session

theorem spares_openFunction (entry : SymbolId) :
    session.Spares type (session.openFunction entry).2 := by
  have works : session.Works (session.openFunction entry).2 := works_openFunction entry
  refine .of_leaves works.retains works.tree ?_
  unfold openFunction
  split
  · exact .refl _
  · next specialization _ =>
    split
    · let outer := (session.program.entry entry).declContext
      let scopes := (session.program.scopes.newTemplateContext outer).2
      let opened : Session := { session with program := { session.program with scopes } }
      have opens : Program.Leaves type session.program opened.program :=
        Program.leaves_withScopes (ScopeTree.Lists.createChild _ _ _ _)
      exact opens.trans (leaves_injectArguments opened _
        (specialization.parameters.zip specialization.arguments))
    · exact .refl _

theorem spares_define (entry : SymbolId) : session.Spares type (session.define entry) :=
  .of_leaves (retains_define session entry) (.refl _)
    (Program.leaves_modifyEntry entry (fun _ => rfl) fun _ => rfl)

variable {session} {target : ClassTarget} (other : type ≠ target.type)
variable (isClass : session.program.IsClass target.type)
include other isClass

theorem spares_opened (trees : InstantiationTrees) (context : DeclContext)
    (parameters : List TemplateParameter) (deductions : List Deduction) :
    session.Spares type
      (injectDeductions context parameters deductions
        (session.openClass trees target.entry target.type)).2 := by
  obtain ⟨data, isClass⟩ := isClass
  obtain ⟨-, leaves, -, -⟩ := Program.openInstance_spec target.entry isClass
  have opens : session.Works (session.openClass trees target.entry target.type) :=
    works_openClass _ _ _
  have works := opens.trans (works_injectDeductions context parameters deductions)
  have injects : Program.Leaves type _ _ :=
    leaves_injectDeductions (session.openClass trees target.entry target.type) context parameters
      deductions
  exact .of_leaves works.retains works.tree ((leaves type other).trans injects)

theorem spares_completeClass (inner : DeclContext) :
    session.Spares type (session.completeClass target inner) := by
  obtain ⟨data, isClass⟩ := isClass
  obtain ⟨-, leaves, -, -⟩ := Program.completeInstance_completes target.entry isClass inner
  exact .of_leaves (works_completeClass target inner).retains (.refl _) (leaves type other)

end Engine

end Session

/-- A turn leads to a session that spares a class. -/
def Turn.Spares (type : TypeId) (latest : Session) : Turn → Prop
  | .call _ called _ => latest.Spares type called
  | .answer _ after => latest.Spares type after

theorem Turn.Spares.later {type : TypeId} {latest middle : Session} {turn : Turn}
    (earlier : latest.Spares type middle) (spares : turn.Spares type middle) :
    turn.Spares type latest := by
  cases turn with
  | call _ _ _ => exact earlier.trans spares
  | answer _ _ => exact earlier.trans spares

namespace Session

variable {type : TypeId} {request : Request} {target : ClassTarget} {prepared : PreparedClass}
variable {session : Session}

theorem sparing_finishTurn : (session.finishTurn request target prepared).Spares type session :=
  spares_define session target.entry

theorem sparing_completeTurn (other : type ≠ target.type)
    (isClass : session.program.IsClass target.type) :
    (session.completeTurn request target prepared).Spares type session := by
  have completed := spares_completeClass other isClass prepared.inner
  unfold completeTurn membersTurn
  split
  · exact completed
  · exact .later completed sparing_finishTurn

theorem sparing_prepareTurn {solution : Solution} (other : type ≠ target.type)
    (isClass : session.program.IsClass target.type) :
    (session.prepareTurn request target solution).Spares type session := by
  unfold prepareTurn
  split
  · exact Spares.of_same rfl rfl
  · next trees parameters _ =>
    have spares := spares_opened other isClass trees
      (session.program.openInstance target.entry target.type).1.1 parameters solution.deductions
    split
    · next cause injected injects =>
      rw [injects] at spares
      exact spares.trans (.of_same rfl rfl)
    · next injected injects =>
      rw [injects] at spares
      unfold basesTurn
      split
      · exact spares
      · exact .later spares (sparing_completeTurn other (spares.retains.isClass isClass))

theorem sparing_defineTurn (session : Session) (entry : SymbolId) (definition : Option NodeId) :
    (session.defineTurn entry definition).Spares type session := by
  have spares : session.Spares type (session.openFunction entry).2 := spares_openFunction _ _
  unfold defineTurn
  split
  · next cause opened opens =>
    rw [opens] at spares
    exact spares.trans (.of_same rfl rfl)
  · next context opened opens =>
    rw [opens] at spares
    split
    · exact spares.trans (.of_same rfl rfl)
    · next definition =>
      have copies : opened.Spares type
          { opened with tree := (opened.tree.copyForInstantiation definition).2 } :=
        .of_leaves (.refl _) (SyntaxTree.extends_appendCopy _ _ _) (.refl _)
      exact (spares.trans copies).trans (.of_same rfl rfl)

theorem spares_enter {entered : Session} {entity : SymbolId} {location : Location}
    (enters : session.enter entity location = .ok entered) : session.Spares type entered := by
  obtain ⟨-, rfl⟩ := enter_eq_ok enters
  exact .of_same rfl rfl

theorem spares_record (session : Session) (entity : SymbolId) (location : Location) :
    session.Spares type (session.record entity location) := by
  unfold record
  split <;> exact .of_same rfl rfl

theorem sparing_firstTurn (session : Session) (request : Request) :
    (session.firstTurn request).Spares type session := by
  unfold firstTurn
  split
  · split
    · exact Spares.refl session
    · unfold enterClass
      split
      · exact Spares.refl session
      · next enters => exact spares_enter enters
  · split
    · exact Spares.refl session
    · exact Spares.refl session
    · unfold enterFunction
      split
      · exact Spares.refl session
      · next enters => exact .later (spares_enter enters) (sparing_defineTurn _ _ _)

end Session

/-- After a reply, too, a turn for another class or for a function spares the class. -/
theorem Stage.sparing_nextTurn {type : TypeId} (request : Request) {stage : Stage} (reply : Reply)
    {ended : Session}
    (forOther : ∀ target, stage.target? = some target →
      type ≠ target.type ∧ ended.program.IsClass target.type) :
    (stage.nextTurn request reply ended).Spares type ended := by
  cases reply with
  | error cause => cases stage <;> exact Session.Spares.of_same rfl rfl
  | ok solution =>
      cases stage with
      | solving target =>
          obtain ⟨other, isClass⟩ := forOther target rfl
          cases solution with
          | none => exact Session.Spares.of_same rfl rfl
          | some solution => exact Session.sparing_prepareTurn other isClass
      | basing target prepared =>
          obtain ⟨other, isClass⟩ := forOther target rfl
          exact Session.sparing_completeTurn other isClass
      | building target prepared => exact Session.sparing_finishTurn
      | finishing target =>
          exact (ended.spares_record target.entry request.location).trans (.of_same rfl rfl)
      | defining entry untested =>
          have settled : ended.Spares type (ended.putBack untested .testExpression) :=
            .of_same rfl rfl
          have defined := settled.trans (Session.spares_define _ entry)
          have recorded := defined.trans (Session.spares_record _ entry request.location)
          exact recorded.trans (.of_same rfl rfl)

/-- A request is for a class with some type. -/
def Session.Requests (asked : Session) (request : Request) (type : TypeId) : Prop :=
  request.kind = .classTemplate ∧
    ∃ target, asked.classTarget request = .ok target ∧ target.type = type

theorem Session.classIs_of_classTarget {asked : Session} {request : Request} {target : ClassTarget}
    (resolves : asked.classTarget request = .ok target) :
    target.entry.index < asked.program.symbols.size ∧
      ∃ inner, asked.program.ClassIs target.type .incompleteIndependent inner := by
  have eligible := Session.eligibleClass?_of_classTarget resolves
  obtain ⟨isClassOf, data, isClass, isSo⟩ := Session.eligibleClass?_eq_some eligible
  obtain ⟨named, typed, _⟩ := Option.bind_eq_some_iff.mp isClassOf
  exact ⟨Program.index_lt_of_entryType typed, data.innerContext, data, isClass, isSo, rfl⟩

theorem Pending.spares_turn {type : TypeId} {pending : Pending} {turn : Turn}
    (dialogue : Dialogue pending.request pending.asked pending.calls turn)
    (notRequested : ¬pending.asked.Requests pending.request type)
    (spares : pending.asked.Spares type pending.latest) : turn.Spares type pending.latest := by
  obtain ⟨request, asked, calls, current⟩ := pending
  cases dialogue with
  | first => exact Session.sparing_firstTurn asked request
  | next earlier reply ended =>
      rw [Pending.latest_of_calls _ rfl] at spares ⊢
      apply Stage.sparing_nextTurn
      intro target ofTarget
      cases earlier.covers with
      | @classTemplate found _ _ isClass resolves _ ofFound =>
          rw [ofTarget, Option.some.injEq] at ofFound
          subst ofFound
          refine ⟨fun same => notRequested ⟨isClass, target, resolves, same.symm⟩, ?_⟩
          obtain ⟨-, inner, data, isData, -⟩ := Session.classIs_of_classTarget resolves
          exact spares.retains.isClass ⟨data, isData⟩
      | functionTemplate _ _ _ _ => cases ofTarget

/-- Callbacks have left a class as it was. -/
def Spared (type : TypeId) (calls : List Call) : Prop :=
  ∀ call ∈ calls, call.called.Spares type call.ended

theorem Spared.snoc {type : TypeId} {calls : List Call} {call : Call} (spared : Spared type calls)
    (spares : call.called.Spares type call.ended) : Spared type (calls ++ [call]) := by
  intro other member
  rcases List.mem_append.mp member with old | new
  · exact spared other old
  · rw [List.mem_singleton.mp new]
    exact spares

theorem Spared.snoc_inv {type : TypeId} {calls : List Call} {call : Call}
    (spared : Spared type (calls ++ [call])) :
    Spared type calls ∧ call.called.Spares type call.ended := by
  refine ⟨fun other member => ?_, ?_⟩
  · exact spared other (List.mem_append_left _ member)
  · exact spared call (by simp)

/-- A request for a class with some type is being carried out. -/
def Frame.IsFor (type : TypeId) : Frame → Prop
  | .request pending => pending.asked.Requests pending.request type
  | .switch _ _ => False

theorem forall_request_cons {holds : List Frame → Pending → Prop} {frame : Frame}
    {rest : List Frame} (top : ∀ pending, frame = .request pending → holds [] pending)
    (others : ∀ above pending below, rest = above ++ .request pending :: below →
      holds (frame :: above) pending) (above : List Frame) (pending : Pending)
    (below : List Frame) (isStack : frame :: rest = above ++ .request pending :: below) :
    holds above pending := by
  cases above with
  | nil =>
      cases isStack
      exact top pending rfl
  | cons first above =>
      cases isStack
      exact others above pending below rfl

/-- While a class is being instantiated, what the analyzer changes spares it, and nobody requests it
once more. -/
structure LeftAlone (type : TypeId) (start : Session) (moments : List Moment) : Prop where
  changes : ∀ earlier moment later, moments = earlier ++ moment :: later →
    moment.event = .updated → (∃ frame ∈ moment.stack, frame.IsFor type) →
      (lastSession start earlier).Spares type moment.session
  requests : ∀ moment ∈ moments, ∀ request, moment.event = .asked request →
    moment.session.Requests request type → ∀ frame ∈ moment.stack.tail, ¬frame.IsFor type

theorem LeftAlone.of_append {type : TypeId} {start : Session} {earlier later : List Moment}
    (leftAlone : LeftAlone type start (earlier ++ later)) : LeftAlone type start earlier where
  changes before moment after isMoments := by
    apply leftAlone.changes before moment (after ++ later)
    rw [isMoments, List.append_assoc, List.cons_append]
  requests moment member := leftAlone.requests moment (List.mem_append_left _ member)

/-- A request for a class and what is nested in it have left the class as it was. -/
structure Pending.LeavesAlone (pending : Pending) (type : TypeId) (above : List Frame)
    (session : Session) : Prop where
  spared : Spared type pending.calls
  current : ∀ callback called, pending.current = some (callback, called) →
    called.Spares type session
  nested : ∀ other, .request other ∈ above →
    ¬other.asked.Requests other.request type ∧ other.asked.Spares type session

/-- All requests for a class have left it as it was. -/
def StaysAlone (type : TypeId) (stack : List Frame) (session : Session) : Prop :=
  ∀ above pending below, stack = above ++ .request pending :: below →
    pending.asked.Requests pending.request type → pending.LeavesAlone type above session

namespace Pending.LeavesAlone

variable {type : TypeId} {pending : Pending} {above : List Frame} {session after : Session}

theorem later (leaves : pending.LeavesAlone type above session)
    (spares : session.Spares type after) : pending.LeavesAlone type above after where
  spared := leaves.spared
  current callback called isBusy := (leaves.current callback called isBusy).trans spares
  nested other member :=
    ⟨(leaves.nested other member).1, (leaves.nested other member).2.trans spares⟩

theorem mono {fewer : List Frame} (leaves : pending.LeavesAlone type above session)
    (subset : ∀ other, .request other ∈ fewer → ∃ before,
      .request before ∈ above ∧ before.request = other.request ∧ before.asked = other.asked) :
    pending.LeavesAlone type fewer session where
  spared := leaves.spared
  current := leaves.current
  nested other member := by
    obtain ⟨before, memberBefore, sameRequest, sameAsked⟩ := subset other member
    rw [← sameRequest, ← sameAsked]
    exact leaves.nested before memberBefore

end Pending.LeavesAlone

namespace StaysAlone

variable {type : TypeId} {stack later rest : List Frame} {before after : Session} {event : Event}

theorem cons {frame : Frame}
    (top : ∀ pending, frame = .request pending →
      pending.asked.Requests pending.request type → pending.LeavesAlone type [] after)
    (others : ∀ above pending below, rest = above ++ .request pending :: below →
      pending.asked.Requests pending.request type →
        pending.LeavesAlone type (frame :: above) after) :
    StaysAlone type (frame :: rest) after :=
  @forall_request_cons (fun above pending =>
    pending.asked.Requests pending.request type → pending.LeavesAlone type above after) frame rest
      top others

theorem top {pending : Pending} (alone : StaysAlone type (.request pending :: rest) before)
    (isFor : pending.asked.Requests pending.request type) :
    pending.LeavesAlone type [] before :=
  alone [] pending rest rfl isFor

/-- What happens to the innermost request does not matter for those around it, as long as it spares
their class. -/
theorem replace {pending other : Pending}
    (alone : StaysAlone type (.request pending :: rest) before)
    (sameRequest : other.request = pending.request) (sameAsked : other.asked = pending.asked)
    (spares : ¬pending.asked.Requests pending.request type →
      pending.asked.Spares type before → before.Spares type after)
    (top : pending.asked.Requests pending.request type → other.LeavesAlone type [] after) :
    StaysAlone type (.request other :: rest) after := by
  apply cons
  · rintro _ ⟨⟩ isFor
    rw [sameRequest, sameAsked] at isFor
    exact top isFor
  · intro above outer below isRest isFor
    have leaves := alone (.request pending :: above) outer below (by rw [isRest]; rfl) isFor
    obtain ⟨notRequested, sparesSoFar⟩ := leaves.nested pending List.mem_cons_self
    refine (leaves.later (spares notRequested sparesSoFar)).mono fun nested member => ?_
    rcases List.mem_cons.mp member with same | member
    · cases same
      exact ⟨pending, List.mem_cons_self, sameRequest.symm, sameAsked.symm⟩
    · exact ⟨nested, List.mem_cons_of_mem _ member, rfl, rfl⟩

theorem step {allowed : Program → Program → Prop} (alone : StaysAlone type stack before)
    (step : Step allowed stack before event later after)
    (change : event = .updated → (∃ frame ∈ later, frame.IsFor type) → before.Spares type after)
    (request : ∀ request, event = .asked request → after.Requests request type →
      ∀ frame ∈ later.tail, ¬frame.IsFor type) : StaysAlone type later after := by
  cases step with
  | updated _ =>
      intro above pending below isStack isFor
      have leaves := alone above pending below isStack isFor
      refine leaves.later (change rfl ⟨.request pending, ?_, isFor⟩)
      simp [isStack]
  | turned switch =>
      apply cons
      · exact fun _ same => nomatch same
      · intro above pending below isStack isFor
        refine ((alone above pending below isStack isFor).mono fun other member => ?_).later ?_
        · exact ⟨other, by simpa using member, rfl, rfl⟩
        · cases switch <;> exact .of_same rfl rfl
  | @restored switch saved _ _ =>
      intro above pending below isStack isFor
      have leaves :=
        alone (.switch switch saved :: above) pending below (by rw [isStack]; rfl) isFor
      refine (leaves.mono fun other member => ?_).later ?_
      · exact ⟨other, List.mem_cons_of_mem _ member, rfl, rfl⟩
      · cases switch <;> exact .of_same rfl rfl
  | asked asks =>
      apply cons
      · rintro _ ⟨⟩ _
        exact ⟨fun _ member => (nomatch member), fun _ _ isBusy => (nomatch isBusy),
          fun _ member => (nomatch member)⟩
      · intro above pending below isStack isFor
        have leaves := alone above pending below isStack isFor
        refine ⟨leaves.spared, leaves.current, fun other member => ?_⟩
        rcases List.mem_cons.mp member with same | old
        · cases same
          refine ⟨fun again => ?_, .refl _⟩
          exact request asks rfl again (.request pending) (by simp [isStack]) isFor
        · exact leaves.nested other old
  | @called pending _ callback called _ isIdle turn =>
      refine alone.replace rfl rfl (fun notRequested => Pending.spares_turn turn notRequested) ?_
      intro isFor
      refine ⟨(alone.top isFor).spared, ?_, fun _ member => nomatch member⟩
      rintro _ _ ⟨⟩
      exact .refl _
  | @replied pending _ callback called isBusy reply _ =>
      refine alone.replace rfl rfl (fun _ _ => .refl _) fun isFor => ?_
      have leaves := alone.top isFor
      let call : Call := ⟨callback, called, reply, before⟩
      have spares : call.called.Spares type call.ended := leaves.current callback called isBusy
      exact ⟨leaves.spared.snoc spares, fun _ _ same => (nomatch same),
        fun _ member => (nomatch member)⟩
  | @answered pending _ _ _ isIdle turn =>
      intro above outer below isRest isFor
      -- The answer may be to a request above the one for the class: it has spared the class.
      have leaves := alone (.request pending :: above) outer below (by rw [isRest]; rfl) isFor
      obtain ⟨notRequested, sparesSoFar⟩ := leaves.nested pending List.mem_cons_self
      refine (leaves.later (Pending.spares_turn turn notRequested sparesSoFar)).mono
        fun nested member => ?_
      exact ⟨nested, List.mem_cons_of_mem _ member, rfl, rfl⟩

end StaysAlone

/-- In a run in which a class is left alone, the callbacks for it spare it. -/
theorem Path.staysAlone {allowed : Program → Program → Prop} {start session : Session}
    {moments : List Moment} {stack : List Frame} {type : TypeId}
    (path : Path allowed start moments stack session)
    (leftAlone : LeftAlone type start moments) :
    session = lastSession start moments ∧ StaysAlone type stack session := by
  refine ⟨path.eq_lastSession, ?_⟩
  induction path with
  | start =>
      intro above pending below isStack
      simp at isStack
  | @step moments stack later before after event path step ih =>
      refine (ih leftAlone.of_append).step step ?_ ?_
      · intro isUpdate isFor
        rw [path.eq_lastSession]
        exact leftAlone.changes moments ⟨event, later, after⟩ [] rfl isUpdate isFor
      · intro request asks
        exact leftAlone.requests ⟨event, later, after⟩ (by simp) request asks

end CppTemplates
