import CppTemplates.Proofs.Instantiation.DeductionOrder
import CppTemplates.Proofs.Instantiation.Maturity
import CppTemplates.Proofs.Program.Contexts

/-!
# What a failed instantiation leaves of a class

An instantiation of a class can fail at many points.  Until a template is selected, nothing has been
written.  Then the engine opens the class: it records a context for it, with new scopes, before it
declares the arguments and has the bases recorded.  If one of these steps fails, the class is as it
was but for that context.  It stays incomplete, yet it opens a scope, an empty one.
-/

namespace CppTemplates

/-- The callbacks have left the program as they found it. -/
def LeaveProgram (calls : List Call) : Prop :=
  ∀ call ∈ calls, call.ended.program = call.called.program

/-- What the first callback has selected. -/
def firstSelection? (calls : List Call) : Option Selection :=
  calls.head?.bind Call.selection?

theorem firstSelection?_append {calls : List Call} {selection : Selection}
    (selects : firstSelection? calls = some selection) (later : List Call) :
    firstSelection? (calls ++ later) = some selection := by
  obtain ⟨first, isFirst, isSelected⟩ := Option.bind_eq_some_iff.mp selects
  simp [firstSelection?, List.head?_append, isFirst, isSelected]

/-- A class has got a context with new scopes.  Nothing is declared in the scope of its members, and
the rest of the class and all symbols are as they were. -/
structure Program.GainsContext (before after : Program) (target : ClassTarget) : Prop where
  symbols : before.KeepsSymbols after
  classType : ∃ data, before.type target.type = .classType data ∧
    data.completeness = .incompleteIndependent ∧
    after.type target.type = .classType
      { data with
        innerContext := some ((before.entry target.entry).declContext.forInstance
          ⟨before.scopes.scopes.size⟩ ⟨before.scopes.scopes.size + 1⟩) }
  noMembers : (after.scopes.scope ⟨before.scopes.scopes.size + 1⟩).entries = []

/-- Opening a class for a selection gives it a context, whether or not the arguments can be
declared. -/
theorem Session.gainsContext_openSelected {solved : Session} {target : ClassTarget}
    {inner : Option DeclContext}
    (classIs : solved.program.ClassIs target.type .incompleteIndependent inner)
    (selection : Selection) :
    solved.program.GainsContext (solved.openSelected target selection).2.program target := by
  obtain ⟨data, isClass, incomplete, -⟩ := classIs
  obtain ⟨inScope, isInner, -, empty⟩ :=
    solved.program.newScopes_openInstance target.entry target.type
  obtain ⟨-, -, opened, -⟩ := Program.openInstance_spec target.entry isClass
  have injects := injects_of_injectDeductions inScope selection.parameters selection.deductions
    (solved.openClass selection.trees target.entry target.type)
  have opens : solved.Works (solved.openClass selection.trees target.entry target.type) :=
    works_openClass _ _ _
  refine ⟨(opens.trans injects.works).symbols, ⟨data, isClass, incomplete, ?_⟩, ?_⟩
  · rw [← isInner]
    exact (injects.leaves target.type).classType _ opened
  · -- The arguments are declared in the scope around this one.
    have others := injects.others ⟨solved.program.scopes.scopes.size + 1⟩ (by simp)
    refine (congrArg Scope.entries others).trans (empty _ ?_)
    exact Nat.le_succ _

/-- What the engine has made of a class at one of its turns, if the callbacks have left the program
as they found it. -/
inductive ClassFate (asked : Session) (target : ClassTarget) (calls : List Call) : Turn → Prop
  | solving {callback : Callback} {called : Session} (isFirst : calls = [])
      (same : called.program = asked.program) :
      ClassFate asked target calls (.call callback called (.solving target))
  | basing {selection : Selection} {prepared : PreparedClass} {callback : Callback}
      {called : Session} (selects : firstSelection? calls = some selection)
      (gains : asked.program.GainsContext called.program target) :
      ClassFate asked target calls (.call callback called (.basing target prepared))
  | building {selection : Selection} {prepared : PreparedClass} {callback : Callback}
      {called : Session} (selects : firstSelection? calls = some selection)
      (complete : called.program.IsComplete target.type) :
      ClassFate asked target calls (.call callback called (.building target prepared))
  | finishing {selection : Selection} {callback : Callback} {called : Session}
      (selects : firstSelection? calls = some selection)
      (complete : called.program.IsComplete target.type) :
      ClassFate asked target calls (.call callback called (.finishing target))
  | untouched {cause : InstantiationError} {after : Session}
      (unselected : firstSelection? calls = none)
      (same : after.program = asked.program) :
      ClassFate asked target calls (.answer (.error cause) after)
  | opened {selection : Selection} {cause : InstantiationError} {after : Session}
      (selects : firstSelection? calls = some selection)
      (gains : asked.program.GainsContext after.program target) :
      ClassFate asked target calls (.answer (.error cause) after)
  | completed {selection : Selection} {outcome : Except InstantiationError Unit}
      {after : Session} (selects : firstSelection? calls = some selection)
      (complete : after.program.IsComplete target.type) :
      ClassFate asked target calls (.answer outcome after)

namespace Session

variable {request : Request} {asked session : Session} {target : ClassTarget} {calls : List Call}
variable {selection : Selection}

theorem isComplete_completeClass {completeness : Completeness} {recorded : Option DeclContext}
    (classIs : session.program.ClassIs target.type completeness recorded) (inner : DeclContext) :
    (session.completeClass target inner).program.IsComplete target.type := by
  obtain ⟨data, isClass, -⟩ := classIs
  obtain ⟨-, -, completed, -⟩ := Program.completeInstance_completes target.entry isClass inner
  exact ⟨_, completed, rfl⟩

theorem classFate_finishTurn (selects : firstSelection? calls = some selection)
    (complete : session.program.IsComplete target.type) (prepared : PreparedClass) :
    ClassFate asked target calls (session.finishTurn request target prepared) :=
  .finishing selects complete

theorem classFate_completeTurn (selects : firstSelection? calls = some selection)
    {completeness : Completeness} {recorded : Option DeclContext}
    (classIs : session.program.ClassIs target.type completeness recorded)
    (prepared : PreparedClass) :
    ClassFate asked target calls (session.completeTurn request target prepared) := by
  have complete := isComplete_completeClass classIs prepared.inner
  unfold completeTurn membersTurn
  split
  · exact .building selects complete
  · exact classFate_finishTurn selects complete prepared

end Session

theorem Program.not_isComplete {program : Program} {type : TypeId} {data : ClassType}
    (isClass : program.type type = .classType data)
    (incomplete : data.completeness = .incompleteIndependent) : ¬program.IsComplete type := by
  rintro ⟨later, isClassToo, complete⟩
  rw [isClass, Ty.classType.injEq] at isClassToo
  rw [← isClassToo, incomplete] at complete
  cases complete

theorem Program.GainsContext.classIs {before after : Program} {target : ClassTarget}
    (gains : before.GainsContext after target) :
    ∃ inner, after.ClassIs target.type .incompleteIndependent inner := by
  obtain ⟨data, -, incomplete, isClass⟩ := gains.classType
  exact ⟨_, _, isClass, incomplete, rfl⟩

theorem Program.GainsContext.type_ne {before after : Program} {target : ClassTarget}
    (gains : before.GainsContext after target) (situated : before.IsSituated) :
    after.type target.type ≠ before.type target.type := by
  obtain ⟨data, isClass, -, isClassAfter⟩ := gains.classType
  intro same
  have stores := congrArg Ty.innerContext? (isClassAfter.symm.trans same)
  have coherent := (situated.innerContext _ _ stores.symm).isCoherent situated.nested
  have inTree := coherent.currentScope
  simp only [DeclContext.forInstance] at inTree
  omega

/-- If nothing is selected, the request is answered with an error. -/
theorem Call.nextTurn_of_unselected {call : Call} (request : Request) (target : ClassTarget)
    (unselected : call.selection? = none) :
    ∃ cause, (Stage.solving target).nextTurn request call.reply call.ended =
      .answer (.error cause) (call.ended.leave target.entry) := by
  unfold selection? at unselected
  split at unselected
  case h_1 solution solves =>
    rw [solves]
    simp only [Stage.nextTurn, Session.prepareTurn, Option.map_eq_none_iff.mp unselected]
    exact ⟨_, rfl⟩
  case h_2 notSolved =>
    cases reply : call.reply with
    | error cause => exact ⟨cause, rfl⟩
    | ok solution? =>
        cases solution? with
        | none => exact ⟨_, rfl⟩
        | some solution => exact absurd reply (notSolved solution)

namespace ClassFate

variable {request : Request} {asked called : Session} {target : ClassTarget} {calls : List Call}
variable {callback : Callback} {stage : Stage}

/-- The first callback, which is to select a template, decides whether the class is opened. -/
theorem of_first {call : Call} {inner : Option DeclContext}
    (classIs : asked.program.ClassIs target.type .incompleteIndependent inner)
    (same : call.ended.program = asked.program) :
    ClassFate asked target [call]
      ((Stage.solving target).nextTurn request call.reply call.ended) := by
  cases selects : call.selection? with
  | none =>
      obtain ⟨cause, answers⟩ := call.nextTurn_of_unselected request target selects
      rw [answers]
      exact .untouched selects same
  | some selection =>
      have selectsFirst : firstSelection? [call] = some selection := selects
      -- The class is opened in the session that the callback leaves.
      rw [← same] at classIs
      have gains := Session.gainsContext_openSelected classIs selection
      rw [same] at gains
      rw [Call.nextTurn_of_selection? request target selects]
      cases opens : call.ended.openSelected target selection with
      | mk outcome opened =>
          rw [opens] at gains
          cases outcome with
          | error cause => exact .opened selectsFirst gains
          | ok _ =>
              obtain ⟨recorded, classIsOpened⟩ := gains.classIs
              unfold Session.basesTurn
              dsimp only
              split
              · exact .basing selectsFirst gains
              · exact Session.classFate_completeTurn selectsFirst classIsOpened _

theorem next {inner : Option DeclContext}
    (classIs : asked.program.ClassIs target.type .incompleteIndependent inner)
    (fate : ClassFate asked target calls (.call callback called stage)) (reply : Reply)
    {ended : Session} (same : ended.program = called.program) :
    ClassFate asked target (calls ++ [⟨callback, called, reply, ended⟩])
      (stage.nextTurn request reply ended) := by
  cases fate with
  | solving isFirst sameBefore =>
      subst isFirst
      exact of_first classIs (same.trans sameBefore)
  | basing selects gains =>
      have still := firstSelection?_append selects [⟨callback, called, reply, ended⟩]
      rw [← same] at gains
      cases reply with
      | error cause => exact .opened still gains
      | ok solution =>
          obtain ⟨recorded, classIsOpened⟩ := gains.classIs
          exact Session.classFate_completeTurn still classIsOpened _
  | building selects complete =>
      have still := firstSelection?_append selects [⟨callback, called, reply, ended⟩]
      rw [← same] at complete
      cases reply with
      | error cause => exact .completed still complete
      | ok solution => exact Session.classFate_finishTurn still complete _
  | finishing selects complete =>
      have still := firstSelection?_append selects [⟨callback, called, reply, ended⟩]
      rw [← same] at complete
      cases reply with
      | error cause => exact .completed still complete
      | ok solution =>
          rw [← (Session.program_record ended target.entry request.location).1] at complete
          exact .completed still complete

theorem of_dialogue {turn : Turn} (isClass : request.kind = .classTemplate)
    (resolves : asked.classTarget request = .ok target)
    (dialogue : Dialogue request asked calls turn) (leave : LeaveProgram calls) :
    ClassFate asked target calls turn := by
  obtain ⟨-, inner, classIs⟩ := Session.classIs_of_classTarget resolves
  induction dialogue with
  | first =>
      simp only [Session.firstTurn, isClass, resolves, Session.enterClass]
      cases enters : asked.enter target.entry request.location with
      | error cause => exact .untouched rfl rfl
      | ok entered =>
          obtain ⟨-, rfl⟩ := Session.enter_eq_ok enters
          exact .solving rfl rfl
  | next earlier reply ended ih =>
      have leaveEarlier : LeaveProgram _ := fun call member =>
        leave call (List.mem_append_left _ member)
      -- `classIs` speaks of the session that was asked, so it serves for every turn.
      exact (ih leaveEarlier).next classIs reply
        (leave _ (List.mem_append_right _ List.mem_cons_self))

end ClassFate

/-- A request for a class that fails before the class is complete leaves the program as it was, if
no template was selected.  If one was, the class has got a context, which opens an empty scope, and
is otherwise as it was.  Where all recorded contexts have been handed out, the class had another
context before, or none. -/
theorem Activity.failed_class_keeps_all_but_context {σ α : Type} (analyzer : Analyzer σ)
    (action : Action σ α) (before : Compilation σ) {moment : Moment}
    (member : moment ∈ history analyzer action before) {pending : Pending}
    {cause : InstantiationError} (isAnswer : moment.event = .answered pending (.error cause))
    (isClass : pending.request.kind = .classTemplate) (leave : LeaveProgram pending.calls) :
    (firstSelection? pending.calls = none →
      moment.session.program = pending.asked.program) ∧
    ∀ selection, firstSelection? pending.calls = some selection →
      ∃ target, pending.asked.classTarget pending.request = .ok target ∧
        (¬moment.session.program.IsComplete target.type →
          pending.asked.program.GainsContext moment.session.program target ∧
          (pending.asked.program.IsSituated →
            moment.session.program.type target.type ≠
              pending.asked.program.type target.type)) := by
  have dialogue := dialogue_of_answered member isAnswer
  cases resolves : pending.asked.classTarget pending.request with
  | error reason =>
      have refuses : pending.asked.firstTurn pending.request =
          .answer (.error reason) pending.asked := by
        simp only [Session.firstTurn, isClass, resolves]
      obtain ⟨noCalls, answers⟩ := Dialogue.eq_of_firstTurn_answer refuses dialogue
      obtain ⟨-, sameSession⟩ := Turn.answer.inj answers
      refine ⟨fun _ => by rw [sameSession], fun selection selects => ?_⟩
      rw [noCalls] at selects
      cases selects
  | ok target =>
      cases ClassFate.of_dialogue isClass resolves dialogue leave with
      | untouched unselected same =>
          refine ⟨fun _ => same, fun selection selects => ?_⟩
          rw [unselected] at selects
          cases selects
      | opened selects gains =>
          refine ⟨fun unselected => ?_, fun _ _ => ⟨target, rfl, fun _ => ⟨gains, gains.type_ne⟩⟩⟩
          rw [selects] at unselected
          cases unselected
      | completed selects complete =>
          refine ⟨fun unselected => ?_, fun _ _ => ⟨target, rfl, fun incomplete => ?_⟩⟩
          · rw [selects] at unselected
            cases unselected
          · exact absurd complete incomplete

namespace Sample

def constantTemplate : SymbolId × Program :=
  start.declareClassTemplate ScopeTree.globalContext "A" [.nonType "M" int] {}

/-- The nodes of `0.5` and of `B::y`. -/
def halfTree : SyntaxTree :=
  ((((SyntaxTree.empty.addLeaf (.literal .floating) "0.5").2.addIdentifier "B").2.addIdentifier
    "y").2.addInterior .qualifiedId [⟨1⟩, ⟨2⟩]).2

def halfInstance : SymbolId × Program :=
  (constantTemplate.2.classInstance? constantTemplate.1
    [.nonType int ⟨0⟩ ScopeTree.globalContext]).getD default

def halfTarget : ClassTarget where
  entry := halfInstance.1
  type := ⟨3⟩
  template := ⟨1⟩

def nicknamed : Program :=
  let (nickname, program) :=
    halfInstance.2.newSymbol ScopeTree.globalContext ScopeTree.global "B" .typedefName
  program.modifyEntry nickname fun symbol => { symbol with type := some halfTarget.type }

def failing : Compilation Unit where
  session := { program := nicknamed, tree := halfTree }
  analyzerState := ()

def requestingHalf : Request := requestFor .classTemplate halfInstance.1

def failure : List Moment :=
  Activity.history (Analyzer.idle Unit) (.instantiate requestingHalf .done) failing

/-- The class `A<0.5>` once the attempt to instantiate it has failed. -/
def leftIncomplete : ClassType where
  specialization := some {
    template := ⟨1⟩
    parameters := [⟨.nonType, ⟨0⟩⟩]
    arguments := [.nonType int ⟨0⟩ ScopeTree.globalContext] }
  innerContext := some (ScopeTree.globalContext.forInstance ⟨2⟩ ⟨3⟩)

/-- The request, its outcome, whether the callbacks have left the program as it was, whether one has
selected a template, and the class. -/
def observeFailure (moment : Moment) (answer : Pending × Except InstantiationError Unit) :=
  (answer.1.request.kind, answer.1.asked.classTarget answer.1.request, answer.2,
    answer.1.calls.all fun call => decide (call.ended.program = call.called.program),
    (firstSelection? answer.1.calls).isSome,
    moment.session.program.type halfTarget.type)

set_option maxRecDepth 100000 in
/-- The analyzer selects the template and changes nothing, and the argument cannot be folded. -/
theorem context_gained :
    ∃ moment ∈ failure, ∃ pending selection,
      moment.event =
        .answered pending (.error (.constant (.unsupportedFloatingLiteral "0.5" {}))) ∧
      LeaveProgram pending.calls ∧
      firstSelection? pending.calls = some selection ∧
      ¬moment.session.program.IsComplete halfTarget.type ∧
      pending.asked.program.GainsContext moment.session.program halfTarget := by
  have answers : failure.filterMap (fun moment =>
      (answered? moment).map (observeFailure moment)) =
      [(.classTemplate, .ok halfTarget, .error (.constant (.unsupportedFloatingLiteral "0.5" {})),
        true, true, .classType leftIncomplete)] := by
    cbv
  obtain ⟨moment, member, pending, outcome, isAnswer, isSo⟩ := exists_answered answers
  simp only [observeFailure, Prod.mk.injEq, List.all_eq_true, decide_eq_true_eq] at isSo
  obtain ⟨isClass, resolves, rfl, leave, isSelected, isLeft⟩ := isSo
  obtain ⟨selection, selects⟩ := Option.isSome_iff_exists.mp isSelected
  have incomplete := Program.not_isComplete isLeft rfl
  obtain ⟨-, opened⟩ := Activity.failed_class_keeps_all_but_context (Analyzer.idle Unit)
    (.instantiate requestingHalf .done) failing member isAnswer isClass leave
  obtain ⟨target, resolvesToo, gains⟩ := opened selection selects
  cases resolves.symm.trans resolvesToo
  exact ⟨moment, member, pending, selection, isAnswer, leave, selects, incomplete,
    (gains incomplete).1⟩

set_option maxRecDepth 100000 in
/-- The class stays incomplete when its argument cannot be folded, and keeps the context that the
attempt gave it.  So `B::y`, which was an error, is now a name that nothing declares. -/
theorem context_left_behind :
    ∃ cause after,
      Activity.perform (Analyzer.idle Unit) requestingHalf failing = .error cause after ∧
      ¬after.session.program.IsComplete halfTarget.type ∧
      failing.session.program.innerContext? halfTarget.type = none ∧
      after.session.program.innerContext? halfTarget.type ≠ none ∧
      failing.session.program.queryIdExpression halfTree ScopeTree.globalContext ⟨3⟩ =
        .error (.notAScope "B") ∧
      after.session.program.queryIdExpression halfTree ScopeTree.globalContext ⟨3⟩ = .ok [] := by
  have fails : (match Activity.perform (Analyzer.idle Unit) requestingHalf failing with
      | .ok _ _ => none
      | .error _ after => some (after.session.program.type halfTarget.type,
          after.session.program.queryIdExpression halfTree ScopeTree.globalContext ⟨3⟩)) =
      some (.classType leftIncomplete, .ok []) := by
    cbv
  have noContext : failing.session.program.innerContext? halfTarget.type = none := by cbv
  have noScope : failing.session.program.queryIdExpression halfTree ScopeTree.globalContext ⟨3⟩ =
      .error (.notAScope "B") := by cbv
  split at fails
  · cases fails
  · next cause after performs =>
    simp only [Option.some.injEq, Prod.mk.injEq] at fails
    obtain ⟨isLeft, found⟩ := fails
    refine ⟨cause, after, performs, Program.not_isComplete isLeft rfl, noContext, ?_, noScope,
      found⟩
    rw [Program.innerContext?_eq isLeft]
    simp [leftIncomplete]

end Sample

end CppTemplates
