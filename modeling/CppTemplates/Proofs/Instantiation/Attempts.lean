import CppTemplates.Proofs.Instantiation.Seclusion

/-!
# Attempts to fill in an instance

If the analyzer leaves the session alone, an attempt to fill in an instance ends in one of four
ways: too many instantiations are in progress, there are not as many arguments as parameters, an
argument cannot be injected, or the instance is filled in.  Failures leave traces in the session.
But whatever the end, the attempt has changed one class only, and out of sight of what was there
before.
-/

namespace CppTemplates

namespace Activity

variable {σ α β : Type}

/-- An activity fails and leaves a session behind. -/
def Fails (activity : Activity σ α) (before : Compilation σ) (cause : InstantiationError)
    (left : Session) : Prop :=
  activity.Satisfies before fun outcome after => outcome = .error cause ∧ after.session = left

section Fails

variable {before : Compilation σ} {cause : InstantiationError} {left : Session}

theorem satisfies_of_fails {activity : Activity σ α} (fails : activity.Fails before cause left)
    {goal : Except InstantiationError α → Compilation σ → Prop}
    (reached : ∀ after : Compilation σ, after.session = left → goal (.error cause) after) :
    activity.Satisfies before goal := by
  apply satisfies_mono fails
  rintro outcome after ⟨rfl, same⟩
  exact reached after same

theorem fails_bind {first : Activity σ α} {next : α → Activity σ β}
    (fails : first.Fails before cause left) : (first >>= next).Fails before cause left := by
  apply satisfies_bind
  exact satisfies_of_fails fails fun middle same => ⟨rfl, same⟩

theorem fails_within {work : Activity σ α} {entity : SymbolId} {location : Location}
    {entered : Session} (enters : before.session.enter entity location = .ok entered)
    (workFails : ∀ after : Compilation σ, after.session = entered →
      work.Fails after cause left) :
    (within entity location work).Fails before cause (left.leave entity) := by
  apply satisfies_within
  · intro refusal refused
    rw [enters] at refused
    cases refused
  · intro other entersOther
    cases enters.symm.trans entersOther
    exact satisfies_of_fails (workFails _ rfl) fun after same =>
      ⟨rfl, congrArg (·.leave entity) same⟩

end Fails

theorem Does.fails {activity : Activity σ α} {before : Compilation σ} {cause : InstantiationError}
    {left : Session} (does : activity.Does before (.error cause, left)) :
    activity.Fails before cause left := by
  apply satisfies_mono does
  rintro outcome after ⟨ended, -⟩
  cases ended
  exact ⟨rfl, rfl⟩

end Activity

namespace Session

/-- Declaring the arguments of deductions is injecting the bindings that they tell. -/
theorem injectAll_eq_injectDeductions {program : Program} {parameters : List TemplateParameter}
    {deductions : List Deduction} {bindings : List Binding} {context : DeclContext}
    {scope : ScopeId} (inScope : context.templateScope = some scope)
    (tell : List.Forall₂ (Activity.Tells program parameters) deductions bindings)
    {session : Session} (keeps : program.KeepsEntities session.program) :
    session.injectAll context bindings =
      (session.injectDeductions context parameters deductions).1.map fun _ =>
        (session.injectDeductions context parameters deductions).2 := by
  let before : Compilation Unit := { session, analyzerState := () }
  have ends : (Activity.injectDeductions context parameters deductions).Ends before
      ((session.injectAll context bindings).map fun filled => ((), filled)) :=
    Activity.ends_injectDeductions inScope tell keeps
  have does := Activity.does_injectDeductions context parameters deductions before
  rw [Activity.ends_iff_satisfies] at ends
  unfold Activity.Does at does
  unfold Activity.Satisfies at ends does
  cases atRun : Activity.injectDeductions context parameters deductions before with
  | ok result after =>
      rw [atRun] at ends does
      rw [show session.injectDeductions context parameters deductions = _ from does.1.symm]
      cases injects : session.injectAll context bindings <;> rw [injects] at ends <;> cases ends
      rfl
  | error cause after =>
      rw [atRun] at ends does
      rw [show session.injectDeductions context parameters deductions = _ from does.1.symm]
      cases injects : session.injectAll context bindings <;> rw [injects] at ends <;> cases ends
      rfl

/-- How an attempt to fill in an instance ends and which session it leaves behind. -/
inductive Attempt (asked : Session) (request : Request) (trees : InstantiationTrees)
    (classType : TypeId) (declarations : List ParameterDeclaration)
    (arguments : List TemplateArgument) : Except InstantiationError Unit → Session → Prop
  | refused {cause : InstantiationError}
      (refuses : asked.enter request.entry request.location = .error cause) :
      Attempt asked request trees classType declarations arguments (.error cause) asked
  | mismatched {entered : Session}
      (enters : asked.enter request.entry request.location = .ok entered)
      (otherLength : declarations.length ≠ arguments.length) :
      Attempt asked request trees classType declarations arguments
        (.error (.arityMismatch arguments.length declarations.length))
        (entered.leave request.entry)
  | spoilt {cause : InstantiationError} {entered injected : Session}
      (enters : asked.enter request.entry request.location = .ok entered)
      (injects : (entered.openClass trees request.entry classType).Injects
        ⟨entered.program.scopes.scopes.size⟩ injected)
      (fails : (entered.openClass trees request.entry classType).injectAll
        (entered.program.openInstance request.entry classType).1.1
        (bindingsFor declarations arguments) = .error cause) :
      Attempt asked request trees classType declarations arguments (.error cause)
        (injected.leave request.entry)
  | filled {entered injected : Session}
      (enters : asked.enter request.entry request.location = .ok entered)
      (sameLength : declarations.length = arguments.length)
      (injects : (entered.openClass trees request.entry classType).Injects
        ⟨entered.program.scopes.scopes.size⟩ injected)
      (succeeds : (entered.openClass trees request.entry classType).injectAll
        (entered.program.openInstance request.entry classType).1.1
        (bindingsFor declarations arguments) = .ok injected) :
      Attempt asked request trees classType declarations arguments (.ok ())
        (((injected.finishClass request.entry classType
          (entered.program.openInstance request.entry classType).1.2).record request.entry
            request.location).leave request.entry)

end Session

namespace Activity

variable {σ : Type} {analyzer : Analyzer σ} {declarations : List ParameterDeclaration}
variable {trees : InstantiationTrees} {templateType classType : TypeId} {primary entry : SymbolId}
variable {parameters : List TemplateParameter} {name : String} {arguments : List TemplateArgument}

theorem fails_solveClass (passive : analyzer.IsPassive) (perform : Request → Activity σ Unit)
    (request : Request) {before : Compilation σ}
    (isTemplate :
      before.session.program.IsClassTemplate declarations trees templateType primary parameters)
    (isInstance :
      before.session.program.IsInstance name arguments templateType entry classType)
    (otherLength : parameters.length ≠ arguments.length) :
    (solveClass analyzer perform request entry templateType).Fails before
      (.arityMismatch arguments.length parameters.length) before.session := by
  unfold solveClass
  rw [passive.solves]
  have selects : ((Action.solvePrimary templateType entry).run perform).Does before
      (before.session.program.solvePrimary templateType entry, before.session) :=
    does_ofExcept _ before
  rw [Program.solvePrimary_eq isTemplate isInstance, if_neg otherLength] at selects
  exact fails_bind selects.fails

/-- What has been injected when an argument cannot be injected is left behind. -/
theorem fails_prepareClass (passive : analyzer.IsPassive) (perform : Request → Activity σ Unit)
    (request : Request) {before : Compilation σ}
    (isTemplate :
      before.session.program.IsClassTemplate declarations trees templateType primary parameters)
    (isInstance :
      before.session.program.IsInstance name arguments templateType entry classType)
    (sameLength : parameters.length = arguments.length) {cause : InstantiationError}
    {injected : Session}
    (injects : (before.session.openClass trees entry classType).injectDeductions
      (before.session.program.openInstance entry classType).1.1 parameters
      (List.zipWith before.session.program.deductionFor parameters arguments) =
        (.error cause, injected)) :
    (prepareClass analyzer perform request entry classType templateType).Fails before cause
      injected := by
  refine satisfies_prepareClass_of_declares passive perform request isTemplate isInstance
    sameLength (fun outcome after => outcome = .error cause ∧ after = injected)
    fun told sameTold => ?_
  have does := does_injectDeductions
    (before.session.program.openInstance entry classType).1.1 parameters
    (List.zipWith before.session.program.deductionFor parameters arguments) told
  rw [sameTold, injects] at does
  exact satisfies_of_fails does.fails fun after same => ⟨rfl, same⟩

theorem fails_perform {request : Request} {before : Compilation σ} {entered left : Session}
    {cause : InstantiationError} (isClass : request.kind = .classTemplate)
    (isInstance :
      before.session.program.IsInstance name arguments templateType request.entry classType)
    (unfilled : before.session.program.IsUnfilled classType)
    (enters : before.session.enter request.entry request.location = .ok entered)
    (fillFails : ∀ (further : Request → Activity σ Unit) (inside : Compilation σ),
      inside.session = entered →
        (fillClass analyzer further request request.entry classType templateType).Fails inside
          cause left) :
    (perform analyzer request).Fails before cause (left.leave request.entry) :=
  satisfies_perform_of_within isClass isInstance unfilled fun _ told sameTold =>
    fails_within (by rw [sameTold]; exact enters) (fillFails _)

/-- An activity attempts to fill in an instance. -/
def IsAttempt (activity : Activity σ Unit) (before : Compilation σ) (request : Request)
    (trees : InstantiationTrees) (classType : TypeId) (declarations : List ParameterDeclaration)
    (arguments : List TemplateArgument) : Prop :=
  activity.Satisfies before fun outcome after =>
    before.session.Attempt request trees classType declarations arguments outcome after.session

section Perform

variable {request : Request} {before : Compilation σ}
variable (isClass : request.kind = .classTemplate)
variable (isInstance :
  before.session.program.IsInstance name arguments templateType request.entry classType)
variable (unfilled : before.session.program.IsUnfilled classType)
include isClass isInstance unfilled

theorem isAttempt_of_refuses {cause : InstantiationError}
    (refuses : before.session.enter request.entry request.location = .error cause) :
    (perform analyzer request).IsAttempt before request trees classType declarations
      arguments := by
  refine satisfies_perform_of_within isClass isInstance unfilled fun room told sameTold => ?_
  apply satisfies_within
  · intro refusal refusesTold
    rw [sameTold] at refusesTold ⊢
    exact .refused refusesTold
  · intro entered enters
    rw [sameTold, refuses] at enters
    cases enters

variable (passive : analyzer.IsPassive)
variable (isTemplate :
  before.session.program.IsClassTemplate declarations trees templateType primary parameters)
variable {entered : Session}
variable (enters : before.session.enter request.entry request.location = .ok entered)
include passive isTemplate enters

theorem isAttempt_of_otherLength (otherLength : parameters.length ≠ arguments.length) :
    (perform analyzer request).IsAttempt before request trees classType declarations
      arguments := by
  obtain ⟨sameProgram, -⟩ := program_of_enter enters
  obtain ⟨nesting, listed⟩ := isTemplate.lists
  have fails : (perform analyzer request).Fails before
      (.arityMismatch arguments.length parameters.length) (entered.leave request.entry) := by
    rw [← sameProgram] at isTemplate
    refine fails_perform isClass isInstance unfilled enters fun further inside sameInside => ?_
    rw [← sameProgram] at isInstance
    subst sameInside
    exact fails_bind (fails_bind (fails_solveClass passive further request isTemplate
      isInstance otherLength))
  rw [listed.length_eq] at fails otherLength
  refine satisfies_of_fails fails fun after sameAfter => ?_
  rw [sameAfter]
  exact .mismatched enters otherLength

/-- Whether the instance is filled in depends on whether all its arguments can be injected. -/
theorem isAttempt_of_sameLength (sameLength : parameters.length = arguments.length) :
    (perform analyzer request).IsAttempt before request trees classType declarations
      arguments := by
  obtain ⟨sameProgram, -⟩ := program_of_enter enters
  obtain ⟨nesting, listed⟩ := isTemplate.lists
  have unfilledInside : entered.program.IsUnfilled classType := sameProgram ▸ unfilled
  have isTemplateInside :
      entered.program.IsClassTemplate declarations trees templateType primary parameters :=
    sameProgram ▸ isTemplate
  have isInstanceInside :
      entered.program.IsInstance name arguments templateType request.entry classType :=
    sameProgram ▸ isInstance
  let opened := entered.openClass trees request.entry classType
  let context := (entered.program.openInstance request.entry classType).1.1
  let deductions := List.zipWith entered.program.deductionFor parameters arguments
  have opens := Program.opened_openInstance request.entry unfilledInside
  have keeps : entered.program.KeepsEntities opened.program := opens.preserves.toKeepsEntities
  -- `injectAll` forgets what a failure leaves behind, so the cases are those of the deductions.
  have sameInjection := Session.injectAll_eq_injectDeductions opens.inScope
    (isTemplateInside.tell_deductions arguments) keeps
  have injects := Session.injects_of_injectDeductions opens.inScope parameters deductions opened
  cases atInjection : opened.injectDeductions context parameters deductions with
  | mk outcome injected =>
      rw [atInjection] at sameInjection injects
      cases outcome with
      | error cause =>
          have fails : (perform analyzer request).Fails before cause
              (injected.leave request.entry) := by
            refine fails_perform isClass isInstance unfilled enters
              fun further inside sameInside => ?_
            subst sameInside
            exact fails_bind (fails_prepareClass passive further request isTemplateInside
              isInstanceInside sameLength atInjection)
          refine satisfies_of_fails fails fun after sameAfter => ?_
          rw [sameAfter]
          exact .spoilt enters injects sameInjection
      | ok _ =>
          have succeeds : opened.injectAll context (bindingsFor declarations arguments) =
              .ok injected := sameInjection
          have ends :=
            ends_perform passive isClass isTemplate isInstance unfilled sameLength enters
          rw [succeeds] at ends
          apply satisfies_mono (ends_iff_satisfies.mp ends)
          rintro (cause | _) after ended
          · cases ended
          · simp only [Except.map, Except.ok.injEq, Prod.mk.injEq, true_and] at ended
            rw [← ended]
            exact .filled enters (listed.length_eq.symm.trans sameLength) injects succeeds

end Perform

/-- Carrying out a request for an unfilled instance is such an attempt. -/
theorem isAttempt_perform (passive : analyzer.IsPassive) {request : Request}
    {before : Compilation σ} (isClass : request.kind = .classTemplate)
    (isTemplate :
      before.session.program.IsClassTemplate declarations trees templateType primary parameters)
    (isInstance :
      before.session.program.IsInstance name arguments templateType request.entry classType)
    (unfilled : before.session.program.IsUnfilled classType) :
    (perform analyzer request).IsAttempt before request trees classType declarations
      arguments := by
  cases enters : before.session.enter request.entry request.location with
  | error cause => exact isAttempt_of_refuses isClass isInstance unfilled enters
  | ok entered =>
      by_cases sameLength : parameters.length = arguments.length
      · exact isAttempt_of_sameLength isClass isInstance unfilled passive isTemplate enters
          sameLength
      · exact isAttempt_of_otherLength isClass isInstance unfilled passive isTemplate enters
          sameLength

end Activity

namespace Session

variable {base asked session injected after : Session} {request : Request}
variable {trees : InstantiationTrees} {classType : TypeId} {entry : SymbolId}
variable {declarations : List ParameterDeclaration} {arguments : List TemplateArgument}

section Injected

variable (unfilled : session.program.IsUnfilled classType)
variable (injects : (session.openClass trees entry classType).Injects
  ⟨session.program.scopes.scopes.size⟩ injected)
include unfilled injects

/-- Opening a class and declaring its arguments leaves all other classes alone. -/
theorem leaves_injected {other : TypeId} (different : other ≠ classType) :
    Program.Leaves other session.program injected.program := by
  obtain ⟨data, isClass, -⟩ := unfilled
  obtain ⟨-, leaves, -⟩ := Program.openInstance_spec entry isClass
  exact (leaves other different).trans (injects.leaves other)

theorem exists_classType_injected : ∃ data, injected.program.type classType = .classType data ∧
    data.innerContext = some (session.program.openInstance entry classType).1.2 := by
  obtain ⟨data, isClass, -⟩ := unfilled
  obtain ⟨-, -, recorded, -⟩ := Program.openInstance_spec entry isClass
  exact ⟨_, (injects.leaves classType).classType _ recorded, rfl⟩

theorem isInstance_injected {name : String} {templateType : TypeId}
    (isInstance : session.program.IsInstance name arguments templateType entry classType) :
    injected.program.IsInstance name arguments templateType entry classType := by
  have opens := Program.opened_openInstance entry unfilled
  exact isInstance.retained
    (.of_keepsEntities (opens.preserves.toKeepsEntities.trans injects.keeps))

theorem Secludes.of_injects (secludes : base.Secludes session) : base.Secludes injected := by
  obtain ⟨opened, outside⟩ := secludes.openClass trees entry unfilled
  exact (opened.injects secludes.program.scopes.size_le outside injects).1

end Injected

theorem argument_mem_of_bindingsFor {binding : Binding}
    (member : binding ∈ bindingsFor declarations arguments) : binding.argument ∈ arguments := by
  induction declarations generalizing arguments with
  | nil => cases member
  | cons declaration declarations ih =>
      cases arguments with
      | nil => cases member
      | cons argument arguments =>
          rcases List.mem_cons.mp member with rfl | inRest
          · exact List.mem_cons_self
          · exact List.mem_cons_of_mem _ (ih inRest)

/-- An instance could be filled in: there is room, there are as many arguments as parameters, and
every argument can be injected. -/
def CanFillIn (session : Session) (declarations : List ParameterDeclaration)
    (arguments : List TemplateArgument) : Prop :=
  session.depth < session.limits.maxDepth ∧ declarations.length = arguments.length ∧
    ∀ binding ∈ bindingsFor declarations arguments, session.IsInjectable binding

namespace Attempt

variable {templateType : TypeId} {name : String} {outcome : Except InstantiationError Unit}
variable (attempt : asked.Attempt request trees classType declarations arguments outcome after)
include attempt

theorem sameBooks : asked.SameBooks after := by
  cases attempt with
  | refused _ => exact .refl _
  | mismatched enters _ => exact sameBooks_leave (sameBooks_enter enters) _
  | spoilt enters injects _ =>
      have works := (works_openClass trees request.entry classType).trans injects.works
      exact sameBooks_leave ((sameBooks_enter enters).trans works.sameBooks) _
  | @filled entered injected enters _ injects _ =>
      let inner := (entered.program.openInstance request.entry classType).1.2
      have works := (works_openClass trees request.entry classType).trans injects.works
      have finished : injected.SameBooks (injected.finishClass request.entry classType inner) :=
        ⟨⟨rfl, rfl⟩, rfl, rfl⟩
      have books := ((sameBooks_enter enters).trans works.sameBooks).trans finished
      exact sameBooks_leave (books.trans (sameBooks_record _ _ _)) _

variable (unfilled : asked.program.IsUnfilled classType)
include unfilled

theorem leaves {other : TypeId} (different : other ≠ classType) :
    Program.Leaves other asked.program after.program := by
  cases attempt with
  | refused _ => exact .refl _
  | mismatched enters _ =>
      obtain ⟨sameProgram, -⟩ := Activity.program_of_enter enters
      exact sameProgram ▸ .refl _
  | spoilt enters injects _ =>
      obtain ⟨sameProgram, -⟩ := Activity.program_of_enter enters
      rw [← sameProgram] at unfilled ⊢
      exact leaves_injected unfilled injects different
  | @filled entered injected enters _ injects _ =>
      obtain ⟨sameProgram, -⟩ := Activity.program_of_enter enters
      rw [← sameProgram] at unfilled ⊢
      let inner := (entered.program.openInstance request.entry classType).1.2
      obtain ⟨data, isClass, -⟩ := exists_classType_injected unfilled injects
      obtain ⟨-, completes, -⟩ := Program.completeInstance_completes request.entry isClass inner
      have finishes : Program.Leaves other injected.program
          (injected.finishClass request.entry classType inner).program :=
        (completes other different).trans
          (Program.leaves_modifyEntry request.entry (fun _ => rfl) fun _ => rfl)
      have sameRecord := (program_record (injected.finishClass request.entry classType inner)
        request.entry request.location).1
      rw [← sameRecord] at finishes
      exact (leaves_injected unfilled injects different).trans finishes

theorem secludes (isInstance : asked.program.IsInstance name arguments templateType request.entry
      classType)
    (secludes : base.Secludes asked) (unopened : base.program.IsUnopened classType) :
    base.Secludes after := by
  have inside : ∀ {entered : Session},
      asked.enter request.entry request.location = .ok entered →
      entered.program.IsUnfilled classType ∧
        entered.program.IsInstance name arguments templateType request.entry classType ∧
        base.Secludes entered := by
    intro entered enters
    obtain ⟨sameProgram, sameTree⟩ := Activity.program_of_enter enters
    exact ⟨sameProgram ▸ unfilled, sameProgram ▸ isInstance,
      secludes.of_same sameProgram sameTree⟩
  cases attempt with
  | refused _ => exact secludes
  | mismatched enters _ => exact (inside enters).2.2.of_same rfl rfl
  | spoilt enters injects _ =>
      obtain ⟨unfilledInside, -, entering⟩ := inside enters
      exact (entering.of_injects unfilledInside injects).of_same rfl rfl
  | @filled entered injected enters _ injects _ =>
      obtain ⟨unfilledInside, isInstanceInside, entering⟩ := inside enters
      obtain ⟨data, isClass, hasInner⟩ := exists_classType_injected unfilledInside injects
      have finished := (entering.of_injects unfilledInside injects).finishClass
        (isInstance_injected unfilledInside injects isInstanceInside) unopened
        ((Program.innerContext?_eq isClass).trans hasInner)
      obtain ⟨sameProgram, sameTree⟩ := program_record (injected.finishClass request.entry classType
        (entered.program.openInstance request.entry classType).1.2) request.entry request.location
      exact finished.of_same sameProgram sameTree

/-- An attempt succeeds exactly if the instance could be filled in before classes were opened out of
sight. -/
theorem eq_ok_iff (closed : base.program.IsClosed base.tree) (secludes : base.Secludes asked)
    (level : base.SameLevel asked) (hosted : ∀ argument ∈ arguments, base.Hosts argument) :
    outcome = .ok () ↔ base.CanFillIn declarations arguments := by
  have injectable : ∀ {entered : Session},
      asked.enter request.entry request.location = .ok entered →
      ((∃ all, (entered.openClass trees request.entry classType).injectAll
          (entered.program.openInstance request.entry classType).1.1
          (bindingsFor declarations arguments) = .ok all) ↔
        ∀ binding ∈ bindingsFor declarations arguments, base.IsInjectable binding) := by
    intro entered enters
    obtain ⟨sameProgram, sameTree⟩ := Activity.program_of_enter enters
    have unfilledInside : entered.program.IsUnfilled classType := sameProgram ▸ unfilled
    have entering : base.Secludes entered := secludes.of_same sameProgram sameTree
    have opens := Program.opened_openInstance request.entry unfilledInside
    obtain ⟨opened, outside⟩ := entering.openClass trees request.entry unfilledInside
    exact opened.exists_injectAll_iff closed opens.inScope entering.program.scopes.size_le outside
      fun binding member => hosted binding.argument (argument_mem_of_bindingsFor member)
  unfold CanFillIn
  rw [← level.limits, ← level.depth]
  cases attempt with
  | refused refuses =>
      refine iff_of_false (by simp) fun ⟨room, _⟩ => ?_
      rw [enter, if_neg (Nat.not_le_of_lt room)] at refuses
      cases refuses
  | mismatched enters otherLength =>
      exact iff_of_false (by simp) fun ⟨_, sameLength, _⟩ => otherLength sameLength
  | spoilt enters injects fails =>
      refine iff_of_false (by simp) fun ⟨_, _, canInject⟩ => ?_
      obtain ⟨all, succeeds⟩ := (injectable enters).mpr canInject
      cases fails.symm.trans succeeds
  | filled enters sameLength injects succeeds =>
      obtain ⟨room, -⟩ := enter_eq_ok enters
      exact iff_of_true rfl ⟨room, sameLength, (injectable enters).mp ⟨_, succeeds⟩⟩

end Attempt

end Session

end CppTemplates
