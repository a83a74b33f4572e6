import CppTemplates.Proofs.Instantiation.PassiveRun

/-!
# Runs that return

An analyzer may fail, and it may write to its own state and to the journal.  If it selects primary
templates and changes neither program nor tree, then a run that returns has come down to the same as
with an analyzer that does nothing: the instance was opened, its arguments were injected, and it was
completed.
-/

namespace CppTemplates

/-- Two sessions with the same program and the same tree. -/
structure Session.SameCode (first second : Session) : Prop where
  program : second.program = first.program
  tree : second.tree = first.tree

namespace Session.SameCode

variable {first second third : Session}

theorem refl (session : Session) : session.SameCode session := ⟨rfl, rfl⟩

theorem of_eq (same : second = first) : first.SameCode second := same ▸ refl first

theorem trans (earlier : first.SameCode second) (later : second.SameCode third) :
    first.SameCode third :=
  ⟨later.program.trans earlier.program, later.tree.trans earlier.tree⟩

theorem finishClass (same : first.SameCode second) (entry : SymbolId) (classType : TypeId)
    (inner : DeclContext) :
    (first.finishClass entry classType inner).SameCode
      (second.finishClass entry classType inner) := by
  constructor
  · simp only [Session.finishClass, same.program]
  · exact same.tree

end Session.SameCode

theorem Session.program_record (session : Session) (entity : SymbolId) (location : Location) :
    (session.record entity location).program = session.program ∧
      (session.record entity location).tree = session.tree := by
  unfold Session.record
  split
  · exact ⟨rfl, rfl⟩
  · exact ⟨rfl, rfl⟩

/-- An instance was opened, its arguments were injected, and it was completed. -/
def Session.FillsInstance (before after : Session) (trees : InstantiationTrees) (entry : SymbolId)
    (classType : TypeId) (bindings : List Binding) : Prop :=
  ∃ injected,
    (before.openClass trees entry classType).injectAll
      (before.program.openInstance entry classType).1.1 bindings = .ok injected ∧
    (injected.finishClass entry classType
      (before.program.openInstance entry classType).1.2).SameCode after

/-- If an action returns, program and tree are as they were. -/
def Action.ReturnsSame {σ : Type} (perform : Request → Activity σ Unit) (action : Action σ Unit) :
    Prop :=
  ∀ before after, action.run perform before = .ok () after →
    before.session.SameCode after.session

/-- An analyzer that selects primary templates and changes neither program nor tree when a class is
built.  It may fail. -/
structure Analyzer.IsReserved {σ : Type} (analyzer : Analyzer σ) : Prop where
  solves : analyzer.SelectsPrimary
  bases : ∀ room clause type context,
    (analyzer.buildBaseClause clause type context).ReturnsSame (Activity.handler analyzer room)
  members : ∀ room members type context,
    (analyzer.buildMembers members type context).ReturnsSame (Activity.handler analyzer room)
  finish : ∀ room type context location,
    (analyzer.finishClass type context location).ReturnsSame (Activity.handler analyzer room)

theorem Action.LeavesSession.returnsSame {σ : Type} {action : Action σ Unit}
    (leaves : action.LeavesSession) (perform : Request → Activity σ Unit) :
    action.ReturnsSame perform := by
  intro before after returns
  have ends := leaves perform before
  unfold Activity.Ends at ends
  rw [returns] at ends
  simp only [Except.ok.injEq, Prod.mk.injEq, true_and] at ends
  exact .of_eq ends.symm

theorem Analyzer.IsPassive.isReserved {σ : Type} {analyzer : Analyzer σ}
    (passive : analyzer.IsPassive) : analyzer.IsReserved where
  solves := passive.solves
  bases _ _ _ _ := (passive.bases _ _ _).returnsSame _
  members _ _ _ _ := (passive.members _ _ _).returnsSame _
  finish _ _ _ _ := (passive.finish _ _ _).returnsSame _

namespace Activity

variable {σ : Type} {analyzer : Analyzer σ} {before : Compilation σ} {request : Request}
variable {declarations : List ParameterDeclaration} {trees : InstantiationTrees}
variable {templateType classType : TypeId} {primary entry : SymbolId}
variable {parameters : List TemplateParameter} {name : String} {arguments : List TemplateArgument}

/-- If an activity returns, its session has the code of another one. -/
def ReturnsCode {α : Type} (activity : Activity σ α) (before : Compilation σ) (code : Session) :
    Prop :=
  ∀ result after, activity before = .ok result after → code.SameCode after.session

theorem returnsCode_buildBases (reserved : analyzer.IsReserved) (room : Nat)
    (clause : Option NodeId) (classType : TypeId) (inner : DeclContext) (before : Compilation σ) :
    (buildBases analyzer (handler analyzer room) clause classType inner).ReturnsCode before
      before.session := by
  rintro ⟨⟩ after returns
  cases clause with
  | none =>
      cases returns
      exact .refl _
  | some clause => exact reserved.bases room clause classType inner before after returns

theorem returnsCode_buildMembers (reserved : analyzer.IsReserved) (room : Nat)
    (members : Option NodeId) (classType : TypeId) (inner : DeclContext)
    (before : Compilation σ) :
    (buildMembers analyzer (handler analyzer room) members classType inner).ReturnsCode before
      before.session := by
  rintro ⟨⟩ after returns
  cases members with
  | none =>
      cases returns
      exact .refl _
  | some members => exact reserved.members room members classType _ before after returns

theorem returnsCode_completeClass (reserved : analyzer.IsReserved) (room : Nat)
    (prepared : PreparedClass) (before : Compilation σ) :
    (completeClass analyzer (handler analyzer room) request entry classType
      prepared).ReturnsCode before (before.session.finishClass entry classType prepared.inner) := by
  rintro ⟨⟩ after returns
  obtain ⟨⟨⟩, completed, completes, returns⟩ := eq_ok_of_bind returns
  obtain ⟨⟨⟩, built, builds, returns⟩ := eq_ok_of_bind returns
  obtain ⟨⟨⟩, defined, defines, returns⟩ := eq_ok_of_bind returns
  obtain ⟨⟨⟩, finished, finishes, returns⟩ := eq_ok_of_bind returns
  obtain ⟨⟨⟩, recorded, records, returns⟩ := eq_ok_of_bind returns
  cases completes
  cases defines
  cases records
  cases returns
  have members := returnsCode_buildMembers reserved room _ _ _ _ () built builds
  have sameDefined := reserved.finish room _ _ _ _ finished finishes
  obtain ⟨sameProgram, sameTree⟩ :=
    Session.program_record finished.session entry request.location
  refine .trans ?_ (sameDefined.trans ⟨sameProgram, sameTree⟩)
  constructor
  · exact congrArg (fun program : Program => program.modifyEntry entry _) members.program
  · exact members.tree

section Preparation

variable (isTemplate :
  before.session.program.IsClassTemplate declarations trees templateType primary parameters)
variable (isInstance :
  before.session.program.IsInstance name arguments templateType entry classType)
include isTemplate isInstance

/-- A class is only prepared if there are as many arguments as parameters. -/
theorem length_eq_of_prepareClass (reserved : analyzer.IsReserved) (room : Nat)
    {prepared : PreparedClass} {middle : Compilation σ}
    (prepares : prepareClass analyzer (handler analyzer room) request entry classType templateType
      before = .ok prepared middle) : parameters.length = arguments.length := by
  apply Decidable.byContradiction
  intro otherLength
  have solves := ends_solveClass reserved.solves (handler analyzer room) request isTemplate
    isInstance
  rw [if_neg otherLength] at solves
  have refused : (prepareClass analyzer (handler analyzer room) request entry classType
      templateType).Ends before _ := ends_bind_error solves
  unfold Ends at refused
  rw [prepares] at refused
  cases refused

theorem exists_injectAll_of_prepareClass (reserved : analyzer.IsReserved) (room : Nat)
    (unfilled : before.session.program.IsUnfilled classType) {prepared : PreparedClass}
    {middle : Compilation σ}
    (prepares : prepareClass analyzer (handler analyzer room) request entry classType templateType
      before = .ok prepared middle) :
    prepared.inner = (before.session.program.openInstance entry classType).1.2 ∧ ∃ injected,
      (before.session.openClass trees entry classType).injectAll
        (before.session.program.openInstance entry classType).1.1
        (bindingsFor declarations arguments) = .ok injected ∧
      injected.SameCode middle.session := by
  have sameLength := length_eq_of_prepareClass isTemplate isInstance reserved room prepares
  have opens := Program.opened_openInstance entry unfilled
  let opened := before.session.openClass trees entry classType
  let inner := (before.session.program.openInstance entry classType).1.2
  have fills : (prepareClass analyzer (handler analyzer room) request entry classType
      templateType).Satisfies before fun outcome after => ∀ ready, outcome = .ok ready →
        ready.inner = inner ∧ ∃ injected,
          opened.injectAll (before.session.program.openInstance entry classType).1.1
            (bindingsFor declarations arguments) = .ok injected ∧
          injected.SameCode after.session := by
    refine satisfies_prepareClass_of_selects reserved.solves (handler analyzer room) request
      isTemplate isInstance sameLength fun told sameTold => ?_
    have keeps : before.session.program.KeepsEntities told.session.program := by
      rw [sameTold]
      exact opens.preserves.toKeepsEntities
    have injects := ends_injectDeductions opens.inScope (isTemplate.tell_deductions arguments) keeps
    apply satisfies_mono (ends_iff_satisfies.mp injects)
    rintro (cause | _) injected ended
    · rintro ready ⟨⟩
    intro reported sameReported
    rw [sameTold] at ended
    cases atInjection : opened.injectAll
        (before.session.program.openInstance entry classType).1.1
        (bindingsFor declarations arguments) with
    | error cause =>
        rw [atInjection] at ended
        cases ended
    | ok filled =>
        rw [atInjection] at ended
        cases ended
        refine satisfies_of_returns (fun _ based builds => ?_) (fun _ _ _ impossible => ?_)
        · rintro ready ⟨⟩
          have leaves := returnsCode_buildBases reserved room
            (before.session.tree.copyTrees trees).1.bases classType inner reported () based builds
          exact ⟨rfl, injected.session, rfl, sameReported ▸ leaves⟩
        · cases impossible
  exact fills.of_ok prepares prepared rfl

/-- Filling in a class that returns has opened it, injected all its arguments and completed it. -/
theorem fillsInstance_of_fillClass (reserved : analyzer.IsReserved) (room : Nat)
    (unfilled : before.session.program.IsUnfilled classType) {after : Compilation σ}
    (returns : fillClass analyzer (handler analyzer room) request entry classType templateType
      before = .ok () after) :
    parameters.length = arguments.length ∧ before.session.FillsInstance after.session trees entry
      classType (bindingsFor declarations arguments) := by
  obtain ⟨prepared, middle, prepares, completes⟩ := eq_ok_of_bind returns
  obtain ⟨sameInner, injected, injects, sameCode⟩ :=
    exists_injectAll_of_prepareClass isTemplate isInstance reserved room unfilled prepares
  refine ⟨length_eq_of_prepareClass isTemplate isInstance reserved room prepares, injected, injects,
    ?_⟩
  have completed := returnsCode_completeClass reserved room prepared middle () after completes
  rw [sameInner] at completed
  exact (sameCode.finishClass entry classType _).trans completed

end Preparation

/-- Instantiating an unfilled instance, if it returns, has injected all its arguments. -/
theorem fillsInstance_of_perform (reserved : analyzer.IsReserved)
    (isClass : request.kind = .classTemplate)
    (isTemplate :
      before.session.program.IsClassTemplate declarations trees templateType primary parameters)
    (isInstance :
      before.session.program.IsInstance name arguments templateType request.entry classType)
    (unfilled : before.session.program.IsUnfilled classType) {after : Compilation σ}
    (returns : perform analyzer request before = .ok () after) :
    parameters.length = arguments.length ∧ ∃ entered,
      before.session.enter request.entry request.location = .ok entered ∧
      entered.FillsInstance after.session trees request.entry classType
        (bindingsFor declarations arguments) := by
  have reached : (perform analyzer request).Satisfies before fun outcome after =>
      outcome = .ok () → parameters.length = arguments.length ∧ ∃ entered,
        before.session.enter request.entry request.location = .ok entered ∧
        entered.FillsInstance after.session trees request.entry classType
          (bindingsFor declarations arguments) := by
    refine satisfies_perform_of_within isClass isInstance unfilled fun room told sameTold => ?_
    apply satisfies_within
    · rintro cause _ ⟨⟩
    intro entered enters
    rw [sameTold] at enters
    obtain ⟨sameProgram, _⟩ := program_of_enter enters
    refine satisfies_of_returns (fun _ inside fills _ => ?_) (fun _ _ impossible => ?_)
    · obtain ⟨sameLength, filled, injects, sameCode⟩ :=
        fillsInstance_of_fillClass (by rw [sameProgram]; exact isTemplate)
          (by rw [sameProgram]; exact isInstance) reserved room
          (by rw [sameProgram]; exact unfilled) fills
      exact ⟨sameLength, entered, enters, filled, injects, sameCode.trans ⟨rfl, rfl⟩⟩
    · cases impossible
  exact reached.of_ok returns rfl

end Activity

end CppTemplates
