import CppTemplates.Proofs.Instantiation.BoundInstance
import CppTemplates.Proofs.Instantiation.Contracts

/-!
# Runs that the analyzer leaves alone

An analyzer that selects primary templates and otherwise leaves the session alone makes an
instantiation a matter of the session only.  The journal and the state of the analyzer change, but
the outcome does not depend on them.  So the run of a class instance is the injection of its
arguments between two known changes of the program.
-/

namespace CppTemplates

namespace Activity

variable {σ α β : Type}

/-- An activity ends with an outcome: a result and a session, or an error. -/
def Ends (activity : Activity σ α) (before : Compilation σ)
    (outcome : Except InstantiationError (α × Session)) : Prop :=
  match activity before with
  | .ok result after => outcome = .ok (result, after.session)
  | .error cause _ => outcome = .error cause

theorem ends_pure (result : α) (before : Compilation σ) :
    (pure result : Activity σ α).Ends before (.ok (result, before.session)) := rfl

theorem ends_throw (cause : InstantiationError) (before : Compilation σ) :
    (throw cause : Activity σ α).Ends before (.error cause) := rfl

/-- How an activity ends is a contract. -/
theorem ends_iff_satisfies {activity : Activity σ α} {before : Compilation σ}
    {outcome : Except InstantiationError (α × Session)} :
    activity.Ends before outcome ↔ activity.Satisfies before fun ended after =>
      outcome = ended.map fun result => (result, after.session) := by
  unfold Ends Satisfies
  cases activity before <;> exact Iff.rfl

theorem satisfies_bind_ends {first : Activity σ α} {next : α → Activity σ β}
    {before : Compilation σ} {result : α} {middle : Session}
    {goal : Except InstantiationError β → Compilation σ → Prop}
    (firstEnds : first.Ends before (.ok (result, middle)))
    (rest : ∀ after : Compilation σ, after.session = middle → (next result).Satisfies after goal) :
    (first >>= next).Satisfies before goal := by
  apply satisfies_bind
  apply satisfies_mono (ends_iff_satisfies.mp firstEnds)
  rintro (cause | value) after ended
  · cases ended
  · cases ended
    exact rest after rfl

theorem ends_bind_ok {first : Activity σ α} {next : α → Activity σ β} {before : Compilation σ}
    {result : α} {middle : Session} {outcome : Except InstantiationError (β × Session)}
    (firstEnds : first.Ends before (.ok (result, middle)))
    (nextEnds : ∀ after : Compilation σ, after.session = middle →
      (next result).Ends after outcome) : (first >>= next).Ends before outcome :=
  ends_iff_satisfies.mpr <| satisfies_bind_ends firstEnds fun after same =>
    ends_iff_satisfies.mp (nextEnds after same)

theorem ends_bind_error {first : Activity σ α} {next : α → Activity σ β} {before : Compilation σ}
    {cause : InstantiationError} (firstEnds : first.Ends before (.error cause)) :
    (first >>= next).Ends before (.error cause) := by
  unfold Ends at firstEnds ⊢
  simp only [bind, EStateM.bind]
  cases atFirst : first before with
  | ok value after =>
      rw [atFirst] at firstEnds
      cases firstEnds
  | error _ after =>
      rw [atFirst] at firstEnds
      cases firstEnds
      rfl

theorem ends_ofExcept (outcome : Except InstantiationError α) (before : Compilation σ) :
    (ofExcept outcome).Ends before (outcome.map fun result => (result, before.session)) := by
  cases outcome with
  | ok result => exact ends_pure result before
  | error cause => exact ends_throw cause before

theorem ends_session (before : Compilation σ) :
    session.Ends before (.ok (before.session, before.session)) := rfl

theorem ends_program (before : Compilation σ) :
    program.Ends before (.ok (before.session.program, before.session)) := rfl

theorem ends_modifySession (change : Session → Session) (before : Compilation σ) :
    (modifySession change).Ends before (.ok ((), change before.session)) := rfl

theorem ends_modifyProgram (change : Program → Program) (before : Compilation σ) :
    (modifyProgram change).Ends before
      (.ok ((), { before.session with program := change before.session.program })) := rfl

theorem ends_onProgram (operation : Program → α × Program) (before : Compilation σ) :
    (onProgram operation).Ends before
      (.ok ((operation before.session.program).1,
        { before.session with program := (operation before.session.program).2 })) := rfl

theorem ends_onTree (operation : SyntaxTree → α × SyntaxTree) (before : Compilation σ) :
    (onTree operation).Ends before
      (.ok ((operation before.session.tree).1,
        { before.session with tree := (operation before.session.tree).2 })) := rfl

theorem ends_debug (message : Session → String) (before : Compilation σ) :
    (debug message).Ends before (.ok ((), before.session)) := rfl

theorem ends_logAll (lines : Session → List LogLine) (before : Compilation σ) :
    (logAll lines).Ends before (.ok ((), before.session)) := rfl

theorem ends_within {work : Activity σ α} {before : Compilation σ} {entity : SymbolId}
    {location : Location} {entered : Session}
    {outcome : Except InstantiationError (α × Session)}
    (enters : before.session.enter entity location = .ok entered)
    (workEnds : ∀ after : Compilation σ, after.session = entered → work.Ends after outcome) :
    (within entity location work).Ends before
      (outcome.map fun done => (done.1, done.2.leave entity)) := by
  have workEnds := workEnds { before with session := entered } rfl
  unfold Ends at workEnds ⊢
  unfold within
  simp only [enters]
  cases atWork : work { before with session := entered } with
  | ok result after =>
      rw [atWork] at workEnds
      rw [workEnds]
      rfl
  | error cause after =>
      rw [atWork] at workEnds
      rw [workEnds]
      rfl

theorem ends_injectArgument (context : DeclContext) (name : String) (kind : ParameterKind)
    (argument : TemplateArgument) (before : Compilation σ) :
    (injectArgument context name kind argument).Ends before
      (before.session.injectArgument context name kind argument) := by
  refine ends_bind_ok (ends_logAll _ before) fun logged sameLogged => ?_
  refine ends_bind_ok (ends_session logged) fun read sameRead => ?_
  rw [← sameLogged]
  have injects := ends_ofExcept (logged.session.injectArgument context name kind argument) read
  cases atInjection : logged.session.injectArgument context name kind argument with
  | error cause =>
      rw [atInjection] at injects
      exact ends_bind_error injects
  | ok result =>
      rw [atInjection] at injects
      refine ends_bind_ok injects fun injected _ => ?_
      refine ends_bind_ok (ends_modifySession _ injected) fun stored sameStored => ?_
      have done := ends_pure result.1 stored
      rw [sameStored] at done
      exact done

/-- A deduction tells the name, the kind and the argument of a binding, whatever is declared
later. -/
def Tells (program : Program) (parameters : List TemplateParameter) (deduction : Deduction)
    (binding : Binding) : Prop :=
  deduction.deduced = [binding.argument] ∧ deduction.kind = binding.kind ∧
    ∀ later : Program, program.KeepsEntities later →
      later.parameterName parameters deduction.nesting deduction.position = .ok binding.name

theorem ends_injectDeductions {program : Program} {parameters : List TemplateParameter}
    {deductions : List Deduction} {bindings : List Binding} {context : DeclContext}
    {scope : ScopeId} (inScope : context.templateScope = some scope)
    (tell : List.Forall₂ (Tells program parameters) deductions bindings)
    {before : Compilation σ} (keeps : program.KeepsEntities before.session.program) :
    (injectDeductions context parameters deductions).Ends before
      ((before.session.injectAll context bindings).map fun filled => ((), filled)) := by
  induction tell generalizing before with
  | nil => exact ends_pure () before
  | @cons deduction binding deductions bindings tells _ ih =>
      obtain ⟨single, sameKind, named⟩ := tells
      unfold injectDeductions
      rw [single]
      dsimp only
      refine ends_bind_ok (ends_program before) fun read sameRead => ?_
      rw [named before.session.program keeps]
      refine ends_bind_ok (ends_ofExcept (.ok binding.name) read) fun told sameTold => ?_
      rw [sameKind, Session.injectAll, ← sameRead, ← sameTold]
      have injects := ends_injectArgument context binding.name binding.kind binding.argument told
      cases atInjection : told.session.injectArgument context binding.name binding.kind
          binding.argument with
      | error cause =>
          rw [atInjection] at injects
          exact ends_bind_error injects
      | ok result =>
          rw [atInjection] at injects
          refine ends_bind_ok injects fun injected sameInjected => ?_
          have grown := (Session.injectArgument_ok inScope atInjection).1
          have rest := @ih injected (by
            rw [sameInjected]
            refine Program.KeepsEntities.trans ?_ grown
            rw [sameTold, sameRead]
            exact keeps)
          rw [sameInjected] at rest
          exact rest

end Activity

def bindingsFor (declarations : List ParameterDeclaration) (arguments : List TemplateArgument) :
    List Binding :=
  List.zipWith (fun declaration argument => ⟨declaration.name, declaration.kind, argument⟩)
    declarations arguments

namespace Program

variable {program : Program} {declarations : List ParameterDeclaration}
variable {trees : InstantiationTrees} {templateType classType : TypeId} {primary entry : SymbolId}
variable {parameters : List TemplateParameter} {name : String} {arguments : List TemplateArgument}

theorem ParametersDeclared.parameterName_eq {nesting position index : Nat}
    {declaration : ParameterDeclaration}
    (declared : program.ParametersDeclared nesting position parameters declarations)
    (isAt : declarations[index]? = some declaration) :
    program.parameterName parameters nesting (position + index) = .ok declaration.name := by
  induction declared generalizing index with
  | nil => simp at isAt
  | @cons position parameter parameters head declarations _ _ named inList atPosition _ ih =>
      cases index with
      | zero =>
          simp only [List.getElem?_cons_zero, Option.some.injEq] at isAt
          subst isAt
          simp [parameterName, parameterAt?, inList, atPosition, symbolName, named]
      | succ index =>
          have other : (position == position + (index + 1)) = false := by simp
          have found := ih (by simpa using isAt)
          rw [Nat.add_right_comm, Nat.add_assoc] at found
          rw [← found]
          simp [parameterName, parameterAt?, atPosition, other]

/-- The deductions for parameters and arguments tell the bindings of the declared names. -/
theorem tell_deductions {all : List TemplateParameter} {nesting position : Nat}
    (listed : program.ParametersDeclared nesting position parameters declarations)
    (names : ∀ index declaration, declarations[index]? = some declaration →
      ∀ later : Program, program.KeepsEntities later →
        later.parameterName all nesting (position + index) = .ok declaration.name)
    (arguments : List TemplateArgument) :
    List.Forall₂ (Activity.Tells program all)
      (List.zipWith program.deductionFor parameters arguments)
      (bindingsFor declarations arguments) := by
  induction listed generalizing arguments with
  | nil => simp [bindingsFor]
  | @cons position parameter parameters declaration declarations _ sameKind _ inList atPosition _
      ih =>
      cases arguments with
      | nil => simp [bindingsFor]
      | cons argument arguments =>
          refine .cons ⟨rfl, sameKind, ?_⟩ (ih ?_ arguments)
          · intro later keeps
            have named := names 0 declaration rfl later keeps
            simpa [deductionFor, inList, atPosition] using named
          · intro index declaration isAt later keeps
            have named := names (index + 1) declaration (by simpa using isAt) later keeps
            rw [Nat.add_right_comm, Nat.add_assoc]
            exact named

theorem IsClassTemplate.tell_deductions
    (isTemplate : program.IsClassTemplate declarations trees templateType primary parameters)
    (arguments : List TemplateArgument) :
    List.Forall₂ (Activity.Tells program parameters)
      (List.zipWith program.deductionFor parameters arguments)
      (bindingsFor declarations arguments) := by
  obtain ⟨nesting, listed⟩ := isTemplate.lists
  exact Program.tell_deductions listed
    (fun _ _ isAt _ keeps =>
      (listed.retained (Retains.of_keepsEntities keeps)).parameterName_eq isAt) arguments

theorem IsClassTemplate.selected
    (isTemplate : program.IsClassTemplate declarations trees templateType primary parameters) :
    ∃ specialization, (program.entry primary).type.bind program.specialization? =
      some specialization ∧ specialization.parameters = parameters := by
  obtain ⟨primaryType, data, specialization, typed, atType, _, special, ofParameters⟩ :=
    isTemplate.defines
  refine ⟨specialization, ?_, ofParameters⟩
  rw [typed, Option.bind_some, specialization?, classData?_eq_self atType]
  exact special

theorem IsInstance.requested
    (isInstance : program.IsInstance name arguments templateType entry classType) :
    ∃ specialization, (program.entry entry).type.bind program.specialization? =
      some specialization ∧ specialization.arguments = arguments := by
  obtain ⟨data, specialization, atType, special, _, ofArguments⟩ := isInstance.special
  refine ⟨specialization, ?_, ofArguments⟩
  rw [isInstance.typed, Option.bind_some, specialization?, classData?_eq_self atType]
  exact special

theorem IsClassTemplate.templateData?_eq
    (isTemplate : program.IsClassTemplate declarations trees templateType primary parameters) :
    ∃ data, program.templateData? templateType = some data ∧ data.primary = primary := by
  obtain ⟨data, atType, isPrimary⟩ := isTemplate.names
  have notTypedef : program.aliased? templateType = none := by simp [aliased?, atType]
  refine ⟨data, ?_, isPrimary⟩
  simp [templateData?, stripTypedefs, followTypedefs_of_eq_none _ notTypedef, atType]

/-- For as many arguments as parameters, the primary template is selected and each parameter is
bound to the argument at its position. -/
theorem solvePrimary_eq
    (isTemplate : program.IsClassTemplate declarations trees templateType primary parameters)
    (isInstance : program.IsInstance name arguments templateType entry classType) :
    program.solvePrimary templateType entry =
      if parameters.length = arguments.length then
        .ok (some
          { selected := primary
            deductions := List.zipWith program.deductionFor parameters arguments })
      else
        .error (.arityMismatch arguments.length parameters.length) := by
  obtain ⟨data, ofData, isPrimary⟩ := isTemplate.templateData?_eq
  obtain ⟨generic, selected, rfl⟩ := isTemplate.selected
  obtain ⟨special, requested, rfl⟩ := isInstance.requested
  subst isPrimary
  simp only [solvePrimary, ofData, selected, requested]

end Program

namespace Session

variable {session : Session} {declarations : List ParameterDeclaration}
variable {trees : InstantiationTrees} {templateType classType : TypeId} {primary entry : SymbolId}
variable {parameters : List TemplateParameter} {name : String} {arguments : List TemplateArgument}

theorem selectedTemplate?_eq
    (isTemplate :
      session.program.IsClassTemplate declarations trees templateType primary parameters) :
    session.selectedTemplate? primary = some (trees, parameters) := by
  obtain ⟨primaryType, data, specialization, typed, atType, ofTrees, special, ofParameters⟩ :=
    isTemplate.defines
  simp [selectedTemplate?, typed, Program.classData?_eq_self atType, special, ofTrees,
    ofParameters]

theorem resolveClassEntry_eq
    (isInstance : session.program.IsInstance name arguments templateType entry classType) :
    session.resolveClassEntry entry = .ok entry := by
  simp [resolveClassEntry, isInstance.kind]

/-- An unfilled instance is eligible. -/
theorem eligibleClass?_eq
    (isInstance : session.program.IsInstance name arguments templateType entry classType)
    (unfilled : session.program.IsUnfilled classType) :
    session.eligibleClass? entry = some (classType, templateType) := by
  obtain ⟨data, specialization, atType, special, ofTemplate, _⟩ := isInstance.special
  obtain ⟨_, atType', incomplete, _⟩ := unfilled
  rw [atType] at atType'
  cases atType'
  simp [eligibleClass?, isInstance.typed, Program.actualClass?_eq_self atType,
    Program.classData?_eq_self atType, special, incomplete, ofTemplate]

/-- The session in which the arguments of an instance are injected. -/
def openClass (session : Session) (trees : InstantiationTrees) (entry : SymbolId)
    (classType : TypeId) : Session :=
  { session with
    tree := (session.tree.copyTrees trees).2
    program := (session.program.openInstance entry classType).2 }

end Session

/-- Whatever requests would do, an action succeeds and leaves the session as it is. -/
def Action.LeavesSession {σ : Type} (action : Action σ Unit) : Prop :=
  ∀ (perform : Request → Activity σ Unit) (before : Compilation σ),
    (action.run perform).Ends before (.ok ((), before.session))

/-- An analyzer that selects primary templates. -/
def Analyzer.SelectsPrimary {σ : Type} (analyzer : Analyzer σ) : Prop :=
  ∀ context template requested location,
    analyzer.solveClassTemplate context template requested location =
      .solvePrimary template requested

/-- An analyzer that selects primary templates and leaves the session alone when a class is
built. -/
structure Analyzer.IsPassive {σ : Type} (analyzer : Analyzer σ) : Prop where
  solves : ∀ context template requested location,
    analyzer.solveClassTemplate context template requested location =
      .solvePrimary template requested
  bases : ∀ clause type context, (analyzer.buildBaseClause clause type context).LeavesSession
  members : ∀ members type context, (analyzer.buildMembers members type context).LeavesSession
  finish : ∀ type context location, (analyzer.finishClass type context location).LeavesSession

theorem Analyzer.idle_isPassive (σ : Type) : (Analyzer.idle σ).IsPassive where
  solves _ _ _ _ := rfl
  bases _ _ _ _ before := Activity.ends_pure () before
  members _ _ _ _ before := Activity.ends_pure () before
  finish _ _ _ _ before := Activity.ends_pure () before

namespace Activity

variable {σ : Type} {analyzer : Analyzer σ}
variable {declarations : List ParameterDeclaration} {trees : InstantiationTrees}
variable {templateType classType : TypeId} {primary entry : SymbolId}
variable {parameters : List TemplateParameter} {name : String} {arguments : List TemplateArgument}

/-- How the engine carries out the requests that are made while it has room for a number of nested
instantiations. -/
def handler (analyzer : Analyzer σ) : Nat → Request → Activity σ Unit
  | 0 => refuse
  | room + 1 => performIn analyzer room

theorem performIn_eq_handler (analyzer : Analyzer σ) (room : Nat) :
    performIn analyzer room = performWith analyzer (handler analyzer room) := by
  cases room with
  | zero => rfl
  | succ room => rfl

theorem ends_buildBases (passive : analyzer.IsPassive) (perform : Request → Activity σ Unit)
    (clause : Option NodeId) (classType : TypeId) (inner : DeclContext) (before : Compilation σ) :
    (buildBases analyzer perform clause classType inner).Ends before
      (.ok ((), before.session)) := by
  cases clause with
  | none => exact ends_pure () before
  | some clause => exact passive.bases clause classType inner perform before

theorem ends_buildMembers (passive : analyzer.IsPassive) (perform : Request → Activity σ Unit)
    (members : Option NodeId) (classType : TypeId) (inner : DeclContext)
    (before : Compilation σ) :
    (buildMembers analyzer perform members classType inner).Ends before
      (.ok ((), before.session)) := by
  cases members with
  | none => exact ends_pure () before
  | some members => exact passive.members members classType _ perform before

theorem ends_solveClass (selects : analyzer.SelectsPrimary) (perform : Request → Activity σ Unit)
    (request : Request) {before : Compilation σ}
    (isTemplate :
      before.session.program.IsClassTemplate declarations trees templateType primary parameters)
    (isInstance :
      before.session.program.IsInstance name arguments templateType entry classType) :
    (solveClass analyzer perform request entry templateType).Ends before
      (if parameters.length = arguments.length then
        .ok ({ selected := primary
               deductions :=
                List.zipWith before.session.program.deductionFor parameters arguments },
          before.session)
      else
        .error (.arityMismatch arguments.length parameters.length)) := by
  unfold solveClass
  rw [selects]
  have solves : ((Action.solvePrimary templateType entry).run perform).Ends before
      ((before.session.program.solvePrimary templateType entry).map
        fun result => (result, before.session)) :=
    ends_ofExcept _ before
  rw [Program.solvePrimary_eq isTemplate isInstance] at solves
  split
  · next sameLength =>
    rw [if_pos sameLength] at solves
    refine ends_bind_ok solves fun after same => ?_
    have done := ends_pure (⟨primary,
      List.zipWith before.session.program.deductionFor parameters arguments⟩ : Solution) after
    rw [same] at done
    exact done
  · next otherLength =>
    rw [if_neg otherLength] at solves
    exact ends_bind_error solves

/-- What comes of preparing a class depends on what comes of declaring its arguments and of
recording its bases. -/
theorem satisfies_prepareClass_of_selects (selects : analyzer.SelectsPrimary)
    (perform : Request → Activity σ Unit) (request : Request) {before : Compilation σ}
    (isTemplate :
      before.session.program.IsClassTemplate declarations trees templateType primary parameters)
    (isInstance :
      before.session.program.IsInstance name arguments templateType entry classType)
    (sameLength : parameters.length = arguments.length)
    {goal : Except InstantiationError PreparedClass → Compilation σ → Prop}
    (declares : ∀ told : Compilation σ,
      told.session = before.session.openClass trees entry classType →
        (injectDeductions (before.session.program.openInstance entry classType).1.1 parameters
          (List.zipWith before.session.program.deductionFor parameters arguments)).Satisfies told
            fun outcome injected =>
              match outcome with
              | .error cause => goal (.error cause) injected
              | .ok _ => ∀ reported : Compilation σ, reported.session = injected.session →
                  (buildBases analyzer perform (before.session.tree.copyTrees trees).1.bases
                    classType (before.session.program.openInstance entry classType).1.2).Satisfies
                      reported fun outcome after => goal (outcome.map fun _ =>
                        ⟨(before.session.tree.copyTrees trees).1.members,
                          (before.session.program.entry entry).declContext,
                          (before.session.program.openInstance entry classType).1.2⟩) after) :
    (prepareClass analyzer perform request entry classType templateType).Satisfies before
      goal := by
  have solves := ends_solveClass selects perform request isTemplate isInstance
  rw [if_pos sameLength] at solves
  refine satisfies_bind_ends solves fun solved sameSolved => ?_
  refine satisfies_bind_ends (ends_session solved) fun read sameRead => ?_
  rw [sameSolved, Session.selectedTemplate?_eq isTemplate]
  dsimp only
  refine satisfies_bind_ends (ends_onTree _ read) fun copied sameCopied => ?_
  refine satisfies_bind_ends (ends_program copied) fun reread sameReread => ?_
  refine satisfies_bind_ends (ends_onProgram _ reread) fun opened sameOpened => ?_
  rw [sameReread, sameCopied, sameRead, sameSolved] at sameOpened
  have isOpened : opened.session = before.session.openClass trees entry classType := sameOpened
  rw [sameReread, sameCopied, sameRead, sameSolved]
  dsimp only
  refine satisfies_bind_ends (ends_debug _ opened) fun told sameTold => ?_
  apply satisfies_bind
  apply satisfies_mono (declares told (sameTold.trans isOpened))
  rintro (cause | _) injected reached
  · exact reached
  · refine satisfies_bind_ends (ends_debug _ injected) fun reported sameReported => ?_
    apply satisfies_bind
    apply satisfies_mono (reached reported sameReported)
    rintro (cause | _) based reached
    · exact reached
    · exact reached

/-- If the analyzer leaves the session alone, only declaring the arguments counts. -/
theorem satisfies_prepareClass_of_declares (passive : analyzer.IsPassive)
    (perform : Request → Activity σ Unit) (request : Request) {before : Compilation σ}
    (isTemplate :
      before.session.program.IsClassTemplate declarations trees templateType primary parameters)
    (isInstance :
      before.session.program.IsInstance name arguments templateType entry classType)
    (sameLength : parameters.length = arguments.length)
    (goal : Except InstantiationError PreparedClass → Session → Prop)
    (declares : ∀ told : Compilation σ,
      told.session = before.session.openClass trees entry classType →
        (injectDeductions (before.session.program.openInstance entry classType).1.1 parameters
          (List.zipWith before.session.program.deductionFor parameters arguments)).Satisfies told
            fun outcome after => goal (outcome.map fun _ =>
              ⟨(before.session.tree.copyTrees trees).1.members,
                (before.session.program.entry entry).declContext,
                (before.session.program.openInstance entry classType).1.2⟩) after.session) :
    (prepareClass analyzer perform request entry classType templateType).Satisfies before
      fun outcome after => goal outcome after.session := by
  refine satisfies_prepareClass_of_selects passive.solves perform request isTemplate isInstance
    sameLength fun told sameTold => ?_
  apply satisfies_mono (declares told sameTold)
  rintro (cause | _) injected reached
  · exact reached
  · intro reported sameReported
    have leaves := ends_buildBases passive perform
      (before.session.tree.copyTrees trees).1.bases classType
      (before.session.program.openInstance entry classType).1.2 reported
    apply satisfies_mono (ends_iff_satisfies.mp leaves)
    rintro (cause | _) based ended
    · cases ended
    · simp only [Except.map, Except.ok.injEq, Prod.mk.injEq, true_and] at ended
      rw [← sameReported, ended] at reached
      exact reached

theorem ends_prepareClass (passive : analyzer.IsPassive) (perform : Request → Activity σ Unit)
    (request : Request) {before : Compilation σ}
    (isTemplate :
      before.session.program.IsClassTemplate declarations trees templateType primary parameters)
    (isInstance :
      before.session.program.IsInstance name arguments templateType entry classType)
    (unfilled : before.session.program.IsUnfilled classType)
    (sameLength : parameters.length = arguments.length) :
    ∃ members declaredIn,
      (prepareClass analyzer perform request entry classType templateType).Ends before
        (((before.session.openClass trees entry classType).injectAll
            (before.session.program.openInstance entry classType).1.1
            (bindingsFor declarations arguments)).map fun filled =>
          (⟨members, declaredIn, (before.session.program.openInstance entry classType).1.2⟩,
            filled)) := by
  refine ⟨(before.session.tree.copyTrees trees).1.members,
    (before.session.program.entry entry).declContext, ends_iff_satisfies.mpr ?_⟩
  refine satisfies_prepareClass_of_declares passive perform request isTemplate isInstance sameLength
    (fun ended after => _ = ended.map fun prepared => (prepared, after)) fun told sameTold => ?_
  have opens := Program.opened_openInstance entry unfilled
  have keeps : before.session.program.KeepsEntities told.session.program := by
    rw [sameTold]
    exact opens.preserves.toKeepsEntities
  have injects := ends_injectDeductions opens.inScope (isTemplate.tell_deductions arguments) keeps
  apply satisfies_mono (ends_iff_satisfies.mp injects)
  rintro outcome after ended
  rw [sameTold] at ended
  cases atInjection : (before.session.openClass trees entry classType).injectAll
      (before.session.program.openInstance entry classType).1.1
      (bindingsFor declarations arguments) with
  | error cause =>
      rw [atInjection] at ended
      cases outcome <;> cases ended
      rfl
  | ok filled =>
      rw [atInjection] at ended
      cases outcome <;> cases ended
      rfl

/-- Completing a class changes the session in a way that does not depend on its members. -/
theorem ends_completeClass (passive : analyzer.IsPassive) (perform : Request → Activity σ Unit)
    (request : Request) (entry : SymbolId) (classType : TypeId) (prepared : PreparedClass)
    (before : Compilation σ) :
    (completeClass analyzer perform request entry classType prepared).Ends before
      (.ok ((), (before.session.finishClass entry classType prepared.inner).record entry
        request.location)) := by
  refine ends_bind_ok (ends_modifyProgram _ before) fun completed sameCompleted => ?_
  refine ends_bind_ok (ends_buildMembers passive perform _ _ _ completed)
    fun built sameBuilt => ?_
  refine ends_bind_ok (ends_modifyProgram _ built) fun defined sameDefined => ?_
  refine ends_bind_ok (passive.finish _ _ _ perform defined) fun finished sameFinished => ?_
  refine ends_bind_ok (ends_modifySession _ finished) fun recorded sameRecorded => ?_
  have done := ends_debug (fun session =>
    "Instantiation of class '" ++ session.program.symbolName entry ++ "' ended") recorded
  rw [sameRecorded, sameFinished, sameDefined, sameBuilt, sameCompleted] at done
  exact done

theorem ends_fillClass (passive : analyzer.IsPassive) (perform : Request → Activity σ Unit)
    (request : Request) {before : Compilation σ}
    (isTemplate :
      before.session.program.IsClassTemplate declarations trees templateType primary parameters)
    (isInstance :
      before.session.program.IsInstance name arguments templateType entry classType)
    (unfilled : before.session.program.IsUnfilled classType)
    (sameLength : parameters.length = arguments.length) :
    (fillClass analyzer perform request entry classType templateType).Ends before
      (((before.session.openClass trees entry classType).injectAll
          (before.session.program.openInstance entry classType).1.1
          (bindingsFor declarations arguments)).map fun filled =>
        ((), (filled.finishClass entry classType
          (before.session.program.openInstance entry classType).1.2).record entry
            request.location)) := by
  obtain ⟨members, declaredIn, prepares⟩ :=
    ends_prepareClass passive perform request isTemplate isInstance unfilled sameLength
  cases atInjection : (before.session.openClass trees entry classType).injectAll
      (before.session.program.openInstance entry classType).1.1
      (bindingsFor declarations arguments) with
  | error cause =>
      rw [atInjection] at prepares
      exact ends_bind_error prepares
  | ok filled =>
      rw [atInjection] at prepares
      refine ends_bind_ok prepares fun prepared samePrepared => ?_
      rw [← samePrepared]
      exact ends_completeClass passive perform request entry classType _ prepared

/-- Carrying out a request for an unfilled instance comes down to filling it in, one level
deeper. -/
theorem satisfies_perform_of_within {request : Request} {before : Compilation σ}
    {goal : Except InstantiationError Unit → Compilation σ → Prop}
    (isClass : request.kind = .classTemplate)
    (isInstance :
      before.session.program.IsInstance name arguments templateType request.entry classType)
    (unfilled : before.session.program.IsUnfilled classType)
    (fills : ∀ (room : Nat) (told : Compilation σ), told.session = before.session →
      (within request.entry request.location
        (fillClass analyzer (handler analyzer room) request request.entry classType
          templateType)).Satisfies told goal) :
    (perform analyzer request).Satisfies before goal := by
  refine satisfies_bind_ends (ends_session before) fun read sameRead => ?_
  rw [performIn_eq_handler, performWith, isClass]
  dsimp only
  refine satisfies_bind_ends (ends_session read) fun resolved sameResolved => ?_
  rw [sameRead, Session.resolveClassEntry_eq isInstance]
  refine satisfies_bind_ends (ends_ofExcept (.ok request.entry) resolved) fun found sameFound => ?_
  refine satisfies_bind_ends (ends_session found) fun checked sameChecked => ?_
  rw [sameFound, sameResolved, sameRead, Session.eligibleClass?_eq isInstance unfilled]
  dsimp only
  refine satisfies_bind_ends (ends_debug _ checked) fun told sameTold => ?_
  exact fills _ told
    (sameTold.trans (sameChecked.trans (sameFound.trans (sameResolved.trans sameRead))))

theorem ends_perform_of_within {request : Request} {before : Compilation σ}
    {outcome : Except InstantiationError (Unit × Session)}
    (isClass : request.kind = .classTemplate)
    (isInstance :
      before.session.program.IsInstance name arguments templateType request.entry classType)
    (unfilled : before.session.program.IsUnfilled classType)
    (fills : ∀ (room : Nat) (told : Compilation σ), told.session = before.session →
      (within request.entry request.location
        (fillClass analyzer (handler analyzer room) request request.entry classType
          templateType)).Ends told outcome) :
    (perform analyzer request).Ends before outcome :=
  ends_iff_satisfies.mpr <| satisfies_perform_of_within isClass isInstance unfilled
    fun room told same => ends_iff_satisfies.mp (fills room told same)

theorem program_of_enter {before entered : Session} {entity : SymbolId} {location : Location}
    (enters : before.enter entity location = .ok entered) :
    entered.program = before.program ∧ entered.tree = before.tree := by
  unfold Session.enter at enters
  split at enters
  · cases enters
  · cases enters
    exact ⟨rfl, rfl⟩

theorem ends_perform (passive : analyzer.IsPassive) {request : Request} {before : Compilation σ}
    (isClass : request.kind = .classTemplate)
    (isTemplate :
      before.session.program.IsClassTemplate declarations trees templateType primary parameters)
    (isInstance :
      before.session.program.IsInstance name arguments templateType request.entry classType)
    (unfilled : before.session.program.IsUnfilled classType)
    (sameLength : parameters.length = arguments.length) {entered : Session}
    (enters : before.session.enter request.entry request.location = .ok entered) :
    (perform analyzer request).Ends before
      (((entered.openClass trees request.entry classType).injectAll
          (entered.program.openInstance request.entry classType).1.1
          (bindingsFor declarations arguments)).map fun filled =>
        ((), ((filled.finishClass request.entry classType
          (entered.program.openInstance request.entry classType).1.2).record request.entry
            request.location).leave request.entry)) := by
  refine ends_perform_of_within isClass isInstance unfilled fun room told sameTold => ?_
  obtain ⟨sameProgram, _⟩ := program_of_enter enters
  have fills : ∀ inside : Compilation σ, inside.session = entered →
      (fillClass analyzer (handler analyzer room) request request.entry classType
        templateType).Ends inside
        (((entered.openClass trees request.entry classType).injectAll
            (entered.program.openInstance request.entry classType).1.1
            (bindingsFor declarations arguments)).map fun filled =>
          ((), (filled.finishClass request.entry classType
            (entered.program.openInstance request.entry classType).1.2).record request.entry
              request.location)) := by
    intro inside sameInside
    subst sameInside
    exact ends_fillClass passive (handler analyzer room) request
      (by rw [sameProgram]; exact isTemplate) (by rw [sameProgram]; exact isInstance)
      (by rw [sameProgram]; exact unfilled) sameLength
  have done := ends_within (by rw [sameTold]; exact enters) fills
  cases atInjection : (entered.openClass trees request.entry classType).injectAll
      (entered.program.openInstance request.entry classType).1.1
      (bindingsFor declarations arguments) with
  | error cause =>
      rw [atInjection] at done
      exact done
  | ok filled =>
      rw [atInjection] at done
      exact done

end Activity

end CppTemplates
