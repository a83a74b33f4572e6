import CppTemplates.Proofs.Instantiation.Discipline
import CppTemplates.Proofs.Instantiation.Sparing

/-!
# The order of the steps of a class

A class is instantiated in steps: the analyzer selects a template, records the bases, declares the
members and finishes the class.  What happens between two steps makes the next one possible.  The
bases may depend on the arguments, so these are declared first.  The members may name the class
itself, so its name is declared inside it and it counts as complete before they are declared.
-/

namespace CppTemplates

/-- A step that the analyzer takes for a class. -/
inductive ClassStep where
  | solve
  | bases
  | members
  | finish
deriving DecidableEq, Repr, Inhabited

/-- The step that a callback asks for. -/
def Callback.classStep? : Callback → Option ClassStep
  | .solveClassTemplate _ _ _ _ => some .solve
  | .buildBaseClause _ _ _ => some .bases
  | .buildMembers _ _ _ => some .members
  | .buildFunction _ _ => none
  | .finishClass _ _ _ => some .finish

/-- The steps that copies of some trees call for, after a template is selected. -/
def InstantiationTrees.steps (trees : InstantiationTrees) : List ClassStep :=
  (trees.bases.toList.map fun _ => .bases) ++ (trees.members.toList.map fun _ => .members) ++
    [.finish]

/-- What is selected for a class: the trees and the parameters of a template, and the arguments. -/
structure Selection where
  trees : InstantiationTrees
  parameters : List TemplateParameter
  deductions : List Deduction

namespace Call

variable (call : Call)

def Succeeds : Prop :=
  ∃ solution, call.reply = .ok solution

def selection? : Option Selection :=
  match call.reply with
  | .ok (some solution) =>
      (call.ended.selectedTemplate? solution.selected).map fun (trees, parameters) =>
        ⟨trees, parameters, solution.deductions⟩
  | _ => none

end Call

/-- The steps that a class takes unless something fails, as far as they are known after some
callbacks.  Those that follow on the first one depend on the template that it selects. -/
def classSteps (calls : List Call) : List ClassStep :=
  .solve :: (calls.head?.bind Call.selection?).elim [] (·.trees.steps)

/-- The engine opens a class for what was selected and declares the arguments, as far as that
works. -/
def Session.openSelected (session : Session) (target : ClassTarget) (selection : Selection) :
    Except InstantiationError Unit × Session :=
  (session.openClass selection.trees target.entry target.type).injectDeductions
    (session.program.openInstance target.entry target.type).1.1 selection.parameters
    selection.deductions

/-- The engine can go on with a class after a callback has selected a template for it. -/
def Call.Opens (call : Call) (target : ClassTarget) : Prop :=
  ∃ selection, call.selection? = some selection ∧
    (call.ended.openSelected target selection).1 = .ok ()

/-- The callbacks for a class come in order, up to the first thing that fails. -/
structure StepsInOrder (asked : Session) (target : ClassTarget) (calls : List Call)
    (outcome : Except InstantiationError Unit) : Prop where
  ordered : calls.map (·.callback.classStep?) <+: (classSteps calls).map some
  /-- No callback is made after one that has failed. -/
  cut : ∀ call ∈ calls.dropLast, call.Succeeds
  fails : ∀ call ∈ calls, ∀ cause, call.reply = .error cause → outcome = .error cause
  /-- There is no callback if too many instantiations are in progress. -/
  refused : calls = [] ↔ asked.limits.maxDepth ≤ asked.depth
  /-- There is only one callback if it fails or the engine cannot go on with what it selects. -/
  continues : 1 < calls.length ↔ ∃ first, calls.head? = some first ∧ first.Opens target
  /-- Beyond that, only the callbacks can fail. -/
  succeeds : outcome = .ok () ↔ 1 < calls.length ∧ ∀ call ∈ calls, call.Succeeds
  complete : outcome = .ok () → calls.map (·.callback.classStep?) = (classSteps calls).map some

/-- The context for the members of an instance that is declared in a context.  What is declared
there is not part of a template any more. -/
def DeclContext.forInstance (declaredIn : DeclContext) (arguments members : ScopeId) :
    DeclContext :=
  { declaredIn with
    currentScope := members
    templateScope := some arguments
    classScope := some members
    templateNesting := 0
    flags := { declaredIn.flags with template := false, explicitSpecialization := false } }

namespace Session

/-- The engine has declared the argument of a deduction, under the name that the parameter had. -/
def DeclaresArgument (solved called : Session) (parameters : List TemplateParameter)
    (scope : ScopeId) (deduction : Deduction) : Prop :=
  ∃ argument moment name symbol, deduction.deduced = [argument] ∧
    solved.Works moment ∧ moment.Works called ∧
      moment.program.parameterName parameters deduction.nesting deduction.position = .ok name ∧
        symbol ∈ called.program.scopes.lookupLocal scope name ∧
          moment.IsBound called symbol argument

/-- What the analyzer finds when it is to record the bases. -/
structure ReadyForBases (solved called : Session) (target : ClassTarget) (selection : Selection)
    (clause : NodeId) (inner : DeclContext) : Prop where
  copied : ∃ original, selection.trees.bases = some original ∧
    solved.tree.Copied called.tree original clause
  incomplete : called.program.ClassIs target.type .incompleteIndependent (some inner)
  /-- The arguments are declared in the scope around the members, and nothing is declared in that of
  the members. -/
  scopes : ∃ arguments members,
    inner = (solved.program.entry target.entry).declContext.forInstance arguments members ∧
      called.program.scopes.scope members =
        { parent := some arguments, kind := .classScope, owner := some target.entry } ∧
      ∀ deduction ∈ selection.deductions,
        solved.DeclaresArgument called selection.parameters arguments deduction

/-- What the analyzer finds when it is to declare the members. -/
structure ReadyForMembers (solved called : Session) (target : ClassTarget) (selection : Selection)
    (members : NodeId) (inner : DeclContext) : Prop where
  copied : ∃ original, selection.trees.members = some original ∧
    solved.tree.Copied called.tree original members
  complete : called.program.ClassIs target.type .completeIndependent (some inner)
  context : ∃ arguments members,
    inner = (solved.program.entry target.entry).declContext.forInstance arguments members
  /-- The name of the class is declared inside the class. -/
  named : ∃ symbol ∈ called.program.scopes.lookupLocal inner.currentScope
      (called.program.symbolName target.entry),
    (called.program.entry symbol).hidden = true ∧
      (called.program.entry symbol).isInjectedClassName = true ∧
        (called.program.entry symbol).refersTo = some target.entry

/-- What the analyzer finds when it is to finish the class. -/
structure ReadyToFinish (called : Session) (target : ClassTarget) : Prop where
  defined : (called.program.entry target.entry).defined = true
  complete : ∃ inner, called.program.ClassIs target.type .completeIndependent (some inner)

end Session

/-- What is asked of the analyzer in a callback for a class, and what it finds, after some earlier
callbacks. -/
inductive FindsClass (request : Request) (asked : Session) (target : ClassTarget)
    (earlier : List Call) (called : Session) : Callback → Prop
  | solve (isFirst : earlier = [])
      (enters : asked.enter target.entry request.location = .ok called) :
      FindsClass request asked target earlier called
        (.solveClassTemplate request.context target.template target.entry request.location)
  | bases {first : Call} {selection : Selection} {clause : NodeId} {inner : DeclContext}
      (isFirst : earlier.head? = some first) (selects : first.selection? = some selection)
      (ready : first.ended.ReadyForBases called target selection clause inner) :
      FindsClass request asked target earlier called (.buildBaseClause clause target.type inner)
  | members {first : Call} {selection : Selection} {members : NodeId} {inner : DeclContext}
      (isFirst : earlier.head? = some first) (selects : first.selection? = some selection)
      (ready : first.ended.ReadyForMembers called target selection members inner) :
      FindsClass request asked target earlier called
        (.buildMembers members target.type
          { inner with flags := { inner.flags with instantiating := true } })
  | finish {first : Call} (isFirst : earlier.head? = some first)
      (ready : called.ReadyToFinish target) :
      FindsClass request asked target earlier called
        (.finishClass target.type (first.ended.program.entry target.entry).declContext
          request.location)

namespace Program

variable (program : Program) (entry : SymbolId) (classType : TypeId)

theorem openInstance_contexts :
    ∃ arguments members : ScopeId,
      (program.openInstance entry classType).1.1.templateScope = some arguments ∧
      (program.openInstance entry classType).1.2 =
        (program.entry entry).declContext.forInstance arguments members ∧
      arguments.index < members.index ∧
      members.index < (program.openInstance entry classType).2.scopes.scopes.size ∧
      (program.openInstance entry classType).2.scopes.scope members =
        { parent := some arguments, kind := .classScope, owner := some entry } := by
  let declaredIn := (program.entry entry).declContext
  let outer := program.scopes.createChild declaredIn.currentScope .templateScope
  let both := outer.2.createChild outer.1 .classScope (some entry)
  have scopes : (program.openInstance entry classType).2.scopes = both.2 :=
    scopes_openInstance program entry classType
  refine ⟨outer.1, both.1, rfl, rfl, ?_, ?_, ?_⟩
  · simp [both, outer, ScopeTree.createChild]
  · rw [scopes]
    simp [both, outer, ScopeTree.createChild]
  · rw [scopes]
    exact ScopeTree.scope_createChild_self _ _ _

variable {program classType}

theorem classIs_openInstance {completeness : Completeness} {inner : Option DeclContext}
    (classIs : program.ClassIs classType completeness inner) :
    (program.openInstance entry classType).2.ClassIs classType completeness
      (some (program.openInstance entry classType).1.2) := by
  obtain ⟨data, isClass, isSo, _⟩ := classIs
  obtain ⟨-, -, opened, -⟩ := openInstance_spec entry isClass
  exact ⟨_, opened, isSo, rfl⟩

theorem completeInstance_named {completeness : Completeness} {recorded : Option DeclContext}
    (classIs : program.ClassIs classType completeness recorded) {inner : DeclContext}
    (inTree : inner.currentScope.index < program.scopes.scopes.size) :
    (program.completeInstance entry classType inner).ClassIs classType .completeIndependent
        recorded ∧
      ∃ symbol ∈ (program.completeInstance entry classType inner).scopes.lookupLocal
          inner.currentScope (program.symbolName entry),
        (program.completeInstance entry classType inner).entry symbol =
          { program.entry entry with
            scope := inner.currentScope, hidden := true, isInjectedClassName := true
            refersTo := some entry } := by
  obtain ⟨data, isClass, -, isInner⟩ := classIs
  obtain ⟨-, -, completed, -⟩ := completeInstance_completes entry isClass inner
  refine ⟨⟨_, completed, rfl, isInner⟩, ⟨program.symbols.size⟩, ?_, ?_⟩
  · obtain ⟨-, -, -, declared⟩ := completeInstance_spec program entry classType inTree
    rw [ScopeTree.lookupLocal, declared, ScopeEntries.candidates_insert, if_pos rfl]
    exact List.mem_append_right _ List.mem_cons_self
  · exact entry_completeInstance program entry classType inner

end Program

namespace Session

theorem injects_injectDeductions {context : DeclContext} {scope : ScopeId}
    (inScope : context.templateScope = some scope) {parameters : List TemplateParameter}
    {deductions : List Deduction} {session injected : Session}
    (inTree : scope.index < session.program.scopes.scopes.size)
    (injects : injectDeductions context parameters deductions session = (.ok (), injected)) :
    session.Injects scope injected ∧
      ∀ deduction ∈ deductions, session.DeclaresArgument injected parameters scope deduction := by
  induction deductions generalizing session with
  | nil =>
      cases injects
      exact ⟨.refl _, fun _ member => nomatch member⟩
  | cons deduction rest ih =>
      unfold injectDeductions at injects
      split at injects
      case h_2 => cases injects
      case h_1 argument single =>
        split at injects
        case h_1 => cases injects
        case h_2 name named =>
          split at injects
          case h_1 => cases injects
          case h_2 symbol middle first =>
            obtain ⟨keeps, treeGrows, scopes, bound⟩ := injectArgument_ok inScope first
            have injectsFirst := injects_injectArgument inScope first
            have inTreeMiddle : scope.index < middle.program.scopes.scopes.size := by
              rw [scopes, ScopeTree.size_insert]
              exact inTree
            obtain ⟨injectsRest, declared⟩ := ih inTreeMiddle injects
            refine ⟨injectsFirst.trans injectsRest, fun other member => ?_⟩
            rcases List.mem_cons.mp member with rfl | later
            · refine ⟨argument, session, name, symbol, single, .refl session,
                (injectsFirst.trans injectsRest).works, named, ?_, ?_⟩
              · apply (injectsRest.leaves default).lists.listed
                rw [scopes, ScopeTree.lookupLocal, ScopeTree.scope_insert_self inTree,
                  ScopeEntries.candidates_insert, if_pos rfl]
                exact List.mem_append_right _ List.mem_cons_self
              · exact bound.later injectsRest.keeps injectsRest.works.tree
            · obtain ⟨argument, moment, name, symbol, single, works, rest⟩ := declared other later
              exact ⟨argument, moment, name, symbol, single, injectsFirst.works.trans works, rest⟩

/-- A class is open for what was selected, and filled in so far. -/
structure Prepares (solved session : Session) (target : ClassTarget) (selection : Selection)
    (prepared : PreparedClass) (completeness : Completeness) : Prop where
  entry_lt : target.entry.index < session.program.symbols.size
  inTree : prepared.inner.currentScope.index < session.program.scopes.scopes.size
  classIs : session.program.ClassIs target.type completeness (some prepared.inner)
  copied : Option.Rel (solved.tree.Copied session.tree) selection.trees.members prepared.members
  context : ∃ arguments members,
    prepared.inner = (solved.program.entry target.entry).declContext.forInstance arguments members
  declaredIn : prepared.declaredIn = (solved.program.entry target.entry).declContext

variable {solved session later : Session} {target : ClassTarget} {selection : Selection}
variable {prepared : PreparedClass} {completeness : Completeness}

/-- A class stays open in callbacks that spare it. -/
theorem Prepares.spared
    (prepares : solved.Prepares session target selection prepared completeness)
    (spares : session.Spares target.type later) :
    solved.Prepares later target selection prepared completeness where
  entry_lt := Nat.lt_of_lt_of_le prepares.entry_lt spares.retains.symbols_le
  inTree := Nat.lt_of_lt_of_le prepares.inTree spares.scopes_le
  classIs := spares.classIs _ _ prepares.classIs
  copied := SyntaxTree.Copied.rel_later spares.tree prepares.copied
  context := prepares.context
  declaredIn := prepares.declaredIn

/-- What opening a class and declaring the arguments comes to. -/
theorem prepares_openSelected {inner : Option DeclContext} {opened : Session}
    (entry_lt : target.entry.index < solved.program.symbols.size)
    (classIs : solved.program.ClassIs target.type .incompleteIndependent inner)
    (opens : solved.openSelected target selection = (.ok (), opened)) :
    solved.Prepares opened target selection (solved.preparedClass selection.trees target)
        .incompleteIndependent ∧
      ∀ clause, (solved.tree.copyTrees selection.trees).1.bases = some clause →
        solved.ReadyForBases opened target selection clause
          (solved.preparedClass selection.trees target).inner := by
  obtain ⟨arguments, members, inScope, isInside, order, inTree, atMembers⟩ :=
    solved.program.openInstance_contexts target.entry target.type
  let unbound := solved.openClass selection.trees target.entry target.type
  have worksOpen : solved.Works unbound := works_openClass _ _ _
  have inTreeUnbound : members.index < unbound.program.scopes.scopes.size := inTree
  obtain ⟨injects, declared⟩ := injects_injectDeductions inScope (Nat.lt_trans order inTree) opens
  have notArguments : members ≠ arguments := by
    rintro rfl
    exact Nat.lt_irrefl _ order
  have leaves := injects.leaves target.type
  have classIsOpened := leaves.classIs (Program.classIs_openInstance target.entry classIs)
  obtain ⟨copiedMembers, copiedBases⟩ := solved.tree.copied_copyTrees selection.trees
  refine ⟨⟨?_, ?_, classIsOpened, ?_, ⟨arguments, members, isInside⟩, rfl⟩, ?_⟩
  · exact Nat.lt_of_lt_of_le entry_lt (worksOpen.trans injects.works).symbols.size_le
  · simp only [preparedClass, isInside]
    exact Nat.lt_of_lt_of_le inTreeUnbound leaves.lists.size_le
  · exact SyntaxTree.Copied.rel_later injects.works.tree copiedMembers
  · intro clause isClause
    have copied := SyntaxTree.Copied.rel_later injects.works.tree copiedBases
    rw [isClause] at copied
    refine ⟨SyntaxTree.Copied.exists_original copied, classIsOpened, arguments, members, isInside,
      ?_, ?_⟩
    · rw [injects.others members notArguments]
      exact atMembers
    · intro deduction member
      obtain ⟨argument, moment, name, symbol, single, works, rest⟩ := declared deduction member
      exact ⟨argument, moment, name, symbol, single, worksOpen.trans works, rest⟩

theorem Prepares.completed
    (prepares : solved.Prepares session target selection prepared .incompleteIndependent) :
    solved.Prepares (session.completeClass target prepared.inner) target selection prepared
        .completeIndependent ∧
      ∃ symbol ∈ (session.completeClass target prepared.inner).program.scopes.lookupLocal
          prepared.inner.currentScope
          ((session.completeClass target prepared.inner).program.symbolName target.entry),
        ((session.completeClass target prepared.inner).program.entry symbol).hidden = true ∧
          ((session.completeClass target prepared.inner).program.entry
            symbol).isInjectedClassName = true ∧
          ((session.completeClass target prepared.inner).program.entry symbol).refersTo =
            some target.entry := by
  have works : session.Works (session.completeClass target prepared.inner) :=
    works_completeClass _ _
  obtain ⟨classIs, symbol, listed, isSymbol⟩ :=
    Program.completeInstance_named target.entry prepares.classIs prepares.inTree
  obtain ⟨-, sameSize, -, -⟩ :=
    Program.completeInstance_spec session.program target.entry target.type prepares.inTree
  refine ⟨⟨?_, ?_, classIs, ?_, prepares.context, prepares.declaredIn⟩, symbol, ?_, ?_⟩
  · exact Nat.lt_of_lt_of_le prepares.entry_lt works.symbols.size_le
  · exact Nat.lt_of_lt_of_eq prepares.inTree sameSize.symm
  · exact prepares.copied
  · have sameName : (session.completeClass target prepared.inner).program.symbolName
        target.entry = session.program.symbolName target.entry :=
      congrArg SymbolEntry.name (works.symbols.entry _ prepares.entry_lt)
    rw [sameName]
    exact listed
  · simp only [completeClass, isSymbol, and_self]

theorem Prepares.readyToFinish
    (prepares : solved.Prepares session target selection prepared .completeIndependent) :
    (session.define target.entry).ReadyToFinish target := by
  obtain ⟨data, isClass, isSo⟩ := prepares.classIs
  refine ⟨?_, prepared.inner, data, isClass, isSo⟩
  simp only [define, Program.entry_modifyEntry_self prepares.entry_lt]

end Session

/-- How far the callbacks for a class have come, with some steps to take. -/
structure Progress (asked : Session) (target : ClassTarget) (first : Call) (selection : Selection)
    (calls : List Call) (rest : List ClassStep) : Prop where
  below : asked.depth < asked.limits.maxDepth
  isFirst : calls.head? = some first
  selects : first.selection? = some selection
  opens : (first.ended.openSelected target selection).1 = .ok ()
  succeed : ∀ call ∈ calls, call.Succeeds
  steps : calls.map (·.callback.classStep?) ++ rest.map some =
    (ClassStep.solve :: selection.trees.steps).map some

namespace Progress

variable {asked : Session} {target : ClassTarget} {first : Call} {selection : Selection}
variable {calls : List Call} {rest : List ClassStep}

theorem classSteps_eq (progress : Progress asked target first selection calls rest) :
    classSteps calls = .solve :: selection.trees.steps := by
  simp [classSteps, progress.isFirst, progress.selects]

theorem next {step : ClassStep} {call : Call}
    (progress : Progress asked target first selection calls (step :: rest))
    (isStep : call.callback.classStep? = some step) (succeeds : call.Succeeds) :
    Progress asked target first selection (calls ++ [call]) rest where
  below := progress.below
  isFirst := by simp [progress.isFirst]
  selects := progress.selects
  opens := progress.opens
  succeed := by
    intro other member
    rcases List.mem_append.mp member with old | new
    · exact progress.succeed other old
    · rw [List.mem_singleton.mp new]
      exact succeeds
  steps := by
    rw [← progress.steps]
    simp [isStep]

theorem failed {step : ClassStep} {call : Call} {cause : InstantiationError}
    (progress : Progress asked target first selection calls (step :: rest))
    (isStep : call.callback.classStep? = some step) (fails : call.reply = .error cause) :
    StepsInOrder asked target (calls ++ [call]) (.error cause) where
  ordered := by
    have isFirst : (calls ++ [call]).head? = some first := by simp [progress.isFirst]
    refine ⟨rest.map some, ?_⟩
    simp only [classSteps, isFirst, Option.bind_some, progress.selects, Option.elim_some]
    rw [← progress.steps]
    simp [isStep]
  cut := by
    rw [List.dropLast_concat]
    exact progress.succeed
  fails other member reason failsOther := by
    rcases List.mem_append.mp member with old | new
    · obtain ⟨solution, succeeds⟩ := progress.succeed other old
      rw [succeeds] at failsOther
      cases failsOther
    · rw [List.mem_singleton.mp new, fails] at failsOther
      cases failsOther
      rfl
  refused := by
    have below := progress.below
    simp only [List.append_eq_nil_iff, List.cons_ne_self, and_false, false_iff, Nat.not_le]
    exact below
  continues := by
    have someCalls : calls ≠ [] := by
      rintro rfl
      cases progress.isFirst
    have head : (calls ++ [call]).head? = some first := by simp [progress.isFirst]
    refine iff_of_true ?_ ⟨first, head, selection, progress.selects, progress.opens⟩
    have := List.length_pos_of_ne_nil someCalls
    simp only [List.length_append, List.length_cons, List.length_nil]
    omega
  succeeds := by
    refine iff_of_false (by simp) fun ⟨_, succeed⟩ => ?_
    obtain ⟨solution, succeeds⟩ := succeed call (by simp)
    rw [fails] at succeeds
    cases succeeds
  complete isOk := nomatch isOk

theorem finished (progress : Progress asked target first selection calls []) :
    StepsInOrder asked target calls (.ok ()) := by
  have steps : calls.map (·.callback.classStep?) = (classSteps calls).map some := by
    rw [progress.classSteps_eq, ← progress.steps]
    simp
  have twoSteps : 1 < calls.length := by
    have length := congrArg List.length steps
    rw [progress.classSteps_eq] at length
    simp [InstantiationTrees.steps] at length
    omega
  have isFirst : first ∈ calls := List.mem_of_mem_head? progress.isFirst
  refine ⟨?_, fun call member => ?_, fun call member cause fails => ?_, ?_, ?_, ?_, ?_⟩
  · rewrite [steps]
    exact List.prefix_rfl
  · exact progress.succeed call (List.dropLast_subset calls member)
  · obtain ⟨solution, succeeds⟩ := progress.succeed call member
    rw [succeeds] at fails
    cases fails
  · exact iff_of_false (List.ne_nil_of_mem isFirst) (Nat.not_le.mpr progress.below)
  · exact iff_of_true twoSteps
      ⟨first, progress.isFirst, selection, progress.selects, progress.opens⟩
  · exact iff_of_true rfl ⟨twoSteps, progress.succeed⟩
  · exact fun _ => steps

end Progress

namespace StepsInOrder

variable {asked : Session} {target : ClassTarget} {cause : InstantiationError}

theorem of_refused (atLimit : asked.limits.maxDepth ≤ asked.depth) :
    StepsInOrder asked target [] (.error cause) where
  ordered := List.nil_prefix
  cut _ member := nomatch member
  fails _ member := nomatch member
  refused := iff_of_true rfl atLimit
  continues := iff_of_false (by simp) fun ⟨_, isFirst, _⟩ => nomatch isFirst
  succeeds := iff_of_false (by simp) fun ⟨longer, _⟩ => nomatch longer
  complete isOk := nomatch isOk

/-- The engine does not go on if no template is selected or an argument cannot be declared. -/
theorem of_unopened {call : Call} (below : asked.depth < asked.limits.maxDepth)
    (isSolve : call.callback.classStep? = some .solve)
    (answers : ∀ reason, call.reply = .error reason → reason = cause)
    (closed : ¬call.Opens target) : StepsInOrder asked target [call] (.error cause) where
  ordered := by
    refine ⟨((classSteps [call]).tail).map some, ?_⟩
    simp [classSteps, isSolve]
  cut _ member := nomatch member
  fails other member reason fails := by
    rw [List.mem_singleton.mp member] at fails
    rw [answers reason fails]
  refused := iff_of_false (by simp) (Nat.not_le.mpr below)
  continues := by
    refine iff_of_false (by simp) fun ⟨first, isFirst, opens⟩ => ?_
    cases isFirst
    exact closed opens
  succeeds := iff_of_false (by simp) fun ⟨longer, _⟩ => absurd longer (by simp)
  complete isOk := nomatch isOk

end StepsInOrder

def PreparedClass.steps (prepared : PreparedClass) : List ClassStep :=
  (prepared.members.toList.map fun _ => .members) ++ [.finish]

/-- A turn of the engine in the instantiation of a class, with what it leaves to the analyzer. -/
inductive ClassTurn (request : Request) (asked : Session) (target : ClassTarget)
    (calls : List Call) : Turn → Prop
  | solving {called : Session} (isFirst : calls = [])
      (enters : asked.enter target.entry request.location = .ok called) :
      ClassTurn request asked target calls
        (.call (.solveClassTemplate request.context target.template target.entry request.location)
          called (.solving target))
  | basing {first : Call} {selection : Selection} {prepared : PreparedClass} {clause : NodeId}
      {called : Session}
      (progress : Progress asked target first selection calls (.bases :: prepared.steps))
      (prepares : Spared target.type calls →
        first.ended.Prepares called target selection prepared .incompleteIndependent)
      (ready : Spared target.type calls →
        first.ended.ReadyForBases called target selection clause prepared.inner) :
      ClassTurn request asked target calls
        (.call (.buildBaseClause clause target.type prepared.inner) called
          (.basing target prepared))
  | building {first : Call} {selection : Selection} {prepared : PreparedClass} {members : NodeId}
      {called : Session}
      (progress : Progress asked target first selection calls [.members, .finish])
      (prepares : Spared target.type calls →
        first.ended.Prepares called target selection prepared .completeIndependent)
      (ready : Spared target.type calls →
        first.ended.ReadyForMembers called target selection members prepared.inner) :
      ClassTurn request asked target calls
        (.call
          (.buildMembers members target.type
            { prepared.inner with flags := { prepared.inner.flags with instantiating := true } })
          called (.building target prepared))
  | finishing {first : Call} {selection : Selection} {declaredIn : DeclContext} {called : Session}
      (progress : Progress asked target first selection calls [.finish])
      (isContext : Spared target.type calls →
        declaredIn = (first.ended.program.entry target.entry).declContext)
      (ready : Spared target.type calls → called.ReadyToFinish target) :
      ClassTurn request asked target calls
        (.call (.finishClass target.type declaredIn request.location) called (.finishing target))
  | answered {outcome : Except InstantiationError Unit} {after : Session}
      (inOrder : StepsInOrder asked target calls outcome) :
      ClassTurn request asked target calls (.answer outcome after)

namespace Session

variable {request : Request} {asked session : Session} {target : ClassTarget} {first : Call}
variable {selection : Selection} {prepared : PreparedClass} {calls : List Call}

theorem classTurn_finishTurn (progress : Progress asked target first selection calls [.finish])
    (prepares : Spared target.type calls →
      first.ended.Prepares session target selection prepared .completeIndependent) :
    ClassTurn request asked target calls (session.finishTurn request target prepared) :=
  .finishing progress (fun spared => (prepares spared).declaredIn)
    fun spared => (prepares spared).readyToFinish

theorem classTurn_completeTurn
    (progress : Progress asked target first selection calls prepared.steps)
    (prepares : Spared target.type calls →
      first.ended.Prepares session target selection prepared .incompleteIndependent) :
    ClassTurn request asked target calls (session.completeTurn request target prepared) := by
  have completes := fun spared => (prepares spared).completed
  unfold completeTurn membersTurn
  cases isMembers : prepared.members with
  | none =>
      rw [PreparedClass.steps, isMembers] at progress
      exact classTurn_finishTurn progress fun spared => (completes spared).1
  | some members =>
      rw [PreparedClass.steps, isMembers] at progress
      refine .building progress (fun spared => (completes spared).1) fun spared => ?_
      obtain ⟨prepares, named⟩ := completes spared
      have copied := prepares.copied
      rw [isMembers] at copied
      exact ⟨SyntaxTree.Copied.exists_original copied, prepares.classIs, prepares.context, named⟩

theorem classTurn_basesTurn {clause : Option NodeId}
    (progress : Progress asked target first selection calls
      ((clause.toList.map fun _ => .bases) ++ prepared.steps))
    (prepares : Spared target.type calls →
      first.ended.Prepares session target selection prepared .incompleteIndependent)
    (ready : ∀ node, clause = some node → Spared target.type calls →
      first.ended.ReadyForBases session target selection node prepared.inner) :
    ClassTurn request asked target calls (session.basesTurn request target clause prepared) := by
  cases clause with
  | none => exact classTurn_completeTurn progress prepares
  | some node => exact .basing progress prepares (ready node rfl)

theorem steps_copyTrees (solved : Session) (target : ClassTarget) (trees : InstantiationTrees) :
    trees.steps = ((solved.tree.copyTrees trees).1.bases.toList.map fun _ => .bases) ++
      (solved.preparedClass trees target).steps := by
  obtain ⟨copiedMembers, copiedBases⟩ := solved.tree.copied_copyTrees trees
  have sameMembers := SyntaxTree.Copied.map_toList_eq copiedMembers ClassStep.members
  have sameBases := SyntaxTree.Copied.map_toList_eq copiedBases ClassStep.bases
  simp only [InstantiationTrees.steps, PreparedClass.steps, preparedClass, sameMembers, sameBases,
    List.append_assoc]

/-- After its template has been selected, a class is opened or the request is answered. -/
theorem classTurn_prepareTurn {call : Call} {solution : Solution} (inner : Option DeclContext)
    (below : asked.depth < asked.limits.maxDepth)
    (isSolve : call.callback.classStep? = some .solve) (solves : call.reply = .ok (some solution))
    (entry_lt : Spared target.type [call] →
      target.entry.index < call.ended.program.symbols.size)
    (classIs : Spared target.type [call] →
      call.ended.program.ClassIs target.type .incompleteIndependent inner) :
    ClassTurn request asked target [call] (call.ended.prepareTurn request target solution) := by
  have unsolved {cause : InstantiationError} (reason : InstantiationError)
      (fails : call.reply = .error reason) : reason = cause := by
    rw [solves] at fails
    cases fails
  unfold prepareTurn
  cases selects : call.ended.selectedTemplate? solution.selected with
  | none =>
      refine .answered (.of_unopened below isSolve unsolved ?_)
      rintro ⟨selection, isSelected, _⟩
      simp [Call.selection?, solves, selects] at isSelected
  | some selected =>
      obtain ⟨trees, parameters⟩ := selected
      let selection : Selection := ⟨trees, parameters, solution.deductions⟩
      have isSelected : call.selection? = some selection := by
        simp [Call.selection?, solves, selects, selection]
      dsimp only
      cases opens : call.ended.openSelected target selection with
      | mk outcome opened =>
          have injects := opens
          dsimp only [openSelected, selection] at injects
          rw [injects]
          cases outcome with
          | error cause =>
              refine .answered (.of_unopened below isSolve unsolved ?_)
              rintro ⟨other, isOther, opensOther⟩
              rw [isSelected, Option.some.injEq] at isOther
              rw [← isOther, opens] at opensOther
              cases opensOther
          | ok _ =>
              have progress : Progress asked target call selection [call]
                  selection.trees.steps := by
                refine ⟨below, rfl, isSelected, by rw [opens], ?_, by simp [isSolve]⟩
                intro other member
                rw [List.mem_singleton.mp member]
                exact ⟨_, solves⟩
              rw [steps_copyTrees call.ended target] at progress
              have opened := fun spared =>
                prepares_openSelected (entry_lt spared) (classIs spared) opens
              exact classTurn_basesTurn progress (fun spared => (opened spared).1)
                fun clause isClause spared => (opened spared).2 clause isClause

end Session

namespace ClassTurn

variable {request : Request} {asked called after : Session} {target : ClassTarget}
variable {calls : List Call} {turn : Turn} {callback : Callback} {stage : Stage}

/-- Whatever the analyzer replies, the engine takes a turn like the one before. -/
theorem next (resolves : asked.classTarget request = .ok target)
    (earlier : ClassTurn request asked target calls (.call callback called stage)) (reply : Reply)
    (ended : Session) :
    ClassTurn request asked target (calls ++ [⟨callback, called, reply, ended⟩])
      (stage.nextTurn request reply ended) := by
  cases earlier with
  | solving isFirst enters =>
      subst isFirst
      obtain ⟨below, isEntered⟩ := Session.enter_eq_ok enters
      cases reply with
      | error cause =>
          refine .answered (.of_unopened below rfl (fun reason fails => ?_) ?_)
          · cases fails
            rfl
          · rintro ⟨selection, isSelected, _⟩
            cases isSelected
      | ok solution =>
          cases solution with
          | none =>
              refine .answered (.of_unopened below rfl (fun reason fails => ?_) ?_)
              · cases fails
              · rintro ⟨selection, isSelected, _⟩
                cases isSelected
          | some solution =>
              obtain ⟨entry_lt, inner, classIs⟩ := Session.classIs_of_classTarget resolves
              have sameProgram : called.program = asked.program := by rw [isEntered]
              rw [← sameProgram] at entry_lt classIs
              refine Session.classTurn_prepareTurn inner below rfl rfl (fun spared => ?_)
                fun spared => ?_
              · have spares := spared _ List.mem_cons_self
                exact Nat.lt_of_lt_of_le entry_lt spares.retains.symbols_le
              · have spares := spared _ List.mem_cons_self
                exact spares.classIs _ _ classIs
  | basing progress prepares ready =>
      cases reply with
      | error cause => exact .answered (progress.failed rfl rfl)
      | ok solution =>
          refine Session.classTurn_completeTurn (progress.next rfl ⟨_, rfl⟩) fun spared => ?_
          obtain ⟨sparedEarlier, spares⟩ := spared.snoc_inv
          exact (prepares sparedEarlier).spared spares
  | building progress prepares ready =>
      cases reply with
      | error cause => exact .answered (progress.failed rfl rfl)
      | ok solution =>
          refine Session.classTurn_finishTurn (progress.next rfl ⟨_, rfl⟩) fun spared => ?_
          obtain ⟨sparedEarlier, spares⟩ := spared.snoc_inv
          exact (prepares sparedEarlier).spared spares
  | finishing progress isContext ready =>
      cases reply with
      | error cause => exact .answered (progress.failed rfl rfl)
      | ok solution => exact .answered (progress.next rfl ⟨_, rfl⟩).finished

/-- Every turn in the dialogue about a class is one of these. -/
theorem of_dialogue (isClass : request.kind = .classTemplate)
    (resolves : asked.classTarget request = .ok target)
    (dialogue : Dialogue request asked calls turn) : ClassTurn request asked target calls turn := by
  induction dialogue with
  | first =>
      simp only [Session.firstTurn, isClass, resolves, Session.enterClass]
      cases enters : asked.enter target.entry request.location with
      | error cause =>
          refine .answered (.of_refused ?_)
          unfold Session.enter at enters
          split at enters
          · assumption
          · cases enters
      | ok entered => exact .solving rfl enters
  | next _ reply ended ih => exact ih.next resolves reply ended

/-- If the callbacks so far have spared the class, the analyzer finds what it needs. -/
theorem findsClass (turn : ClassTurn request asked target calls (.call callback called stage))
    (spared : Spared target.type calls) :
    FindsClass request asked target calls called callback := by
  cases turn with
  | solving isFirst enters => exact .solve isFirst enters
  | basing progress _ ready => exact .bases progress.isFirst progress.selects (ready spared)
  | building progress _ ready => exact .members progress.isFirst progress.selects (ready spared)
  | finishing progress isContext ready =>
      rw [isContext spared]
      exact .finish progress.isFirst (ready spared)

end ClassTurn

/-- Each callback was made in a turn that followed on the callbacks before it. -/
theorem Dialogue.exists_of_append {request : Request} {asked : Session} {calls : List Call}
    {turn : Turn} (dialogue : Dialogue request asked calls turn) {earlier later : List Call}
    {call : Call} (isCalls : calls = earlier ++ call :: later) :
    ∃ stage, Dialogue request asked earlier (.call call.callback call.called stage) := by
  induction dialogue generalizing later with
  | first => simp at isCalls
  | next before reply ended ih =>
      rcases List.eq_nil_or_concat later with rfl | ⟨between, last, rfl⟩
      · obtain ⟨rfl, same⟩ := List.append_inj' isCalls rfl
        cases same
        exact ⟨_, before⟩
      · rw [List.concat_eq_append, ← List.cons_append, ← List.append_assoc] at isCalls
        obtain ⟨isCallsBefore, -⟩ := List.append_inj' isCalls rfl
        exact ih isCallsBefore

/-- The callbacks for a class come in order.  If those before it have spared the class, the analyzer
finds at each of them what it needs for the step.  They spare the class if, while it is being
instantiated, what the analyzer changes does, and nobody requests the class once more. -/
theorem Activity.class_steps_in_order {σ α : Type} (analyzer : Analyzer σ) (action : Action σ α)
    (before : Compilation σ) {moment : Moment} (member : moment ∈ history analyzer action before)
    {pending : Pending} {outcome : Except InstantiationError Unit}
    (isAnswer : moment.event = .answered pending outcome)
    (isClass : pending.request.kind = .classTemplate) {target : ClassTarget}
    (resolves : pending.asked.classTarget pending.request = .ok target) :
    StepsInOrder pending.asked target pending.calls outcome ∧
      (∀ earlier call later, pending.calls = earlier ++ call :: later →
        Spared target.type earlier →
          FindsClass pending.request pending.asked target earlier call.called call.callback) ∧
      (LeftAlone target.type before.session (history analyzer action before) →
        Spared target.type pending.calls) := by
  have path := history_isPath analyzer.updates_anyChange action.updates_anyChange before
  obtain ⟨earlier, later, isHistory⟩ := List.append_of_mem member
  rw [isHistory, ← List.singleton_append, ← List.append_assoc] at path
  obtain ⟨_, _, pathHere⟩ := path.exists_of_append
  obtain ⟨-, -, _, session, pathBefore, step⟩ := pathHere.snoc_inv
  rw [isAnswer] at step
  cases step with
  | answered isIdle dialogue =>
      refine ⟨?_, ?_, ?_⟩
      · cases ClassTurn.of_dialogue isClass resolves dialogue with
        | answered inOrder => exact inOrder
      · intro earlier call later isCalls spared
        obtain ⟨stage, atCall⟩ := dialogue.exists_of_append isCalls
        exact (ClassTurn.of_dialogue isClass resolves atCall).findsClass spared
      · intro leftAlone
        rw [isHistory] at leftAlone
        obtain ⟨-, alone⟩ := pathBefore.staysAlone leftAlone.of_append
        exact (alone.top ⟨isClass, target, resolves, rfl⟩).spared

namespace Sample

def derivedTemplate : SymbolId × Program :=
  functionOfChar.2.declareClassTemplate ScopeTree.globalContext "B" [.type "T"]
    { members := some ⟨0⟩, bases := some ⟨1⟩ }

def derivedOfInt : SymbolId × Program :=
  (derivedTemplate.2.classInstance? derivedTemplate.1 [.type int]).getD default

def underived : Compilation Unit where
  session := { bounded.session with program := derivedOfInt.2 }
  analyzerState := ()

/-- The base clause names an instance of the other class template. -/
def inheriting : Analyzer Unit :=
  { Analyzer.idle Unit with
    buildBaseClause := fun _ _ _ => .instantiate (requestFor .classTemplate classOfInt.1) .done }

def derivedTarget : ClassTarget where
  entry := derivedOfInt.1
  type := ⟨11⟩
  template := ⟨9⟩

def requestingDerived : Action Unit Unit :=
  .instantiate (requestFor .classTemplate derivedOfInt.1) .done

def inheritance : List Moment :=
  Activity.history inheriting requestingDerived underived

def answered? (moment : Moment) : Option (Pending × Except InstantiationError Unit) :=
  match moment.event with
  | .answered pending outcome => some (pending, outcome)
  | _ => none

/-- Nothing is changed at a moment, and nobody requests the class within another request. -/
def isQuiet (moment : Moment) : Bool :=
  match moment.event with
  | .updated => false
  | .asked request =>
      moment.stack.tail.isEmpty ||
        match moment.session.classTarget request with
        | .ok target => target.type ≠ derivedTarget.type
        | .error _ => true
  | _ => true

set_option maxRecDepth 100000 in
theorem inheritance_isQuiet : inheritance.all isQuiet = true := by cbv

theorem inheritance_leftAlone : LeftAlone derivedTarget.type underived.session inheritance := by
  have quiet : ∀ moment ∈ inheritance, isQuiet moment = true :=
    List.all_eq_true.mp inheritance_isQuiet
  constructor
  · intro earlier moment later isMoments isUpdate
    have atMoment := quiet moment (by simp [isMoments])
    simp [isQuiet, isUpdate] at atMoment
  · intro moment member request asks again frame inTail
    have atMoment := quiet moment member
    obtain ⟨_, target, resolves, isType⟩ := again
    have someTail : moment.stack.tail.isEmpty = false := by
      simpa using List.ne_nil_of_mem inTail
    simp [isQuiet, asks, resolves, isType, someTail] at atMoment

set_option maxRecDepth 100000 in
/-- The instance of `A` goes without a base clause.  It is instantiated while the bases of the
instance of `B` are recorded, and spares that. -/
theorem derived_steps_in_order :
    ∃ moment ∈ inheritance, ∃ pending outcome, moment.event = .answered pending outcome ∧
      pending.request.kind = .classTemplate ∧
      pending.asked.classTarget pending.request = .ok derivedTarget ∧
      pending.calls.map (·.callback.classStep?) =
        [some .solve, some .bases, some .members, some .finish] ∧
      StepsInOrder pending.asked derivedTarget pending.calls outcome ∧
      ∀ earlier call later, pending.calls = earlier ++ call :: later →
        FindsClass pending.request pending.asked derivedTarget earlier call.called
          call.callback := by
  let observed (answer : Pending × Except InstantiationError Unit) :=
    (answer.1.request.kind, answer.1.asked.classTarget answer.1.request,
      answer.1.calls.map (·.callback.classStep?))
  have answers : (inheritance.filterMap answered?).map observed =
      [(.classTemplate, .ok ⟨classOfInt.1, ⟨6⟩, ⟨2⟩⟩, [some .solve, some .members, some .finish]),
        (.classTemplate, .ok derivedTarget,
          [some .solve, some .bases, some .members, some .finish])] := by
    cbv
  have isListed : (.classTemplate, .ok derivedTarget,
      [some .solve, some .bases, some .members, some .finish]) ∈
        (inheritance.filterMap answered?).map observed := by
    rw [answers]
    exact List.mem_cons_of_mem _ List.mem_cons_self
  obtain ⟨⟨pending, outcome⟩, isAnswered, isSo⟩ := List.mem_map.mp isListed
  obtain ⟨moment, member, isMoment⟩ := List.mem_filterMap.mp isAnswered
  obtain ⟨isClass, resolves, steps⟩ : pending.request.kind = .classTemplate ∧
      pending.asked.classTarget pending.request = .ok derivedTarget ∧
      pending.calls.map (·.callback.classStep?) =
        [some .solve, some .bases, some .members, some .finish] := by
    simpa [observed] using isSo
  have isAnswer : moment.event = .answered pending outcome := by
    unfold answered? at isMoment
    split at isMoment
    · next event =>
      cases isMoment
      exact event
    · cases isMoment
  obtain ⟨inOrder, finds, spared⟩ := Activity.class_steps_in_order inheriting requestingDerived
    underived member isAnswer isClass resolves
  refine ⟨moment, member, pending, outcome, isAnswer, isClass, resolves, steps, inOrder, ?_⟩
  intro earlier call later isCalls
  have all := spared inheritance_leftAlone
  refine finds earlier call later isCalls fun other isEarlier => all other ?_
  simp [isCalls, isEarlier]

end Sample

end CppTemplates
