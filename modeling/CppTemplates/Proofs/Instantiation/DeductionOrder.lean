import CppTemplates.Proofs.Instantiation.ClassOrder
import CppTemplates.Proofs.Instantiation.SingleInjection
import CppTemplates.Proofs.Program.SymbolTable

/-!
# Deductions are followed in their order

The analyzer answers with a template and with deductions, in any order, some of them repeated or
malformed.  The engine takes them as they come.  Each names its parameter by two numbers, and the
first parameter of the selected template that stands there gives its name to the argument.  The
first deduction that cannot be followed decides the error, and the arguments of those before it are
what the new scope holds.
-/

namespace CppTemplates

namespace Program

/-- A parameter stands at a nesting and position. -/
def StandsAt (program : Program) (parameter : TemplateParameter) (nesting position : Nat) : Prop :=
  (program.entry parameter.entry).nesting = nesting ∧
    (program.entry parameter.entry).position = position

/-- A parameter is the first one of a list that stands at a nesting and position. -/
def StandsFirstAt (program : Program) (parameters : List TemplateParameter)
    (nesting position : Nat) (parameter : TemplateParameter) : Prop :=
  ∃ earlier later, parameters = earlier ++ parameter :: later ∧
    program.StandsAt parameter nesting position ∧
      ∀ other ∈ earlier, ¬program.StandsAt other nesting position

variable {program : Program} {parameters : List TemplateParameter} {nesting position : Nat}

theorem parameterName_eq_ok {name : String}
    (named : program.parameterName parameters nesting position = .ok name) :
    ∃ parameter, program.StandsFirstAt parameters nesting position parameter ∧
      name = program.symbolName parameter.entry := by
  unfold parameterName at named
  split at named
  case h_2 => cases named
  case h_1 parameter found =>
    cases named
    obtain ⟨stands, earlier, later, isParameters, notEarlier⟩ :=
      List.find?_eq_some_iff_append.mp found
    refine ⟨parameter, ⟨earlier, later, isParameters, ?_, fun other member => ?_⟩, rfl⟩
    · simpa [StandsAt] using stands
    · simpa [StandsAt, Decidable.imp_iff_not_or] using notEarlier other member

theorem parameterName_eq_error {cause : InstantiationError}
    (unnamed : program.parameterName parameters nesting position = .error cause) :
    (∀ parameter ∈ parameters, ¬program.StandsAt parameter nesting position) ∧
      cause = .parameterNotFound nesting position := by
  unfold parameterName at unnamed
  split at unnamed
  case h_1 => cases unnamed
  case h_2 missing =>
    cases unnamed
    refine ⟨fun parameter member => ?_, rfl⟩
    have notHere := List.find?_eq_none.mp missing parameter member
    simpa [StandsAt] using notHere

end Program

namespace Session

/-- Why a deduction cannot be followed. -/
inductive RejectsDeduction (session : Session) (parameters : List TemplateParameter)
    (deduction : Deduction) : InstantiationError → Prop
  | count (notOne : deduction.deduced.length ≠ 1) :
      RejectsDeduction session parameters deduction
        (.deducedArgumentCount deduction.nesting deduction.position deduction.deduced.length)
  | parameter {argument : TemplateArgument} (single : deduction.deduced = [argument])
      (missing : ∀ parameter ∈ parameters,
        ¬session.program.StandsAt parameter deduction.nesting deduction.position) :
      RejectsDeduction session parameters deduction
        (.parameterNotFound deduction.nesting deduction.position)
  | argument {argument : TemplateArgument} {parameter : TemplateParameter}
      {cause : InstantiationError} (single : deduction.deduced = [argument])
      (stands : session.program.StandsFirstAt parameters deduction.nesting deduction.position
        parameter)
      (rejects : session.RejectsArgument (session.program.symbolName parameter.entry)
        deduction.kind argument cause) :
      RejectsDeduction session parameters deduction cause

/-- A deduction is followed: its only argument is declared under the name of the first parameter
that stands where it says. -/
structure FollowsDeduction (session : Session) (context : DeclContext)
    (parameters : List TemplateParameter) (deduction : Deduction) (symbol : SymbolId)
    (after : Session) (argument : TemplateArgument) (parameter : TemplateParameter) : Prop where
  single : deduction.deduced = [argument]
  stands : session.program.StandsFirstAt parameters deduction.nesting deduction.position parameter
  sameKind : argument.kind = deduction.kind
  gains : session.GainsArgument after context (session.program.symbolName parameter.entry) argument
    symbol

/-- Deductions are followed one after the other, up to the first that cannot be followed.  It
decides the error. -/
inductive FollowsInOrder (context : DeclContext) (parameters : List TemplateParameter) :
    Session → List Deduction → List SymbolId → Except InstantiationError Unit → Session → Prop
  | done (session : Session) : FollowsInOrder context parameters session [] [] (.ok ()) session
  | rejected {session : Session} {bad : Deduction} {cause : InstantiationError}
      (rejects : session.RejectsDeduction parameters bad cause) (rest : List Deduction) :
      FollowsInOrder context parameters session (bad :: rest) [] (.error cause) session
  | followed {session middle reached : Session} {deduction : Deduction} {symbol : SymbolId}
      {argument : TemplateArgument} {parameter : TemplateParameter} {rest : List Deduction}
      {symbols : List SymbolId} {outcome : Except InstantiationError Unit}
      (follows : session.FollowsDeduction context parameters deduction symbol middle argument
        parameter)
      (others : FollowsInOrder context parameters middle rest symbols outcome reached) :
      FollowsInOrder context parameters session (deduction :: rest) (symbol :: symbols) outcome
        reached

variable {context : DeclContext} {parameters : List TemplateParameter}

theorem followsInOrder_injectDeductions (context : DeclContext)
    (parameters : List TemplateParameter) (deductions : List Deduction) (session : Session) :
    ∃ symbols, FollowsInOrder context parameters session deductions symbols
      (injectDeductions context parameters deductions session).1
      (injectDeductions context parameters deductions session).2 := by
  induction deductions generalizing session with
  | nil => exact ⟨[], .done session⟩
  | cons deduction rest ih =>
      unfold injectDeductions
      split
      case h_2 deduced notSingle =>
        refine ⟨[], .rejected (.count fun isOne => ?_) rest⟩
        obtain ⟨argument, single⟩ := List.length_eq_one_iff.mp isOne
        exact notSingle argument single
      case h_1 argument single =>
        cases named : session.program.parameterName parameters deduction.nesting
            deduction.position with
        | error cause =>
            obtain ⟨missing, rfl⟩ := Program.parameterName_eq_error named
            exact ⟨[], .rejected (.parameter single missing) rest⟩
        | ok name =>
            obtain ⟨parameter, stands, rfl⟩ := Program.parameterName_eq_ok named
            dsimp only
            cases injects : session.injectArgument context
                (session.program.symbolName parameter.entry) deduction.kind argument with
            | error cause =>
                have rejects := rejectsArgument_of_injectArgument injects
                exact ⟨[], .rejected (.argument single stands rejects) rest⟩
            | ok injection =>
                obtain ⟨symbol, middle⟩ := injection
                obtain ⟨sameKind, gains⟩ := gainsArgument_of_injectArgument injects
                obtain ⟨symbols, others⟩ := ih middle
                exact ⟨symbol :: symbols, .followed ⟨single, stands, sameKind, gains⟩ others⟩

section Gains

variable {session after : Session} {name : String} {argument : TemplateArgument}
variable {symbol : SymbolId} (gains : session.GainsArgument after context name argument symbol)
include gains

theorem GainsArgument.keepsSymbols : session.program.KeepsSymbols after.program := by
  obtain ⟨type, value, symbols, -⟩ := gains.declared
  refine ⟨by simp [symbols], fun id bound => ?_⟩
  have notLast : id.index ≠ session.program.symbols.size := Nat.ne_of_lt bound
  simp [Program.entry, symbols, Array.getElem?_push, notLast]

theorem GainsArgument.size_eq :
    after.program.symbols.size = session.program.symbols.size + 1 := by
  obtain ⟨type, value, symbols, -⟩ := gains.declared
  simp [symbols]

end Gains

end Session

/-- A scope lists some symbols, each under its name, and nothing else. -/
def Program.ListsExactly (program : Program) (scope : ScopeId) (symbols : List SymbolId) : Prop :=
  ∀ name, program.scopes.lookupLocal scope name =
    symbols.filter fun symbol => program.symbolName symbol = name

/-- A symbol of a later program stands for the argument of a deduction.  It has the name of the
first parameter that stands in a program where the deduction says. -/
def Program.DeclaredFor (program later : Program) (parameters : List TemplateParameter)
    (deduction : Deduction) (symbol : SymbolId) : Prop :=
  ∃ argument parameter, deduction.deduced = [argument] ∧ argument.kind = deduction.kind ∧
    program.StandsFirstAt parameters deduction.nesting deduction.position parameter ∧
      later.symbolName symbol = program.symbolName parameter.entry ∧
        (later.entry symbol).kind = argument.kind.argumentSymbolKind ∧
          (later.entry symbol).isTemplateArgument = true

namespace Session

variable {session reached : Session} {scope : ScopeId}

theorem GainsArgument.listsExactly {after : Session} {name : String} {argument : TemplateArgument}
    {symbol : SymbolId} (gains : session.GainsArgument after context name argument symbol)
    (inScope : context.templateScope = some scope)
    (inTree : scope.index < session.program.scopes.scopes.size) {listed : List SymbolId}
    (known : ∀ other ∈ listed, other.index < session.program.symbols.size)
    (lists : session.program.ListsExactly scope listed) :
    after.program.ListsExactly scope (listed ++ [symbol]) := by
  intro sought
  have inserted := gains.listed
  rw [DeclContext.argumentScope_eq inScope] at inserted
  obtain ⟨type, value, entry, -⟩ := gains.entry
  have isNamed : after.program.symbolName symbol = name := by
    rw [Program.symbolName, entry]
  have sameNames : listed.filter (fun other => after.program.symbolName other = sought) =
      listed.filter fun other => session.program.symbolName other = sought := by
    apply List.filter_congr
    intro other member
    rw [Program.symbolName, gains.keepsSymbols.entry other (known other member), Program.symbolName]
  rw [List.filter_append, sameNames, ← lists sought]
  by_cases same : sought = name
  · subst same
    rw [inserted.listed inTree]
    simp [isNamed]
  · have different : name ≠ sought := fun equal => same equal.symm
    rw [inserted.otherNames sought same]
    simp [isNamed, different]

namespace FollowsInOrder

variable {deductions : List Deduction} {symbols : List SymbolId}
variable {outcome : Except InstantiationError Unit}

theorem keepsSymbols
    (follows : FollowsInOrder context parameters session deductions symbols outcome reached) :
    session.program.KeepsSymbols reached.program := by
  induction follows with
  | done => exact .refl _
  | rejected => exact .refl _
  | followed follows _ ih => exact follows.gains.keepsSymbols.trans ih

theorem numbered
    (follows : FollowsInOrder context parameters session deductions symbols outcome reached) :
    symbols = (List.range' session.program.symbols.size symbols.length).map SymbolId.mk := by
  induction follows with
  | done => rfl
  | rejected => rfl
  | followed follows _ ih =>
      rw [List.length_cons, List.range'_succ, List.map_cons, ← follows.gains.isNext]
      rw [follows.gains.size_eq] at ih
      exact congrArg _ ih

/-- The scope lists what is declared in it after what it has listed. -/
theorem listsExactly
    (follows : FollowsInOrder context parameters session deductions symbols outcome reached)
    (inScope : context.templateScope = some scope)
    (inTree : scope.index < session.program.scopes.scopes.size) {listed : List SymbolId}
    (known : ∀ other ∈ listed, other.index < session.program.symbols.size)
    (lists : session.program.ListsExactly scope listed) :
    reached.program.ListsExactly scope (listed ++ symbols) := by
  induction follows generalizing listed with
  | done => simpa using lists
  | rejected => simpa using lists
  | @followed session middle _ _ symbol _ _ _ _ _ follows _ ih =>
      have gains := follows.gains
      have inTreeToo : scope.index < middle.program.scopes.scopes.size := by
        rw [gains.listed.size_eq]
        exact inTree
      have knownToo : ∀ other ∈ listed ++ [symbol],
          other.index < middle.program.symbols.size := by
        intro other member
        rw [gains.size_eq]
        rcases List.mem_append.mp member with old | isNew
        · exact Nat.lt_succ_of_lt (known other old)
        · rw [List.mem_singleton.mp isNew, gains.isNext]
          exact Nat.lt_succ_self _
      have listsToo := ih inTreeToo knownToo (gains.listsExactly inScope inTree known lists)
      rwa [List.append_assoc, List.singleton_append] at listsToo

/-- Each symbol stands for the argument of its deduction.  The parameters have the names that they
had at first. -/
theorem declared {program : Program}
    (follows : FollowsInOrder context parameters session deductions symbols outcome reached)
    (keeps : program.KeepsSymbols session.program)
    (valid : ∀ parameter ∈ parameters, parameter.entry.index < program.symbols.size) :
    List.Forall₂ (program.DeclaredFor reached.program parameters)
      (deductions.take symbols.length) symbols := by
  induction follows with
  | done => exact .nil
  | rejected => exact .nil
  | @followed session middle reached deduction symbol argument parameter _ _ _ follows others ih =>
      refine .cons ?_ (ih (keeps.trans follows.gains.keepsSymbols))
      obtain ⟨single, stands, sameKind, gains⟩ := follows
      obtain ⟨type, value, entry, -⟩ := gains.entry
      have sameEntry (other : TemplateParameter) (member : other ∈ parameters) :
          session.program.entry other.entry = program.entry other.entry :=
        keeps.entry _ (valid other member)
      obtain ⟨earlier, later, isParameters, standsHere, notEarlier⟩ := stands
      have isParameter : parameter ∈ parameters := by simp [isParameters]
      have isSymbol : reached.program.entry symbol = middle.program.entry symbol := by
        apply others.keepsSymbols.entry
        rw [gains.isNext, gains.size_eq]
        exact Nat.lt_succ_self _
      refine ⟨argument, parameter, single, sameKind, ⟨earlier, later, isParameters, ?_, ?_⟩, ?_,
        ?_, ?_⟩
      · unfold Program.StandsAt at standsHere ⊢
        rwa [← sameEntry parameter isParameter]
      · intro other member
        have isOther : other ∈ parameters := by simp [isParameters, member]
        have standsNot := notEarlier other member
        unfold Program.StandsAt at standsNot ⊢
        rwa [← sameEntry other isOther]
      · rw [Program.symbolName, isSymbol, entry, Program.symbolName,
          sameEntry parameter isParameter]
        rfl
      · rw [isSymbol, entry]
      · rw [isSymbol, entry]

theorem length_eq
    (follows : FollowsInOrder context parameters session deductions symbols outcome reached)
    (isOk : outcome = .ok ()) : symbols.length = deductions.length := by
  induction follows with
  | done => rfl
  | rejected => cases isOk
  | followed _ _ ih => rw [List.length_cons, List.length_cons, ih isOk]

end FollowsInOrder

end Session

namespace Dialogue

variable {request : Request} {asked : Session} {turn : Turn}

/-- One callback is made in the first turn, and its reply leads to the next. -/
theorem single_inv {call : Call} (dialogue : Dialogue request asked [call] turn) :
    ∃ stage, asked.firstTurn request = .call call.callback call.called stage ∧
      turn = stage.nextTurn request call.reply call.ended := by
  rw [← List.nil_append [call]] at dialogue
  generalize isCalls : [] ++ [call] = calls at dialogue
  cases dialogue with
  | first => cases isCalls
  | @next earlier callback called stage before reply ended =>
      obtain ⟨rfl, same⟩ := List.append_inj' isCalls rfl
      cases same
      generalize isTurn : Turn.call _ _ stage = turn at before
      generalize noCalls : ([] : List Call) = calls at before
      cases before with
      | first => exact ⟨stage, isTurn.symm, rfl⟩
      | next => simp at noCalls

/-- After the first callback for a class, the engine takes the turn that the reply calls for. -/
theorem of_cons {target : ClassTarget} {first : Call} {rest : List Call}
    (isClass : request.kind = .classTemplate) (resolves : asked.classTarget request = .ok target)
    (dialogue : Dialogue request asked (first :: rest) turn) :
    asked.enter target.entry request.location = .ok first.called ∧
      match rest with
      | [] => turn = (Stage.solving target).nextTurn request first.reply first.ended
      | second :: _ => ∃ stage, (Stage.solving target).nextTurn request first.reply first.ended =
          .call second.callback second.called stage := by
  have isFirst {other : Turn} (single : Dialogue request asked [first] other) :
      asked.enter target.entry request.location = .ok first.called ∧
        other = (Stage.solving target).nextTurn request first.reply first.ended := by
    obtain ⟨stage, calls, follows⟩ := single.single_inv
    simp only [Session.firstTurn, isClass, resolves, Session.enterClass] at calls
    cases enters : asked.enter target.entry request.location with
    | error cause =>
        rw [enters] at calls
        cases calls
    | ok entered =>
        rw [enters] at calls
        injection calls with _ sameSession sameStage
        subst sameStage
        exact ⟨by rw [sameSession], follows⟩
  cases rest with
  | nil => exact isFirst dialogue
  | cons second later =>
      have isCalls : first :: second :: later = [first] ++ second :: later := rfl
      obtain ⟨stage, single⟩ := dialogue.exists_of_append isCalls
      obtain ⟨enters, follows⟩ := isFirst single
      exact ⟨enters, stage, follows.symm⟩

end Dialogue

theorem Call.nextTurn_of_selection? {call : Call} {selection : Selection} (request : Request)
    (target : ClassTarget) (selects : call.selection? = some selection) :
    (Stage.solving target).nextTurn request call.reply call.ended =
      match call.ended.openSelected target selection with
      | (.error cause, opened) => .answer (.error cause) (opened.leave target.entry)
      | (.ok _, opened) =>
          opened.basesTurn request target (call.ended.tree.copyTrees selection.trees).1.bases
            (call.ended.preparedClass selection.trees target) := by
  unfold selection? at selects
  split at selects
  case h_2 => cases selects
  case h_1 solution solves =>
    obtain ⟨⟨trees, parameters⟩, isSelected, rfl⟩ := Option.map_eq_some_iff.mp selects
    rw [solves]
    simp only [Stage.nextTurn, Session.prepareTurn, isSelected]
    rfl

/-- Opening an instance creates two scopes, one for the arguments and one for the members.  Nothing
is declared in them yet. -/
theorem Program.newScopes_openInstance (program : Program) (entry : SymbolId) (classType : TypeId) :
    (program.openInstance entry classType).1.1.templateScope =
        some ⟨program.scopes.scopes.size⟩ ∧
      (program.openInstance entry classType).1.2 =
        (program.entry entry).declContext.forInstance ⟨program.scopes.scopes.size⟩
          ⟨program.scopes.scopes.size + 1⟩ ∧
      (program.openInstance entry classType).2.scopes.scopes.size =
        program.scopes.scopes.size + 2 ∧
      ∀ scope : ScopeId, program.scopes.scopes.size ≤ scope.index →
        ((program.openInstance entry classType).2.scopes.scope scope).entries = [] := by
  refine ⟨rfl, ?_, ?_, fun scope isNew => ?_⟩
  · simp [openInstance, ScopeTree.newTemplateContext, ScopeTree.newClassContext,
      ScopeTree.createChild, DeclContext.forInstance]
  · rw [scopes_openInstance, ScopeTree.size_createChild, ScopeTree.size_createChild]
  · rw [scopes_openInstance, ScopeTree.entries_createChild, ScopeTree.entries_createChild]
    simp only [ScopeTree.scope, Array.getElem?_eq_none isNew]
    rfl

namespace Session

/-- A later session still holds the arguments that a scope holds. -/
structure StillHolds (session later : Session) (scope : ScopeId) : Prop where
  symbols_le : session.program.symbols.size ≤ later.program.symbols.size
  sameScope : later.program.scopes.scope scope = session.program.scopes.scope scope
  kept : ∀ symbol : SymbolId, symbol.index < session.program.symbols.size →
    (session.program.entry symbol).KeptAs (later.program.entry symbol)

namespace StillHolds

variable {session later : Session} {scope : ScopeId}

theorem refl (session : Session) (scope : ScopeId) : session.StillHolds session scope :=
  ⟨Nat.le_refl _, rfl, fun _ _ => .refl _⟩

/-- The name of a class is declared among its members and not among the arguments. -/
theorem of_completeClass (target : ClassTarget) {inner : DeclContext}
    (different : scope ≠ inner.currentScope) :
    session.StillHolds (session.completeClass target inner) scope := by
  have works : session.Works (session.completeClass target inner) := works_completeClass _ _
  refine ⟨works.symbols.size_le, ?_, fun symbol bound => ?_⟩
  · simp only [completeClass, Program.scopes_completeInstance]
    exact ScopeTree.scope_insert_of_ne different _ _
  · rw [works.symbols.entry symbol bound]
    exact .refl _

theorem define (holds : session.StillHolds later scope) (entry : SymbolId) :
    session.StillHolds (later.define entry) scope where
  symbols_le := by simpa [Session.define, Program.modifyEntry] using holds.symbols_le
  sameScope := holds.sameScope
  kept symbol bound := by
    refine (holds.kept symbol bound).trans ?_
    by_cases same : symbol = entry
    · subst same
      rw [Session.define,
        Program.entry_modifyEntry_self (Nat.lt_of_lt_of_le bound holds.symbols_le)]
      exact ⟨true, fun _ => rfl, rfl⟩
    · rw [Session.define, Program.entry_modifyEntry_of_ne same]
      exact .refl _

end StillHolds

/-- When the engine goes on after the arguments are declared, the analyzer finds them as they were
declared. -/
theorem stillHolds_of_basesTurn {session called : Session} {request : Request}
    {target : ClassTarget} {clause : Option NodeId} {prepared : PreparedClass}
    {callback : Callback} {stage : Stage} {scope : ScopeId}
    (different : scope ≠ prepared.inner.currentScope)
    (calls : session.basesTurn request target clause prepared = .call callback called stage) :
    session.StillHolds called scope := by
  have completes : session.StillHolds (session.completeClass target prepared.inner) scope :=
    .of_completeClass target different
  unfold basesTurn completeTurn membersTurn finishTurn at calls
  split at calls
  · cases calls
    exact .refl session scope
  · split at calls
    · cases calls
      exact completes
    · cases calls
      exact completes.define target.entry

/-- The context in which the arguments of a class are declared. -/
def argumentContext (session : Session) (target : ClassTarget) : DeclContext :=
  (session.program.openInstance target.entry target.type).1.1

/-- What comes of the deductions that are selected for a class.  They are followed in order, in a
new scope, which then lists the symbols that were declared for them and nothing else.  If the
parameters of the selected template are symbols of the program, the symbols have their names. -/
structure Deduces (solved : Session) (target : ClassTarget) (selection : Selection)
    (scope : ScopeId) (symbols : List SymbolId) (outcome : Except InstantiationError Unit)
    (reached : Session) : Prop where
  inScope : (solved.argumentContext target).templateScope = some scope
  isNew : scope.index = solved.program.scopes.scopes.size
  follows : FollowsInOrder (solved.argumentContext target) selection.parameters
    (solved.openClass selection.trees target.entry target.type) selection.deductions symbols
    outcome reached
  numbered : symbols =
    (List.range' solved.program.symbols.size symbols.length).map SymbolId.mk
  lists : reached.program.ListsExactly scope symbols
  complete : outcome = .ok () → symbols.length = selection.deductions.length
  declared : (∀ parameter ∈ selection.parameters,
      parameter.entry.index < solved.program.symbols.size) →
    List.Forall₂ (solved.program.DeclaredFor reached.program selection.parameters)
      (selection.deductions.take symbols.length) symbols

/-- Opening a class for a selection follows the deductions. -/
theorem deduces_openSelected (solved : Session) (target : ClassTarget) (selection : Selection) :
    ∃ symbols, solved.Deduces target selection ⟨solved.program.scopes.scopes.size⟩ symbols
      (solved.openSelected target selection).1 (solved.openSelected target selection).2 := by
  obtain ⟨symbols, follows⟩ := followsInOrder_injectDeductions (solved.argumentContext target)
    selection.parameters selection.deductions
    (solved.openClass selection.trees target.entry target.type)
  obtain ⟨inScope, -, size, empty⟩ :=
    solved.program.newScopes_openInstance target.entry target.type
  have keeps := solved.program.keepsSymbols_openInstance target.entry target.type
  have inTree : solved.program.scopes.scopes.size <
      (solved.program.openInstance target.entry target.type).2.scopes.scopes.size := by omega
  have noneListed : (solved.program.openInstance target.entry target.type).2.ListsExactly
      ⟨solved.program.scopes.scopes.size⟩ [] := by
    intro name
    rw [ScopeTree.lookupLocal, empty ⟨solved.program.scopes.scopes.size⟩ (Nat.le_refl _)]
    rfl
  have numbered := follows.numbered
  have sameSize : (solved.program.openInstance target.entry target.type).2.symbols.size =
      solved.program.symbols.size :=
    congrArg Array.size (Program.scopes_modifyClass target.type _).2
  refine ⟨symbols, inScope, rfl, follows, ?_, ?_, follows.length_eq, follows.declared keeps⟩
  · rw [← sameSize]
    exact numbered
  · exact follows.listsExactly inScope inTree (by simp) noneListed

end Session

theorem Activity.dialogue_of_answered {σ α : Type} {analyzer : Analyzer σ} {action : Action σ α}
    {before : Compilation σ} {moment : Moment} (member : moment ∈ history analyzer action before)
    {pending : Pending} {outcome : Except InstantiationError Unit}
    (isAnswer : moment.event = .answered pending outcome) :
    Dialogue pending.request pending.asked pending.calls (.answer outcome moment.session) := by
  have path := history_isPath analyzer.updates_anyChange action.updates_anyChange before
  obtain ⟨earlier, later, isHistory⟩ := List.append_of_mem member
  rw [isHistory] at path
  obtain ⟨_, _, -, step⟩ := path.exists_step_of_append
  rw [isAnswer] at step
  cases step with
  | answered _ dialogue => exact dialogue

/-- The deductions that the analyzer selects for a class are followed in order.  If one cannot be
followed, its error answers the request, no other callback is made, and the arguments before it are
what the new scope holds.  If all are followed, the analyzer finds the arguments in the next
callback. -/
theorem Activity.deductions_followed_in_order {σ α : Type} (analyzer : Analyzer σ)
    (action : Action σ α) (before : Compilation σ) {moment : Moment}
    (member : moment ∈ history analyzer action before) {pending : Pending}
    {outcome : Except InstantiationError Unit} (isAnswer : moment.event = .answered pending outcome)
    (isClass : pending.request.kind = .classTemplate) {target : ClassTarget}
    (resolves : pending.asked.classTarget pending.request = .ok target) {first : Call}
    (isFirst : pending.calls.head? = some first) {selection : Selection}
    (selects : first.selection? = some selection) :
    ∃ scope symbols followed reached,
      first.ended.Deduces target selection scope symbols followed reached ∧
      (∀ cause, followed = .error cause →
        outcome = .error cause ∧ pending.calls = [first] ∧
          moment.session = reached.leave target.entry) ∧
      (followed = .ok () → ∃ second later, pending.calls = first :: second :: later ∧
        reached.StillHolds second.called scope) := by
  have dialogue := dialogue_of_answered member isAnswer
  obtain ⟨symbols, deduces⟩ := first.ended.deduces_openSelected target selection
  refine ⟨_, symbols, _, _, deduces, ?_⟩
  have follows := Call.nextTurn_of_selection? pending.request target selects
  obtain ⟨rest, isCalls⟩ := List.head?_eq_some_iff.mp isFirst
  rw [isCalls] at dialogue ⊢
  have turn := (dialogue.of_cons isClass resolves).2
  cases opens : first.ended.openSelected target selection with
  | mk followed reached =>
      rw [opens] at follows
      cases followed with
      | error cause =>
          dsimp only at follows
          refine ⟨fun other isOther => ?_, fun isOk => nomatch isOk⟩
          cases isOther
          cases rest with
          | nil =>
              obtain ⟨rfl, sameSession⟩ := Turn.answer.inj (turn.trans follows)
              exact ⟨rfl, rfl, sameSession⟩
          | cons second later =>
              obtain ⟨stage, calls⟩ := turn
              cases calls.symm.trans follows
      | ok _ =>
          dsimp only at follows
          refine ⟨fun cause isError => (nomatch isError), fun _ => ?_⟩
          cases rest with
          | nil =>
              -- What follows on the arguments is a callback and no answer.
              have resumes := Session.resumes_basesTurn pending.request target
                (first.ended.preparedClass selection.trees target) ⟨none, rfl⟩ (.refl reached)
                (first.ended.tree.copyTrees selection.trees).1.bases
              rw [← follows, ← turn] at resumes
              exact resumes.elim
          | cons second later =>
              obtain ⟨stage, calls⟩ := turn
              refine ⟨second, later, rfl, ?_⟩
              refine Session.stillHolds_of_basesTurn ?_ (follows.symm.trans calls)
              have inner :=
                (first.ended.program.newScopes_openInstance target.entry target.type).2.1
              simp [Session.preparedClass, inner, DeclContext.forInstance]

namespace Sample

/-- What is seen of the only answer among some moments is so at a moment. -/
theorem exists_answered {α : Type} {moments : List Moment}
    {observe : Moment → Pending × Except InstantiationError Unit → α} {seen : α}
    (answers : moments.filterMap (fun moment => (answered? moment).map (observe moment)) =
      [seen]) :
    ∃ moment ∈ moments, ∃ pending outcome, moment.event = .answered pending outcome ∧
      observe moment (pending, outcome) = seen := by
  obtain ⟨moment, member, observed⟩ := List.mem_filterMap.mp (answers ▸ List.mem_singleton_self _)
  obtain ⟨⟨pending, outcome⟩, isAnswered, isSeen⟩ := Option.map_eq_some_iff.mp observed
  refine ⟨moment, member, pending, outcome, ?_, isSeen⟩
  unfold answered? at isAnswered
  split at isAnswered
  · next isEvent =>
    cases isAnswered
    exact isEvent
  · cases isAnswered

def misplaced : Deduction where
  nesting := 0
  position := 7
  kind := .type
  deduced := [.type int]

/-- The deductions come from last to first, with one for no parameter before the last. -/
def disorderly : Analyzer Unit :=
  { Analyzer.idle Unit with
    solveClassTemplate := fun _ template requested _ => .inspect fun compilation =>
      .done ((compilation.session.program.solvePrimary template requested).map fun solution? =>
        solution?.map fun solution =>
          { solution with deductions :=
              solution.deductions.reverse.insertIdx 2 misplaced }) }

def requestingArguments : Action Unit Unit :=
  .instantiate request .done

def disorder : List Moment :=
  Activity.history disorderly requestingArguments compilation

def disorderedTarget : ClassTarget where
  entry := requested.1
  type := ⟨4⟩
  template := ⟨1⟩

/-- The request, its outcome, the positions of the deductions, the number of callbacks, and the
names that each scope lists. -/
def observeDisorder (moment : Moment) (answer : Pending × Except InstantiationError Unit) :=
  (answer.1.request.kind, answer.1.asked.classTarget answer.1.request, answer.2,
    (answer.1.calls.head?.bind Call.selection?).map (·.deductions.map (·.position)),
    answer.1.calls.length,
    moment.session.program.scopes.scopes.map fun scope => scope.entries.map (·.1))

set_option maxRecDepth 100000 in
/-- The arguments for `N` and `C` are declared, in this order.  The deduction after them is for no
parameter, and the one for `T` is not looked at. -/
theorem disorder_followed :
    ∃ moment ∈ disorder, ∃ pending first selection scope symbols reached,
      moment.event = .answered pending (.error (.parameterNotFound 0 7)) ∧
      pending.calls = [first] ∧ first.selection? = some selection ∧
      selection.deductions.map (·.position) = [2, 1, 7, 0] ∧
      first.ended.Deduces disorderedTarget selection scope symbols
        (.error (.parameterNotFound 0 7)) reached ∧
      moment.session = reached.leave disorderedTarget.entry ∧
      (moment.session.program.scopes.scopes.map fun scope => scope.entries.map (·.1)) =
        #[["A"], ["T", "C", "N"], ["N", "C"], []] := by
  have answers : disorder.filterMap (fun moment =>
      (answered? moment).map (observeDisorder moment)) =
      [(.classTemplate, .ok disorderedTarget, .error (.parameterNotFound 0 7),
        some [2, 1, 7, 0], 1, #[["A"], ["T", "C", "N"], ["N", "C"], []])] := by
    cbv
  obtain ⟨moment, member, pending, outcome, isAnswer, isSo⟩ := exists_answered answers
  simp only [observeDisorder, Prod.mk.injEq] at isSo
  obtain ⟨isClass, resolves, rfl, isSelected, oneCall, names⟩ := isSo
  obtain ⟨selection, selected, positions⟩ := Option.map_eq_some_iff.mp isSelected
  obtain ⟨first, isFirst, selects⟩ := Option.bind_eq_some_iff.mp selected
  obtain ⟨scope, symbols, followed, reached, deduces, fails, goesOn⟩ :=
    Activity.deductions_followed_in_order disorderly requestingArguments compilation member
      isAnswer isClass resolves isFirst selects
  cases followed with
  | ok _ =>
      obtain ⟨second, later, isCalls, -⟩ := goesOn rfl
      simp [isCalls] at oneCall
  | error cause =>
      obtain ⟨same, isCalls, atEnd⟩ := fails cause rfl
      cases same
      exact ⟨moment, member, pending, first, selection, scope, symbols, reached, isAnswer, isCalls,
        selects, positions, deduces, atEnd, names⟩

end Sample

end CppTemplates
