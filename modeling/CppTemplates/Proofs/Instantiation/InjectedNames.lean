import CppTemplates.Proofs.Instantiation.FailedClasses
import CppTemplates.Proofs.Instantiation.MemberDeclarations
import CppTemplates.Proofs.Instantiation.TypedefRequests
import CppTemplates.Proofs.Program.SelfNaming

/-!
# The name of a class inside the class

The name of a class is the first thing that is declared in the scope of its members, if the analyzer
waits until the class is complete.  It has the type of the class, and the class has the context for
its members on record.  So inside the class the name opens the scope that it is declared in, however
many members of the same name follow, and leads back to the class as often as it is repeated.
-/

namespace CppTemplates

/-- A symbol is the name of a class. -/
structure Program.IsClassName (program : Program) (symbol : SymbolId) (type : TypeId) : Prop where
  kind : (program.entry symbol).kind = .className
  isClassOf : program.classOf? symbol = some type

namespace Program.IsClassName

variable {before after : Program} {symbol : SymbolId} {type : TypeId}

theorem index_lt (isName : before.IsClassName symbol type) :
    symbol.index < before.symbols.size := by
  obtain ⟨_, typed, _⟩ := classOf?_eq_some.mp isName.isClassOf
  exact index_lt_of_entryType typed

theorem retained (isName : before.IsClassName symbol type) (retains : before.Retains after) :
    after.IsClassName symbol type :=
  ⟨(retains.entry symbol isName.index_lt).kind.trans isName.kind,
    retains.classOf?_eq_some isName.isClassOf⟩

theorem symbolName_eq (isName : before.IsClassName symbol type) (retains : before.Retains after) :
    after.symbolName symbol = before.symbolName symbol :=
  (retains.entry symbol isName.index_lt).name

/-- The copy of the name of a class that is declared inside it is a name of the class. -/
theorem injected (isName : before.IsClassName symbol type) (classType : TypeId)
    (inner : DeclContext) :
    (before.completeInstance symbol classType inner).IsClassName ⟨before.symbols.size⟩ type := by
  have retains := before.retains_completeInstance symbol classType inner
  obtain ⟨own, typed, actual⟩ := classOf?_eq_some.mp isName.isClassOf
  have atCopy := entry_completeInstance before symbol classType inner
  refine ⟨?_, classOf?_eq_some.mpr ⟨own, ?_, retains.actualClass?_eq_some actual⟩⟩
  · rw [atCopy]
    exact isName.kind
  · rw [atCopy]
    exact typed

end Program.IsClassName

namespace Session

/-- A class has a context for its members, of which there are none yet. -/
structure AwaitsMembers (session : Session) (type : TypeId) (inner : DeclContext) : Prop where
  classIs : session.program.ClassIs type .incompleteIndependent (some inner)
  inTree : inner.currentScope.index < session.program.scopes.scopes.size
  noMembers : ∀ name, session.program.scopes.lookupLocal inner.currentScope name = []

/-- A class is complete, and inside it the first candidate of its name is a name of the class. -/
structure NamesClass (session : Session) (type : TypeId) (name : String) (inner : DeclContext) :
    Prop where
  classIs : session.program.ClassIs type .completeIndependent (some inner)
  inTree : inner.currentScope.index < session.program.scopes.scopes.size
  first : ∃ first others,
    session.program.scopes.lookupLocal inner.currentScope name = first :: others ∧
      session.program.IsClassName first type

variable {session after : Session} {type : TypeId} {name : String} {inner : DeclContext}

theorem AwaitsMembers.later (awaits : session.AwaitsMembers type inner)
    (declares : session.DeclaresOnlyMembers type after) : after.AwaitsMembers type inner where
  classIs := declares.classIs _ _ awaits.classIs
  inTree := Nat.lt_of_lt_of_le awaits.inTree declares.scopes_le
  noMembers name := by
    rw [declares.noneEarly inner awaits.classIs awaits.inTree name]
    exact awaits.noMembers name

theorem NamesClass.later (names : session.NamesClass type name inner)
    (declares : session.DeclaresOnlyMembers type after) : after.NamesClass type name inner where
  classIs := declares.classIs _ _ names.classIs
  inTree := Nat.lt_of_lt_of_le names.inTree declares.scopes_le
  first := by
    obtain ⟨first, others, found, isName⟩ := names.first
    obtain ⟨more, behind⟩ := declares.behind inner names.classIs names.inTree name
    rw [found] at behind
    exact ⟨first, others ++ more, behind.symm, isName.retained declares.retains⟩

theorem NamesClass.leadsBack (names : session.NamesClass type name inner) :
    session.program.LeadsBack type name inner := by
  obtain ⟨data, isClass, -, recorded⟩ := names.classIs
  obtain ⟨first, others, found, isName⟩ := names.first
  exact .of_first isClass recorded found isName.kind isName.isClassOf

theorem works_openSelected (session : Session) (target : ClassTarget) (selection : Selection) :
    session.Works (session.openSelected target selection).2 := by
  have opens : session.Works (session.openClass selection.trees target.entry target.type) :=
    works_openClass _ _ _
  exact opens.trans (works_injectDeductions (session.argumentContext target) selection.parameters
    selection.deductions)

/-- Opening a class for what was selected gives it a context without members. -/
theorem awaitsMembers_openSelected {target : ClassTarget} {recorded : Option DeclContext}
    {opened : Session} {selection : Selection}
    (entry_lt : target.entry.index < session.program.symbols.size)
    (classIs : session.program.ClassIs target.type .incompleteIndependent recorded)
    (opens : session.openSelected target selection = (.ok (), opened)) :
    opened.AwaitsMembers target.type (session.preparedClass selection.trees target).inner := by
  obtain ⟨prepares, -⟩ := prepares_openSelected entry_lt classIs opens
  have gains := gainsContext_openSelected classIs selection
  rw [opens] at gains
  obtain ⟨-, isInner, -⟩ := session.program.newScopes_openInstance target.entry target.type
  refine ⟨prepares.classIs, prepares.inTree, fun name => ?_⟩
  simp only [preparedClass, isInner, DeclContext.forInstance, ScopeTree.lookupLocal,
    gains.noMembers]
  rfl

/-- Completing a class without members makes its name the first of them. -/
theorem AwaitsMembers.completed {target : ClassTarget}
    (awaits : session.AwaitsMembers target.type inner)
    (isName : session.program.IsClassName target.entry target.type) :
    (session.completeClass target inner).NamesClass target.type
      (session.program.symbolName target.entry) inner := by
  obtain ⟨classIs, -⟩ := Program.completeInstance_named target.entry awaits.classIs awaits.inTree
  obtain ⟨-, sameSize, -, declared⟩ :=
    Program.completeInstance_spec session.program target.entry target.type awaits.inTree
  refine ⟨classIs, Nat.lt_of_lt_of_eq awaits.inTree sameSize.symm,
    ⟨session.program.symbols.size⟩, [], ?_, isName.injected target.type inner⟩
  have noneBefore := awaits.noMembers (session.program.symbolName target.entry)
  rw [ScopeTree.lookupLocal] at noneBefore
  rw [completeClass, ScopeTree.lookupLocal, declared, ScopeEntries.candidates_insert, if_pos rfl,
    noneBefore]
  rfl

theorem declaresMembers_define (session : Session) (entry : SymbolId) :
    session.DeclaresOnlyMembers type (session.define entry) :=
  .of_keepsScopes (spares_define session entry) (.of_sameScopes rfl)

theorem declaresMembers_record (session : Session) (entity : SymbolId) (location : Location) :
    session.DeclaresOnlyMembers type (session.record entity location) :=
  .of_keepsScopes (spares_record session entity location)
    (keepsScopes_record session entity location)

end Session

/-- What has become of a class and its name at a turn of the engine, if the callbacks before have
declared the members in time. -/
inductive NamingTurn (asked : Session) (target : ClassTarget) : Turn → Prop
  | solving {callback : Callback} {called : Session} (same : called.program = asked.program) :
      NamingTurn asked target (.call callback called (.solving target))
  | basing {prepared : PreparedClass} {callback : Callback} {called : Session}
      (retains : asked.program.Retains called.program)
      (awaits : called.AwaitsMembers target.type prepared.inner) :
      NamingTurn asked target (.call callback called (.basing target prepared))
  | building {prepared : PreparedClass} {callback : Callback} {called : Session}
      {inner : DeclContext}
      (names : called.NamesClass target.type (asked.program.symbolName target.entry) inner) :
      NamingTurn asked target (.call callback called (.building target prepared))
  | finishing {callback : Callback} {called : Session} {inner : DeclContext}
      (names : called.NamesClass target.type (asked.program.symbolName target.entry) inner) :
      NamingTurn asked target (.call callback called (.finishing target))
  | answered {after : Session} {inner : DeclContext}
      (names : after.NamesClass target.type (asked.program.symbolName target.entry) inner) :
      NamingTurn asked target (.answer (.ok ()) after)
  | failed (cause : InstantiationError) (after : Session) :
      NamingTurn asked target (.answer (.error cause) after)

namespace Session

variable {request : Request} {asked session : Session} {target : ClassTarget}
variable {inner : DeclContext} {prepared : PreparedClass}

theorem namingTurn_finishTurn
    (names : session.NamesClass target.type (asked.program.symbolName target.entry) inner)
    (prepared : PreparedClass) :
    NamingTurn asked target (session.finishTurn request target prepared) :=
  .finishing (names.later (declaresMembers_define session target.entry))

theorem namingTurn_completeTurn (retains : asked.program.Retains session.program)
    (isName : asked.program.IsClassName target.entry target.type)
    (awaits : session.AwaitsMembers target.type prepared.inner) :
    NamingTurn asked target (session.completeTurn request target prepared) := by
  have names := awaits.completed (isName.retained retains)
  rw [isName.symbolName_eq retains] at names
  unfold completeTurn membersTurn
  split
  · exact .building names
  · exact namingTurn_finishTurn names prepared

end Session

namespace NamingTurn

variable {request : Request} {asked called ended : Session} {target : ClassTarget}
variable {callback : Callback} {stage : Stage}

/-- The first callback, which is to select a template, decides whether the class is opened. -/
theorem of_first {call : Call} {recorded : Option DeclContext}
    (isName : asked.program.IsClassName target.entry target.type)
    (retains : asked.program.Retains call.ended.program)
    (classIs : call.ended.program.ClassIs target.type .incompleteIndependent recorded) :
    NamingTurn asked target ((Stage.solving target).nextTurn request call.reply call.ended) := by
  cases selects : call.selection? with
  | none =>
      obtain ⟨cause, answers⟩ := call.nextTurn_of_unselected request target selects
      rw [answers]
      exact .failed cause _
  | some selection =>
      rw [Call.nextTurn_of_selection? request target selects]
      cases opens : call.ended.openSelected target selection with
      | mk outcome opened =>
          cases outcome with
          | error cause => exact .failed cause _
          | ok _ =>
              have awaits := Session.awaitsMembers_openSelected
                (isName.retained retains).index_lt classIs opens
              have works := Session.works_openSelected call.ended target selection
              rw [opens] at works
              have retainsOpened := retains.trans works.retains
              unfold Session.basesTurn
              dsimp only
              split
              · exact .basing retainsOpened awaits
              · exact Session.namingTurn_completeTurn retainsOpened isName awaits

/-- A callback that declares the members in time leads to a turn of the same kind. -/
theorem next {recorded : Option DeclContext}
    (isName : asked.program.IsClassName target.entry target.type)
    (classIs : asked.program.ClassIs target.type .incompleteIndependent recorded)
    (naming : NamingTurn asked target (.call callback called stage)) (reply : Reply)
    (declares : called.DeclaresOnlyMembers target.type ended) :
    NamingTurn asked target (stage.nextTurn request reply ended) := by
  cases naming with
  | solving same =>
      have retains := declares.retains
      have classIsLater := declares.classIs _ _ (same ▸ classIs)
      rw [same] at retains
      let call : Call := ⟨callback, called, reply, ended⟩
      have atFirst : NamingTurn asked target
          ((Stage.solving target).nextTurn request call.reply call.ended) :=
        of_first isName retains classIsLater
      exact atFirst
  | basing retains awaits =>
      cases reply with
      | error cause => exact .failed cause _
      | ok solution =>
          exact Session.namingTurn_completeTurn (retains.trans declares.retains) isName
            (awaits.later declares)
  | building names =>
      cases reply with
      | error cause => exact .failed cause _
      | ok solution => exact Session.namingTurn_finishTurn (names.later declares) _
  | finishing names =>
      cases reply with
      | error cause => exact .failed cause _
      | ok solution =>
          have recorded := (names.later declares).later
            (Session.declaresMembers_record ended target.entry request.location)
          exact .answered (recorded.later (.of_same rfl rfl))

theorem of_dialogue {calls : List Call} {turn : Turn} (isClass : request.kind = .classTemplate)
    (resolves : asked.classTarget request = .ok target)
    (isName : asked.program.IsClassName target.entry target.type)
    (dialogue : Dialogue request asked calls turn) (inTime : AllDeclareInTime target.type calls) :
    NamingTurn asked target turn := by
  obtain ⟨-, recorded, classIs⟩ := Session.classIs_of_classTarget resolves
  induction dialogue with
  | first =>
      simp only [Session.firstTurn, isClass, resolves, Session.enterClass]
      cases enters : asked.enter target.entry request.location with
      | error cause => exact .failed cause _
      | ok entered =>
          obtain ⟨-, rfl⟩ := Session.enter_eq_ok enters
          exact .solving rfl
  | next earlier reply ended ih =>
      obtain ⟨inTimeEarlier, declares⟩ := inTime.snoc_inv
      exact (ih inTimeEarlier).next isName classIs reply declares

end NamingTurn

/-- The name of a class leads back to the class.  Let the request for a class be answered without an
error, in a run in which the members of the class are declared in time.  Then the class is complete
and has a context for its members on record.  From there, and from wherever a typedef of the class
is found, the name of the class may be repeated in a qualified name.  This stays so when further
members are declared, even if they have the name of the class. -/
theorem Activity.injected_name_leads_back {σ α : Type} (analyzer : Analyzer σ)
    (action : Action σ α) (before : Compilation σ) {moment : Moment}
    (member : moment ∈ history analyzer action before) {pending : Pending}
    (isAnswer : moment.event = .answered pending (.ok ()))
    (isClass : pending.request.kind = .classTemplate) {target : ClassTarget}
    (resolves : pending.asked.classTarget pending.request = .ok target)
    (kind : (pending.asked.program.entry target.entry).kind = .className)
    (inTime : DeclaresInTime target.type before.session (history analyzer action before)) :
    ∃ inner, moment.session.program.ClassIs target.type .completeIndependent (some inner) ∧
      ∀ later, moment.session.DeclaresOnlyMembers target.type later →
        later.program.LeadsBack target.type (pending.asked.program.symbolName target.entry)
          inner := by
  have path := history_isPath analyzer.updates_anyChange action.updates_anyChange before
  obtain ⟨earlier, rest, isHistory⟩ := List.append_of_mem member
  rw [isHistory] at path inTime
  obtain ⟨_, session, pathBefore, step⟩ := path.exists_step_of_append
  rw [isAnswer] at step
  cases step with
  | answered isIdle dialogue =>
      have stays := pathBefore.staysInTime inTime.of_append
      have all := (stays.top ⟨isClass, target, resolves, rfl⟩).ended
      obtain ⟨isClassOf, -⟩ :=
        Session.eligibleClass?_eq_some (Session.eligibleClass?_of_classTarget resolves)
      cases NamingTurn.of_dialogue isClass resolves ⟨kind, isClassOf⟩ dialogue all with
      | @answered _ inner names =>
          exact ⟨inner, names.classIs, fun later declares => (names.later declares).leadsBack⟩

namespace Sample

/-- The analyzer declares two members, one of which has the name of the class. -/
def namesake : Analyzer Unit :=
  { Analyzer.idle Unit with
    buildMembers := fun _ _ context =>
      .update (fun compilation => compilation.withProgram
          (compilation.session.program.declareVariable context "A" int none).2)
        (.update (fun compilation => compilation.withProgram
            (compilation.session.program.declareVariable context "K" int none).2)
          (.done (.ok ()))) }

theorem namesake_updates : namesake.Updates Program.Enlarges where
  solveClassTemplate _ _ _ _ _ := trivial
  buildBaseClause _ _ _ := trivial
  buildMembers _ _ context :=
    ⟨fun _ => .ofVariable context "A" int none, fun _ => .ofVariable context "K" int none, trivial⟩
  buildFunction _ _ := trivial
  finishClass _ _ _ := trivial

def requestingNamesake : Action Unit Unit :=
  .instantiate (requestFor .classTemplate classOfInt.1) .done

def namesakes : List Moment :=
  Activity.history namesake requestingNamesake withNames

def namesakeTarget : ClassTarget where
  entry := classOfInt.1
  type := ⟨6⟩
  template := ⟨2⟩

def isCompleteClass (program : Program) (type : TypeId) : Bool :=
  match program.type type with
  | .classType data => data.completeness = .completeIndependent
  | _ => false

theorem classIs_of_isCompleteClass {program : Program} {type : TypeId}
    (complete : isCompleteClass program type = true) :
    ∃ inner, program.ClassIs type .completeIndependent inner := by
  unfold isCompleteClass at complete
  split at complete
  · next data isClass => exact ⟨_, data, isClass, of_decide_eq_true complete, rfl⟩
  · cases complete

/-- The class is complete before every change, the tree is as before, and nobody makes a request
within another one. -/
def isTimely (before : Session) (moment : Moment) : Bool :=
  match moment.event with
  | .updated =>
      isCompleteClass before.program namesakeTarget.type &&
        moment.session.tree.nodes = before.tree.nodes
  | .asked _ => moment.stack.tail.isEmpty
  | _ => true

/-- Whether something is so of each moment and the session before it. -/
def checkSteps (check : Session → Moment → Bool) : Session → List Moment → Bool
  | _, [] => true
  | before, moment :: rest => check before moment && checkSteps check moment.session rest

theorem checkSteps_split {check : Session → Moment → Bool} {start : Session}
    {earlier later : List Moment} {moment : Moment}
    (checked : checkSteps check start (earlier ++ moment :: later) = true) :
    check (lastSession start earlier) moment = true := by
  induction earlier generalizing start with
  | nil => exact (Bool.and_eq_true_iff.mp checked).1
  | cons first earlier ih =>
      have later := ih (Bool.and_eq_true_iff.mp checked).2
      cases earlier <;> exact later

set_option maxRecDepth 100000 in
theorem namesakes_timely : checkSteps isTimely withNames.session namesakes = true := by
  cbv

theorem namesakes_inTime : DeclaresInTime namesakeTarget.type withNames.session namesakes := by
  constructor
  · intro earlier moment later isMoments isUpdate _
    have timely := namesakes_timely
    rw [isMoments] at timely
    have atMoment := checkSteps_split timely
    simp only [isTimely, isUpdate, Bool.and_eq_true, decide_eq_true_eq] at atMoment
    obtain ⟨complete, sameNodes⟩ := atMoment
    have requests : requestingNamesake.Updates Program.Enlarges := fun _ => trivial
    have path : Path Program.Enlarges withNames.session namesakes [] _ :=
      Activity.history_isPath namesake_updates requests withNames
    rw [isMoments] at path
    obtain ⟨_, before, pathBefore, step⟩ := path.exists_step_of_append
    rw [← pathBefore.eq_lastSession] at complete sameNodes ⊢
    obtain ⟨inner, classIs⟩ := classIs_of_isCompleteClass complete
    rw [isUpdate] at step
    generalize moment.session = after at step sameNodes ⊢
    cases step with
    | updated enlarges =>
        exact .of_enlarges classIs enlarges (SyntaxTree.extends_of_nodes sameNodes)
  · intro moment member request asks _ frame inTail
    obtain ⟨earlier, later, isMoments⟩ := List.append_of_mem member
    have timely := namesakes_timely
    rw [isMoments] at timely
    have atMoment := checkSteps_split timely
    simp only [isTimely, asks, List.isEmpty_iff] at atMoment
    rw [atMoment] at inTail
    cases inTail

/-- The nodes of `C::A::A::K`. -/
def pathBack : SyntaxTree :=
  let tree := ((SyntaxTree.empty.addIdentifier "C").2.addIdentifier "A").2
  let tree := ((tree.addIdentifier "A").2.addIdentifier "K").2
  (tree.addInterior .qualifiedId [⟨0⟩, ⟨1⟩, ⟨2⟩, ⟨3⟩]).2

theorem pathBack_spells : pathBack.SpellsPath ⟨4⟩ ["C", "A", "A", "K"] where
  kind := rfl
  components := .cons ⟨rfl, rfl⟩ (.cons ⟨rfl, rfl⟩ (.cons ⟨rfl, rfl⟩ (.cons ⟨rfl, rfl⟩ .nil)))

/-- The request, its outcome, the name of the class, the context for its members and those called
`A` and `K`, and what `C` is. -/
def observeNamesake (moment : Moment) (answer : Pending × Except InstantiationError Unit) :=
  ((answer.1.request.kind, answer.1.asked.classTarget answer.1.request, answer.2,
    (answer.1.asked.program.entry namesakeTarget.entry).kind,
    answer.1.asked.program.symbolName namesakeTarget.entry,
    (moment.session.program.innerContext? namesakeTarget.type).map (·.currentScope)),
    moment.session.program.scopes.lookupLocal ⟨4⟩ "A",
    moment.session.program.scopes.lookupLocal ⟨4⟩ "K",
    moment.session.program.scopes.lookup ScopeTree.global "C",
    (moment.session.program.entry renamedTwice.1).kind,
    moment.session.program.classOf? renamedTwice.1)

set_option maxRecDepth 100000 in
/-- The class `A` has a member called `A`, which comes second.  So `C::A::A::K`, in which `C` is a
typedef of the class, is its member `K`. -/
theorem namesake_leads_back :
    ∃ moment ∈ namesakes, ∃ pending inner, moment.event = .answered pending (.ok ()) ∧
      moment.session.program.LeadsBack namesakeTarget.type "A" inner ∧
      moment.session.program.scopes.lookupLocal inner.currentScope "A" = [⟨12⟩, ⟨13⟩] ∧
      moment.session.program.queryIdExpression pathBack ScopeTree.globalContext ⟨4⟩ =
        .ok [⟨14⟩] := by
  have answers : namesakes.filterMap (fun moment =>
      (answered? moment).map (observeNamesake moment)) =
      [((.classTemplate, .ok namesakeTarget, .ok (), .className, "A", some ⟨4⟩),
        [⟨12⟩, ⟨13⟩], [⟨14⟩], [renamedTwice.1], .typedefName, some namesakeTarget.type)] := by
    cbv
  obtain ⟨moment, member, pending, outcome, isAnswer, isSo⟩ := exists_answered answers
  simp only [observeNamesake, Prod.mk.injEq] at isSo
  obtain ⟨⟨isClass, resolves, rfl, kind, name, members⟩, foundA, foundK, foundC, kindC, ofC⟩ := isSo
  obtain ⟨inner, classIs, leads⟩ := Activity.injected_name_leads_back namesake requestingNamesake
    withNames member isAnswer isClass resolves kind namesakes_inTime
  obtain ⟨data, isData, -, recorded⟩ := classIs
  have atScope : inner.currentScope = ⟨4⟩ := by
    rw [Program.innerContext?_eq isData, recorded] at members
    simpa using members
  have leadsBack := leads moment.session (.refl _)
  rw [name] at leadsBack
  have found := leadsBack.throughTypedef pathBack ScopeTree.globalContext ⟨4⟩ "C" _ _ 2 "K" foundC
    kindC ofC pathBack_spells
  rw [atScope] at found
  refine ⟨moment, member, pending, inner, isAnswer, leadsBack, ?_, ?_⟩
  · rw [atScope, foundA]
  · rw [found, foundK]

end Sample

end CppTemplates
