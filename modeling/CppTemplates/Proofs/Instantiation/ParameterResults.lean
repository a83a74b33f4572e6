import CppTemplates.Proofs.Evaluation.SkippedOperands
import CppTemplates.Proofs.Instantiation.Attempts
import CppTemplates.Proofs.Instantiation.Substitution

/-!
# What the names of parameters evaluate to

From among the members of an instance that is filled in, a parameter name stands for the argument
of the first parameter of that name, unless the class itself has the name.  What it evaluates to
was settled by the argument before the instance was filled in, whatever else was declared in the
meantime.
-/

namespace CppTemplates

namespace Program

variable {program : Program} {context : DeclContext} {tree : SyntaxTree} {id : NodeId}
variable {name : String} {symbol : SymbolId} {rest : List SymbolId}

theorem evaluate_of_not_constant (isSymbol : (tree.node id).kind = .symbol)
    (text : (tree.node id).text = some name)
    (found : program.candidates context none name = symbol :: rest)
    (notConstant : (program.entry symbol).isConstantCandidate = false) :
    evaluate tree program context id =
      .error (.notAnExpression name (program.entry symbol).kind (tree.node id).span) := by
  have query : program.queryIdExpression tree context id = .ok (symbol :: rest) := by
    rw [queryIdExpression_of_symbol isSymbol text, found]
  have spelt : tree.display id = name :=
    display_eq_of_componentName (by simp [SyntaxTree.componentName, isSymbol, text])
  rw [evaluate, eval_eq_evalStep]
  simp [Node.evalStep, isSymbol, namedConstant, query, notConstant, spelt]

end Program

namespace Session

/-- What a name evaluates to that stands for an argument. -/
def argumentResult (session : Session) (looked : String) (span : FileSpan) :
    TemplateArgument → Except EvaluationError Value
  | .type _ => .error (.notAnExpression looked .typedefName span)
  | .template _ => .error (.notAnExpression looked .templateName span)
  | .nonType _ expression context => do
      let value ← evaluate session.tree session.program context expression
      value.literalLeaf.literalValue

variable {base session after filled : Session} {entry : SymbolId} {name : String}
variable {inner context : DeclContext} {scope : ScopeId} {bindings : List Binding}

theorem BindsParameter.evaluate_eq {symbol : SymbolId} {argument : TemplateArgument}
    (binds : base.BindsParameter session symbol argument) {looked : String}
    {rest : List SymbolId} (found : session.program.candidates inner none looked = symbol :: rest)
    {tree : SyntaxTree} (grows : session.tree.Extends tree) {id : NodeId}
    (isSymbol : (tree.node id).kind = .symbol) (text : (tree.node id).text = some looked) :
    evaluate tree session.program inner id =
      base.argumentResult looked (tree.node id).span argument := by
  obtain ⟨-, describes⟩ := binds
  cases argument with
  | type type =>
      obtain ⟨ofKind, -⟩ := describes
      rw [Program.evaluate_of_not_constant isSymbol text found
        (by simp [SymbolEntry.isConstantCandidate, ofKind]), ofKind]
      rfl
  | template type =>
      obtain ⟨ofKind, -⟩ := describes
      rw [Program.evaluate_of_not_constant isSymbol text found
        (by simp [SymbolEntry.isConstantCandidate, ofKind]), ofKind]
      rfl
  | nonType type expression expressionContext =>
      obtain ⟨ofKind, -, -, value, literal, folded, initialized, spelt⟩ := describes
      have speltLater : tree.node literal = value.literalLeaf := by
        rw [grows.node_eq literal (index_lt_of_literalLeaf spelt), spelt]
      rw [Program.evaluate_of_initializer isSymbol text found
        (by simp [SymbolEntry.isConstantCandidate, ofKind]) initialized,
        eval_of_literalLeaf speltLater, argumentResult, folded]
      rfl

/-- What the names of the parameters stand for among the members of an instance that is filled in:
its own name hides a parameter of that name, and of parameters of one name the first one counts. -/
structure Bears (base session : Session) (entry : SymbolId) (name : String)
    (bindings : List Binding) (inner : DeclContext) : Prop where
  recorded : session.program.recordedContext? entry = some inner
  ownName : ∃ symbol rest, session.program.candidates inner none name = symbol :: rest ∧
    symbol.index < session.program.symbols.size ∧
    (session.program.entry symbol).kind = .className
  parameter : ∀ looked binding, looked ≠ name →
    bindings.find? (·.name = looked) = some binding →
    ∃ symbol rest, session.program.candidates inner none looked = symbol :: rest ∧
      IsBound base session symbol binding.argument

namespace Bears

theorem later (bears : base.Bears session entry name bindings inner)
    (grows : session.Grows after) : base.Bears after entry name bindings inner where
  recorded := by
    obtain ⟨type, typed, hasData⟩ := Option.bind_eq_some_iff.mp bears.recorded
    obtain ⟨data, isClass, hasInner⟩ := Option.bind_eq_some_iff.mp hasData
    obtain ⟨last, isClassLater, -, -, keepsInner⟩ :=
      grows.program.toKeepsEntities.classData?_eq_some isClass
    simp only [Program.recordedContext?, grows.program.entryType_eq typed, Option.bind_eq_bind,
      Option.bind_some, isClassLater]
    exact keepsInner inner hasInner
  ownName := by
    obtain ⟨symbol, rest, found, inProgram, ofKind⟩ := bears.ownName
    refine ⟨symbol, rest, ?_, Nat.lt_of_lt_of_le inProgram grows.program.symbols_le, ?_⟩
    · rw [grows.program.candidates_eq (by rw [found]; simp), found]
    · rw [grows.program.kind_eq inProgram, ofKind]
  parameter looked binding notName isFirst := by
    obtain ⟨symbol, rest, found, bound⟩ := bears.parameter looked binding notName isFirst
    refine ⟨symbol, rest, ?_, bound.later grows.program.toKeepsEntities grows.tree⟩
    rw [grows.program.candidates_eq (by rw [found]; simp), found]

variable (bears : base.Bears session entry name bindings inner)
variable {tree : SyntaxTree} (grows : session.tree.Extends tree) {id : NodeId}
variable {looked : String} (isSymbol : (tree.node id).kind = .symbol)
variable (text : (tree.node id).text = some looked)
include bears isSymbol text

theorem evaluate_ownName (isName : looked = name) :
    evaluate tree session.program inner id =
      .error (.notAnExpression name .className (tree.node id).span) := by
  subst isName
  obtain ⟨symbol, rest, found, -, ofKind⟩ := bears.ownName
  rw [Program.evaluate_of_not_constant isSymbol text found
    (by simp [SymbolEntry.isConstantCandidate, ofKind]), ofKind]

include grows in
theorem evaluate_parameter (notName : looked ≠ name) {binding : Binding}
    (isFirst : bindings.find? (·.name = looked) = some binding)
    (grown : base.Grows session) (injectable : base.IsInjectable binding) :
    evaluate tree session.program inner id =
      base.argumentResult looked (tree.node id).span binding.argument := by
  obtain ⟨symbol, rest, found, bound⟩ := bears.parameter looked binding notName isFirst
  exact (bound.bindsParameter grown injectable).evaluate_eq found grows isSymbol text

end Bears

/-- What every injected argument keeps, all of them keep. -/
theorem related_injectAll {related : Session → Session → Prop}
    (refl : ∀ session, related session session) (trans : ∀ first second third,
      related first second → related second third → related first third)
    (injects : ∀ {before after name kind argument symbol},
      injectArgument before context name kind argument = .ok (symbol, after) →
      related before after)
    (injected : session.injectAll context bindings = .ok filled) : related session filled := by
  induction bindings generalizing session with
  | nil =>
      cases injected
      exact refl _
  | cons binding rest ih =>
      unfold injectAll at injected
      cases first : session.injectArgument context binding.name binding.kind binding.argument with
      | error cause =>
          rw [first] at injected
          cases injected
      | ok result =>
          rw [first] at injected
          exact trans _ _ _ (injects first) (ih injected)

section Injected

variable (inScope : context.templateScope = some scope)
include inScope

theorem injects_of_injectAll (injected : session.injectAll context bindings = .ok filled) :
    session.Injects scope filled :=
  related_injectAll Injects.refl (fun _ _ _ => Injects.trans) (injects_injectArgument inScope)
    injected

/-- Arguments are declared behind what a scope declared already. -/
theorem prefix_of_injectAll (inTree : scope.index < session.program.scopes.scopes.size)
    (injected : session.injectAll context bindings = .ok filled) (looked : String) :
    session.program.scopes.lookupLocal scope looked <+:
      filled.program.scopes.lookupLocal scope looked := by
  let Follows (before after : Session) : Prop :=
    scope.index < before.program.scopes.scopes.size →
      scope.index < after.program.scopes.scopes.size ∧
        before.program.scopes.lookupLocal scope looked <+:
          after.program.scopes.lookupLocal scope looked
  have follows : Follows session filled := by
    refine related_injectAll (fun _ inTree => ⟨inTree, List.prefix_rfl⟩) ?_ ?_ injected
    · intro first second third earlier later inTree
      obtain ⟨inTreeSecond, beginsSecond⟩ := earlier inTree
      obtain ⟨inTreeThird, beginsThird⟩ := later inTreeSecond
      exact ⟨inTreeThird, beginsSecond.trans beginsThird⟩
    · intro before after name kind argument symbol injects inTree
      obtain ⟨-, -, scopes, -⟩ := injectArgument_ok inScope injects
      rw [scopes]
      refine ⟨by simpa using inTree, ?_⟩
      rw [ScopeTree.lookupLocal_insert_self inTree]
      split
      · next same => exact same ▸ List.prefix_append _ _
      · exact List.prefix_rfl
  exact (follows inTree).2

/-- Of the bindings of one name, the first one is found first. -/
theorem first_of_injectAll (grown : base.Grows session)
    (isNew : base.program.scopes.scopes.size ≤ scope.index)
    (inTree : scope.index < session.program.scopes.scopes.size) {looked : String}
    {binding : Binding} (isFirst : bindings.find? (·.name = looked) = some binding)
    (undeclared : session.program.scopes.lookupLocal scope looked = [])
    (injected : session.injectAll context bindings = .ok filled) :
    ∃ symbol rest, filled.program.scopes.lookupLocal scope looked = symbol :: rest ∧
      IsBound base filled symbol binding.argument := by
  induction bindings generalizing session with
  | nil => cases isFirst
  | cons head tail ih =>
      unfold injectAll at injected
      cases first : session.injectArgument context head.name head.kind head.argument with
      | error cause =>
          rw [first] at injected
          cases injected
      | ok result =>
          obtain ⟨symbol, next⟩ := result
          rw [first] at injected
          obtain ⟨-, -, scopes, bound⟩ := injectArgument_ok inScope first
          have nextInTree : scope.index < next.program.scopes.scopes.size := by
            rw [scopes]
            simpa using inTree
          -- What is declared first stays first, and nothing of the name was there before.
          by_cases isName : head.name = looked
          · rw [List.find?_cons_of_pos (by simpa using isName)] at isFirst
            cases isFirst
            obtain ⟨more, declared⟩ := prefix_of_injectAll inScope nextInTree injected looked
            have later := injects_of_injectAll inScope injected
            refine ⟨symbol, more, ?_, (bound.earlier grown).later later.keeps later.works.tree⟩
            rw [← declared, scopes, ScopeTree.lookupLocal_insert_self inTree, if_pos isName.symm,
              isName, undeclared]
            rfl
          · rw [List.find?_cons_of_neg (by simpa using isName)] at isFirst
            refine ih (grown.injectArgument inScope isNew first) nextInTree isFirst ?_ injected
            rw [scopes, ScopeTree.lookupLocal_insert_self inTree, if_neg (Ne.symm isName),
              undeclared]

end Injected

/-- The name that a finished instance has among its members is a class name. -/
theorem kind_ownName_finishClass {arguments : List TemplateArgument}
    {templateType classType : TypeId}
    (isInstance : session.program.IsInstance name arguments templateType entry classType)
    (inner : DeclContext) :
    session.program.symbols.size <
        (session.finishClass entry classType inner).program.symbols.size ∧
      ((session.finishClass entry classType inner).program.entry
        ⟨session.program.symbols.size⟩).kind = .className := by
  let completed := session.program.completeInstance entry classType inner
  have copied := Program.entry_completeInstance session.program entry classType inner
  have typed : (completed.entry ⟨session.program.symbols.size⟩).type = some classType := by
    rw [copied]
    exact isInstance.typed
  have inProgram := Program.index_lt_of_entryType typed
  have finishes := (Program.KeepsEntities.refl completed).modifyEntry_defined entry
  refine ⟨Nat.lt_of_lt_of_le inProgram finishes.symbols_le, ?_⟩
  refine (finishes.kind_eq inProgram).trans ?_
  rw [copied]
  exact isInstance.kind

/-- In an instance that was opened, given its arguments and finished, the names of the parameters
stand for the arguments. -/
theorem bears_finishClass {opened injected : Session} {arguments : List TemplateArgument}
    {templateType classType : TypeId} {members : ScopeId}
    (isInstance : injected.program.IsInstance name arguments templateType entry classType)
    (opens : session.program.Opened opened.program classType context inner scope members)
    (grown : base.Grows opened) (isNew : base.program.scopes.scopes.size ≤ scope.index)
    (injects : opened.injectAll context bindings = .ok injected) :
    base.Bears (injected.finishClass entry classType inner) entry name bindings inner := by
  have keeps := injects_of_injectAll opens.inScope injects
  have inTree := (keeps.leaves default).lists.size_le
  obtain ⟨ownInProgram, ownKind⟩ := kind_ownName_finishClass isInstance inner
  refine ⟨?_, ⟨⟨injected.program.symbols.size⟩, [], ?_, ownInProgram, ownKind⟩, ?_⟩
  · exact recordedContext?_finishClass opens inTree keeps.keeps isInstance.typed
  · exact lookup_name_finishClass opens inTree isInstance.symbolName keeps.others
  · intro looked binding notName isFirst
    have undeclared : opened.program.scopes.lookupLocal scope looked = [] := by
      rw [ScopeTree.lookupLocal, opens.noArguments]
      rfl
    obtain ⟨symbol, rest, found, bound⟩ := first_of_injectAll opens.inScope grown isNew
      (Nat.lt_trans opens.order opens.inTree) isFirst undeclared injects
    refine ⟨symbol, rest, ?_, bound.later (keepsEntities_finishClass opens inTree entry) (.refl _)⟩
    rw [← found]
    exact lookup_finishClass opens inTree isInstance.symbolName keeps.others notName
      (by rw [found]; simp)

/-- If an attempt succeeds, the names of the parameters stand for the arguments. -/
theorem Attempt.bears {asked : Session} {request : Request} {trees : InstantiationTrees}
    {templateType classType : TypeId} {declarations : List ParameterDeclaration}
    {arguments : List TemplateArgument}
    (attempt : asked.Attempt request trees classType declarations arguments (.ok ()) after)
    (isInstance : asked.program.IsInstance name arguments templateType request.entry classType)
    (unfilled : asked.program.IsUnfilled classType) (grown : base.Grows asked) :
    ∃ inner, base.Bears after request.entry name (bindingsFor declarations arguments) inner := by
  cases attempt with
  | @filled entered injected enters _ injects succeeds =>
      obtain ⟨sameProgram, sameTree⟩ := Activity.program_of_enter enters
      rw [← sameProgram] at unfilled isInstance
      have grownEntered : base.Grows entered :=
        grown.trans ⟨sameProgram ▸ .refl _, sameTree ▸ .refl _⟩
      let opened := entered.openClass trees request.entry classType
      have opens : entered.program.Opened opened.program classType _ _ _ _ :=
        Program.opened_openInstance request.entry unfilled
      have grownOpened : base.Grows opened :=
        grownEntered.trans ⟨opens.preserves, SyntaxTree.extends_copyTrees _ _⟩
      have bears := bears_finishClass (isInstance_injected unfilled injects isInstance) opens
        grownOpened grownEntered.program.scopes.size_le succeeds
      obtain ⟨sameRecord, sameRecordTree⟩ := program_record (injected.finishClass request.entry
        classType (entered.program.openInstance request.entry classType).1.2) request.entry
          request.location
      exact ⟨_, bears.later ⟨sameRecord ▸ .refl _, sameRecordTree ▸ .refl _⟩⟩

/-- In two sessions an instance is filled in, and from among its members every parameter name
evaluates to the same value, or to the same error. -/
def SameParameters (declarations : List ParameterDeclaration) (entry : SymbolId)
    (left right : Session) : Prop :=
  ∃ leftInner rightInner, left.program.recordedContext? entry = some leftInner ∧
    right.program.recordedContext? entry = some rightInner ∧
    ∀ declaration ∈ declarations, ∀ leftTree rightTree : SyntaxTree,
      left.tree.Extends leftTree → right.tree.Extends rightTree → ∀ leftId rightId : NodeId,
      (leftTree.node leftId).kind = .symbol →
      (leftTree.node leftId).text = some declaration.name →
      rightTree.node rightId = leftTree.node leftId →
      evaluate leftTree left.program leftInner leftId =
        evaluate rightTree right.program rightInner rightId

theorem SameParameters.symm {declarations : List ParameterDeclaration} {left right : Session}
    (same : SameParameters declarations entry left right) :
    SameParameters declarations entry right left := by
  obtain ⟨leftInner, rightInner, leftRecorded, rightRecorded, results⟩ := same
  refine ⟨rightInner, leftInner, rightRecorded, leftRecorded, ?_⟩
  intro declaration declared rightTree leftTree rightGrows leftGrows rightId leftId isSymbol text
    sameNode
  rw [← sameNode] at isSymbol text
  exact (results declaration declared leftTree rightTree leftGrows rightGrows leftId rightId
    isSymbol text sameNode.symm).symm

theorem Bears.sameParameters {left right : Session} {leftInner rightInner : DeclContext}
    {declarations : List ParameterDeclaration}
    (leftBears : base.Bears left entry name bindings leftInner) (leftGrown : base.Grows left)
    (rightBears : base.Bears right entry name bindings rightInner) (rightGrown : base.Grows right)
    (named : bindings.map (·.name) = declarations.map (·.name))
    (injectable : ∀ binding ∈ bindings, base.IsInjectable binding) :
    SameParameters declarations entry left right := by
  refine ⟨leftInner, rightInner, leftBears.recorded, rightBears.recorded, ?_⟩
  intro declaration declared leftTree rightTree leftGrows rightGrows leftId rightId isSymbol text
    sameNode
  have rightIsSymbol : (rightTree.node rightId).kind = .symbol := by rw [sameNode, isSymbol]
  have rightText : (rightTree.node rightId).text = some declaration.name := by rw [sameNode, text]
  by_cases isName : declaration.name = name
  · rw [leftBears.evaluate_ownName isSymbol text isName,
      rightBears.evaluate_ownName rightIsSymbol rightText isName, sameNode]
  · obtain ⟨given, member, sameName⟩ : ∃ binding ∈ bindings, binding.name = declaration.name := by
      have listed : declaration.name ∈ bindings.map (·.name) :=
        named ▸ List.mem_map_of_mem declared
      exact List.mem_map.mp listed
    have isSome : (bindings.find? (·.name = declaration.name)).isSome := by
      rw [List.find?_isSome]
      exact ⟨given, member, by simpa using sameName⟩
    obtain ⟨binding, isFirst⟩ := Option.isSome_iff_exists.mp isSome
    have canInject := injectable binding (List.mem_of_find?_eq_some isFirst)
    rw [leftBears.evaluate_parameter leftGrows isSymbol text isName isFirst leftGrown canInject,
      rightBears.evaluate_parameter rightGrows rightIsSymbol rightText isName isFirst rightGrown
        canInject, sameNode]

end Session

end CppTemplates
