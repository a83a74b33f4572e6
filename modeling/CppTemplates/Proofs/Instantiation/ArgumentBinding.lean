import CppTemplates.Proofs.Instantiation.ReservedRun

/-!
# Arguments bind to the right parameters

The deductions of a class instance name parameters by nesting and position, and each argument is
folded after the earlier ones were injected.  Nevertheless every parameter name ends up with the
argument at its own position, and with the value that the argument had before the call.
-/

namespace CppTemplates

theorem Program.ParametersDeclared.length_eq {program : Program} {nesting position : Nat}
    {parameters : List TemplateParameter} {declarations : List ParameterDeclaration}
    (declared : program.ParametersDeclared nesting position parameters declarations) :
    parameters.length = declarations.length := by
  induction declared with
  | nil => rfl
  | cons _ _ _ _ _ _ ih => simp [ih]

theorem map_name_bindingsFor {declarations : List ParameterDeclaration}
    {arguments : List TemplateArgument} (sameLength : declarations.length = arguments.length) :
    (bindingsFor declarations arguments).map (·.name) = declarations.map (·.name) := by
  induction declarations generalizing arguments with
  | nil => rfl
  | cons declaration declarations ih =>
      cases arguments with
      | nil => simp at sameLength
      | cons argument arguments =>
          have rest := @ih arguments (by simpa using sameLength)
          simpa [bindingsFor] using rest

theorem getElem?_bindingsFor {declarations : List ParameterDeclaration}
    {arguments : List TemplateArgument} {index : Nat} {declaration : ParameterDeclaration}
    {argument : TemplateArgument} (declaredAt : declarations[index]? = some declaration)
    (givenAt : arguments[index]? = some argument) :
    (bindingsFor declarations arguments)[index]? =
      some ⟨declaration.name, declaration.kind, argument⟩ := by
  simp [bindingsFor, List.getElem?_zipWith, declaredAt, givenAt]

/-- What a parameter name stands for: a typedef of the type argument, which is the type that the
argument is behind its typedefs if the chain of these ends; the template that the argument names;
or a defined variable of the argument's type, initialized by the literal of the argument's value. -/
def Session.BindsParameter (before after : Session) (symbol : SymbolId)
    (argument : TemplateArgument) : Prop :=
  (after.program.entry symbol).isTemplateArgument = true ∧
    match argument with
    | .type type =>
        (after.program.entry symbol).kind = .typedefName ∧
          ∃ typedef, (after.program.entry symbol).type = some typedef ∧
            after.program.aliased? typedef = some type ∧
            ∀ target, before.program.StripsTo type target →
              after.program.stripTypedefs typedef = before.program.stripTypedefs type
    | .template type =>
        (after.program.entry symbol).kind = .templateName ∧
          ∃ template, before.program.namedTemplate? type = some template ∧
            (after.program.entry symbol).type = some template
    | .nonType type expression context =>
        (after.program.entry symbol).kind = .variableName ∧
          (after.program.entry symbol).defined = true ∧
          (after.program.entry symbol).type = some type ∧
          ∃ value literal,
            evaluate before.tree before.program context expression = .ok value ∧
              (after.program.entry symbol).value = some literal ∧
              after.tree.node literal = value.literalLeaf

/-- An argument that could be injected at first is bound as it was then. -/
theorem Session.IsBound.bindsParameter {before after : Session} {symbol : SymbolId}
    {binding : Binding} (bound : IsBound before after symbol binding.argument)
    (grows : before.Grows after) (injectable : before.IsInjectable binding) :
    before.BindsParameter after symbol binding.argument := by
  obtain ⟨name, kind, argument⟩ := binding
  obtain ⟨_, isArgument, describes⟩ := bound
  refine ⟨isArgument, ?_⟩
  cases argument with
  | type type =>
      obtain ⟨ofKind, typedef, typed, isTypedef⟩ := describes
      have aliases : after.program.aliased? typedef = some type := by
        simp [Program.aliased?, isTypedef]
      refine ⟨ofKind, typedef, typed, aliases, fun target strips => ?_⟩
      rw [Program.stripTypedefs_eq_of_stripsTo strips]
      exact Program.stripTypedefs_eq_of_stripsTo (.step aliases (grows.program.stripsTo strips))
  | template type =>
      obtain ⟨ofKind, moment, grown, template, named, typed⟩ := describes
      obtain ⟨original, namedBefore⟩ := injectable.2
      have := grown.program.namedTemplate?_eq_some namedBefore
      rw [named] at this
      cases this
      exact ⟨ofKind, template, namedBefore, typed⟩
  | nonType type expression context =>
      obtain ⟨ofKind, isDefined, typed, moment, grown, value, literal, folded, initialized, _,
        spelt⟩ := describes
      obtain ⟨original, foldedBefore⟩ := injectable.2
      have := evaluate_eq_ok_of_preserves grown.tree grown.program foldedBefore
      rw [folded] at this
      cases this
      exact ⟨ofKind, isDefined, typed, value, literal, foldedBefore, initialized, spelt⟩

namespace Activity

variable {σ : Type} {analyzer : Analyzer σ} {name : String}
variable {declarations : List ParameterDeclaration} {arguments : List TemplateArgument}
variable {request : Request} {before : Compilation σ}

theorem opened_of_enter (trees : InstantiationTrees) {classType : TypeId} {entered : Session}
    (enters : before.session.enter request.entry request.location = .ok entered)
    (unfilled : before.session.program.IsUnfilled classType) :
    before.session.program.Opened (entered.openClass trees request.entry classType).program
        classType (entered.program.openInstance request.entry classType).1.1
        (entered.program.openInstance request.entry classType).1.2
        ⟨entered.program.scopes.scopes.size⟩ ⟨entered.program.scopes.scopes.size + 1⟩ ∧
      before.session.Grows (entered.openClass trees request.entry classType) := by
  obtain ⟨sameProgram, sameTree⟩ := program_of_enter enters
  rw [← sameProgram] at unfilled ⊢
  have opens := Program.opened_openInstance request.entry unfilled
  refine ⟨opens, ?_, ?_⟩
  · rw [← sameProgram]
    exact opens.preserves
  · rw [← sameTree]
    exact SyntaxTree.extends_copyTrees _ _

theorem boundInstance_of_injectAll {trees : InstantiationTrees} {templateType classType : TypeId}
    {entered filled : Session}
    (enters : before.session.enter request.entry request.location = .ok entered)
    (isInstance :
      before.session.program.IsInstance name arguments templateType request.entry classType)
    (unfilled : before.session.program.IsUnfilled classType)
    (distinct : (declarations.map (·.name)).Nodup)
    (sameLength : declarations.length = arguments.length)
    (injects : (entered.openClass trees request.entry classType).injectAll
      (entered.program.openInstance request.entry classType).1.1
      (bindingsFor declarations arguments) = .ok filled) :
    ∃ inner scope symbols, Session.BoundInstance before.session
      (filled.finishClass request.entry classType
        (entered.program.openInstance request.entry classType).1.2)
      request.entry name (bindingsFor declarations arguments) inner scope symbols := by
  obtain ⟨opens, grown⟩ := opened_of_enter trees enters unfilled
  obtain ⟨symbols, injected⟩ := Session.injected_of_injectAll opens.inScope grown opens.isNew
    (Nat.lt_trans opens.order opens.inTree)
    (by rw [map_name_bindingsFor sameLength]; exact distinct)
    (by
      intro binding _ inEntries
      rw [opens.noArguments] at inEntries
      cases inEntries) injects
  exact ⟨_, _, symbols, Session.boundInstance_of_injected isInstance opens injected⟩

/-- An instantiation that succeeds has bound the parameters. -/
theorem boundInstance_of_perform (reserved : analyzer.IsReserved)
    (isClass : request.kind = .classTemplate)
    (fresh : Program.FreshInstance name declarations arguments before.session.program
      request.entry)
    (distinct : (declarations.map (·.name)).Nodup) {after : Compilation σ}
    (returns : perform analyzer request before = .ok () after) :
    declarations.length = arguments.length ∧
      ∃ inner scope symbols, Session.BoundInstance before.session after.session request.entry name
        (bindingsFor declarations arguments) inner scope symbols := by
  obtain ⟨templateType, primary, parameters, trees, classType, isTemplate, isInstance, unfilled⟩ :=
    fresh.facts
  obtain ⟨sameLength, entered, enters, filled, injects, sameCode⟩ :=
    fillsInstance_of_perform reserved isClass isTemplate isInstance unfilled returns
  obtain ⟨nesting, listed⟩ := isTemplate.lists
  have declaredLength := listed.length_eq.symm.trans sameLength
  obtain ⟨inner, scope, symbols, bound⟩ :=
    boundInstance_of_injectAll enters isInstance unfilled distinct declaredLength injects
  exact ⟨declaredLength, inner, scope, symbols, bound.of_same sameCode.program sameCode.tree⟩

/-- Arguments of the kinds of the parameters, of which the template arguments name templates and the
non-type arguments have values, can be injected. -/
theorem injectable_bindingsFor {session : Session}
    (kinds : arguments.map (·.kind) = declarations.map (·.kind))
    (templates : ∀ type, .template type ∈ arguments →
      ∃ template, session.program.namedTemplate? type = some template)
    (values : ∀ type expression context, .nonType type expression context ∈ arguments →
      ∃ value, evaluate session.tree session.program context expression = .ok value) :
    ∀ binding ∈ bindingsFor declarations arguments, session.IsInjectable binding := by
  induction declarations generalizing arguments with
  | nil => simp [bindingsFor]
  | cons declaration declarations ih =>
      cases arguments with
      | nil => simp [bindingsFor]
      | cons argument arguments =>
          simp only [List.map_cons, List.cons.injEq] at kinds
          intro binding member
          rcases List.mem_cons.mp member with rfl | inRest
          · refine ⟨kinds.1, ?_⟩
            cases argument with
            | type type => exact trivial
            | template type => exact templates type List.mem_cons_self
            | nonType type expression context =>
                exact values type expression context List.mem_cons_self
          · exact ih kinds.2
              (fun type given => templates type (List.mem_cons_of_mem _ given))
              (fun type expression context given =>
                values type expression context (List.mem_cons_of_mem _ given)) binding inRest

/-- Instantiating a fresh instance succeeds if its arguments can be injected. -/
theorem exists_perform_ok (passive : analyzer.IsPassive) (isClass : request.kind = .classTemplate)
    (fresh : Program.FreshInstance name declarations arguments before.session.program
      request.entry)
    (declaredLength : declarations.length = arguments.length)
    (injectable : ∀ binding ∈ bindingsFor declarations arguments,
      before.session.IsInjectable binding)
    (room : before.session.depth < before.session.limits.maxDepth) :
    ∃ after, perform analyzer request before = .ok () after := by
  obtain ⟨templateType, primary, parameters, trees, classType, isTemplate, isInstance, unfilled⟩ :=
    fresh.facts
  obtain ⟨nesting, listed⟩ := isTemplate.lists
  obtain ⟨entered, enters⟩ :
      ∃ entered, before.session.enter request.entry request.location = .ok entered :=
    ⟨_, if_neg (Nat.not_le_of_lt room)⟩
  obtain ⟨opens, grown⟩ := opened_of_enter trees enters unfilled
  obtain ⟨filled, injects⟩ := Session.exists_injectAll opens.inScope grown opens.isNew injectable
  have ends := ends_perform passive isClass isTemplate isInstance unfilled
    (listed.length_eq.trans declaredLength) enters
  rw [injects] at ends
  unfold Ends at ends
  split at ends
  · next result after returns => exact ⟨after, returns⟩
  · cases ends

/-- Instantiating a fresh instance of a class template succeeds if the arguments can be injected,
and then the new template scope declares exactly the parameter names, in the order of the
parameters, and each is found from the members and stands for the argument at its position. -/
theorem arguments_bind_to_parameters (passive : analyzer.IsPassive)
    (isClass : request.kind = .classTemplate)
    (fresh : Program.FreshInstance name declarations arguments before.session.program
      request.entry)
    (distinct : (declarations.map (·.name)).Nodup)
    (notClassName : ∀ declaration ∈ declarations, declaration.name ≠ name)
    (kinds : arguments.map (·.kind) = declarations.map (·.kind))
    (templates : ∀ type, .template type ∈ arguments →
      ∃ template, before.session.program.namedTemplate? type = some template)
    (values : ∀ type expression context, .nonType type expression context ∈ arguments →
      ∃ value, evaluate before.session.tree before.session.program context expression = .ok value)
    (room : before.session.depth < before.session.limits.maxDepth) :
    ∃ after inner scope, perform analyzer request before = .ok () after ∧
      after.session.program.recordedContext? request.entry = some inner ∧
      inner.templateScope = some scope ∧
      before.session.program.scopes.scopes.size ≤ scope.index ∧
      (after.session.program.scopes.scope scope).entries.map (·.1) = declarations.map (·.name) ∧
      ∀ (index : Nat) (declaration : ParameterDeclaration) (argument : TemplateArgument),
        declarations[index]? = some declaration → arguments[index]? = some argument →
        ∃ symbol, after.session.program.candidates inner none declaration.name = [symbol] ∧
          before.session.BindsParameter after.session symbol argument := by
  have declaredLength : declarations.length = arguments.length := by
    simpa using (congrArg List.length kinds).symm
  have injectable := injectable_bindingsFor kinds templates values
  obtain ⟨after, returns⟩ := exists_perform_ok passive isClass fresh declaredLength injectable room
  obtain ⟨_, inner, scope, symbols, bound⟩ :=
    boundInstance_of_perform passive.isReserved isClass fresh distinct returns
  refine ⟨after, inner, scope, returns, bound.recorded, bound.innerScope, bound.isNew, ?_, ?_⟩
  · rw [bound.entries, Session.map_entriesFor bound.bound, map_name_bindingsFor declaredLength]
  · intro index declaration argument declaredAt givenAt
    have isAt := getElem?_bindingsFor declaredAt givenAt
    have notName := notClassName declaration (List.mem_of_getElem? declaredAt)
    obtain ⟨symbol, found, isBound⟩ := bound.exists_isBound
      (by rw [map_name_bindingsFor declaredLength]; exact distinct) isAt notName
    exact ⟨symbol, found,
      isBound.bindsParameter bound.grows (injectable _ (List.mem_of_getElem? isAt))⟩

end Activity

namespace Sample

def int : TypeId := ⟨0⟩

def start : Program := (({} : Program).newType (.builtin .int)).2

/-- The parameters of the class template `A`. -/
def parameters : List ParameterDeclaration := [.type "T", .template "C", .nonType "N" int]

def declared : SymbolId × Program :=
  start.declareClassTemplate ScopeTree.globalContext "A" parameters {}

def named : TypeId × Program := declared.2.newNamedType declared.1

def literal : NodeId × SyntaxTree := SyntaxTree.empty.addIntegerLiteral "42"

/-- `A` is given `int`, itself and the literal `42`. -/
def arguments : List TemplateArgument :=
  [.type int, .template named.1, .nonType int literal.1 ScopeTree.globalContext]

def requested : SymbolId × Program :=
  (named.2.classInstance? declared.1 arguments).getD default

def compilation : Compilation Unit where
  session := { program := requested.2, tree := literal.2 }
  analyzerState := ()

def request : Request where
  kind := .classTemplate
  entry := requested.1
  context := ScopeTree.globalContext
  location := .builtin

theorem fresh : Program.FreshInstance "A" parameters arguments compilation.session.program
    request.entry := by
  have later : declared.2.Retains named.2 :=
    Program.Retains.of_keepsEntities ((Program.KeepsEntities.refl declared.2).newType _)
  have creates : named.2.classInstance? declared.1 arguments = some (requested.1, requested.2) := by
    rfl
  have declares : start.declareClassTemplate ScopeTree.globalContext "A" parameters {} =
      (declared.1, declared.2) := by
    rfl
  exact .of_created declares later rfl rfl creates (by decide)

theorem templates_named : ∀ type, .template type ∈ arguments →
    ∃ template, compilation.session.program.namedTemplate? type = some template := by
  intro type given
  have same : type = named.1 := by simpa [arguments] using given
  subst same
  exact ⟨_, rfl⟩

theorem evaluate_literal : evaluate compilation.session.tree compilation.session.program
    ScopeTree.globalContext literal.1 = .ok (.signedInt 42) := by
  rw [evaluate, eval_eq_evalStep]
  rfl

theorem values_known : ∀ type expression context, .nonType type expression context ∈ arguments →
    ∃ value, evaluate compilation.session.tree compilation.session.program context expression =
      .ok value := by
  intro type expression context given
  obtain ⟨_, rfl, rfl⟩ :
      type = int ∧ expression = literal.1 ∧ context = ScopeTree.globalContext := by
    simpa [arguments] using given
  exact ⟨_, evaluate_literal⟩

/-- In the instance, `T` stands for `int`, `C` for `A` and `N` for `42`. -/
theorem arguments_bind :
    ∃ after inner scope,
      Activity.perform (Analyzer.idle Unit) request compilation = .ok () after ∧
      after.session.program.recordedContext? request.entry = some inner ∧
      inner.templateScope = some scope ∧
      compilation.session.program.scopes.scopes.size ≤ scope.index ∧
      (after.session.program.scopes.scope scope).entries.map (·.1) = ["T", "C", "N"] ∧
      ∀ (index : Nat) (declaration : ParameterDeclaration) (argument : TemplateArgument),
        parameters[index]? = some declaration → arguments[index]? = some argument →
        ∃ symbol, after.session.program.candidates inner none declaration.name = [symbol] ∧
          compilation.session.BindsParameter after.session symbol argument := by
  exact Activity.arguments_bind_to_parameters (Analyzer.idle_isPassive Unit) rfl fresh (by decide)
    (by decide) rfl templates_named values_known (by decide)

end Sample

end CppTemplates
