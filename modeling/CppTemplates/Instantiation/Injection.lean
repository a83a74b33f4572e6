import CppTemplates.Instantiation.Activity

/-!
# Injecting template arguments

An instantiation declares each template argument in its template scope under the name of the
parameter that it binds: a type argument as a typedef, a template argument as a template name, and
a non-type argument as a variable whose initializer is the literal of its folded value. The bodies
of templates then find the arguments by ordinary lookup.
-/

namespace CppTemplates

namespace Program

/-- The parameter with a nesting and position. -/
def parameterAt? (program : Program) (parameters : List TemplateParameter)
    (nesting position : Nat) : Option TemplateParameter :=
  parameters.find? fun parameter =>
    (program.entry parameter.entry).nesting == nesting &&
      (program.entry parameter.entry).position == position

def parameterName (program : Program) (parameters : List TemplateParameter)
    (nesting position : Nat) : Except InstantiationError String :=
  match program.parameterAt? parameters nesting position with
  | some parameter => .ok (program.symbolName parameter.entry)
  | none => .error (.parameterNotFound nesting position)

/-- The template type that a template argument names. -/
def namedTemplate? (program : Program) (type : TypeId) : Option TypeId := do
  let symbol ← program.namedSymbol? type
  match (program.entry symbol).kind with
  | .templateName => (program.entry symbol).type
  | _ => none

/-- Declares an injected argument in the template scope of a context. -/
def declareArgument (program : Program) (context : DeclContext) (name : String)
    (kind : SymbolKind) (type : TypeId) (value : Option NodeId) : SymbolId × Program :=
  let (id, program) :=
    program.newSymbol context (context.templateScope.getD context.currentScope) name kind
  (id, program.modifyEntry id fun entry =>
    { entry with type := some type, value, defined := value.isSome, isTemplateArgument := true })

end Program

namespace Session

/-- Declares an argument under the name of the parameter that it binds. Everything that can fail
is decided before the first declaration. -/
def injectArgument (session : Session) (context : DeclContext) (name : String)
    (kind : ParameterKind) (argument : TemplateArgument) :
    Except InstantiationError (SymbolId × Session) :=
  if argument.kind = kind then
    match argument with
    | .type type =>
        let (typedef, program) := session.program.newTypedef type
        let (id, program) := program.declareArgument context name .typedefName typedef none
        .ok (id, { session with program })
    | .template type =>
        match session.program.namedTemplate? type with
        | some template =>
            let (id, program) :=
              session.program.declareArgument context name .templateName template none
            .ok (id, { session with program })
        | none => .error (.notATemplate name)
    | .nonType type expression expressionContext =>
        match evaluate session.tree session.program expressionContext expression with
        | .ok value =>
            let (literal, tree) := session.tree.addLiteral value
            let (id, program) :=
              session.program.declareArgument context name .variableName type (some literal)
            .ok (id, { session with program, tree })
        | .error cause => .error (.constant cause)
  else
    .error (.kindMismatch kind argument.kind)

/-- The ways to inject an argument: a type gets a typedef of its own, a template another name, and a
constant a literal of its value. -/
inductive InjectsArgument (session : Session) (context : DeclContext) (name : String) :
    TemplateArgument → SymbolId × Session → Prop
  | type (type : TypeId) {declared : SymbolId × Program}
      (declares : (session.program.newTypedef type).2.declareArgument context name .typedefName
        (session.program.newTypedef type).1 none = declared) :
      InjectsArgument session context name (.type type)
        (declared.1, { session with program := declared.2 })
  | template {type template : TypeId} (named : session.program.namedTemplate? type = some template)
      {declared : SymbolId × Program}
      (declares : session.program.declareArgument context name .templateName template none =
        declared) :
      InjectsArgument session context name (.template type)
        (declared.1, { session with program := declared.2 })
  | nonType (type : TypeId) {expression : NodeId} {expressionContext : DeclContext} {value : Value}
      (folded : evaluate session.tree session.program expressionContext expression = .ok value)
      {declared : SymbolId × Program}
      (declares : session.program.declareArgument context name .variableName type
        (some (session.tree.addLiteral value).1) = declared) :
      InjectsArgument session context name (.nonType type expression expressionContext)
        (declared.1, { session with
          program := declared.2, tree := (session.tree.addLiteral value).2 })

/-- Arguments are injected in no other way, and only if they are of the kind that is asked for. -/
theorem injectsArgument_of_injectArgument {session : Session} {context : DeclContext}
    {name : String} {kind : ParameterKind} {argument : TemplateArgument}
    {result : SymbolId × Session}
    (injects : session.injectArgument context name kind argument = .ok result) :
    argument.kind = kind ∧ session.InjectsArgument context name argument result := by
  unfold injectArgument at injects
  split at injects
  case isFalse => cases injects
  case isTrue sameKind =>
    refine ⟨sameKind, ?_⟩
    cases argument with
    | type type =>
        cases injects
        exact .type type rfl
    | template type =>
        dsimp only at injects
        split at injects
        case h_1 template named =>
          cases injects
          exact .template named rfl
        case h_2 => cases injects
    | nonType type expression expressionContext =>
        dsimp only at injects
        split at injects
        case h_1 value folded =>
          cases injects
          exact .nonType type folded rfl
        case h_2 => cases injects

def injectionLog (session : Session) (name : String) (kind : ParameterKind)
    (argument : TemplateArgument) : List LogLine :=
  if argument.kind = kind then
    match argument with
    | .type _ => [⟨.debug, "Injecting typedef '" ++ name ++ "'"⟩]
    | .template type =>
        match session.program.namedTemplate? type with
        | some _ => [⟨.debug, "Injecting template name '" ++ name ++ "'"⟩]
        | none => []
    | .nonType _ expression context =>
        evaluationLog session.tree session.program context expression ++
          match evaluate session.tree session.program context expression with
          | .ok value =>
              [⟨.debug, "Injecting parameter '" ++ name ++ "' with expression '" ++
                value.literalText ++ "'"⟩]
          | .error _ => []
  else
    []

def functionSpecialization? (session : Session) (entry : SymbolId) : Option Specialization := do
  let data ← session.program.functionData? (← (session.program.entry entry).type)
  data.specialization

end Session

namespace Activity

variable {σ : Type}

def injectArgument (context : DeclContext) (name : String) (kind : ParameterKind)
    (argument : TemplateArgument) : Activity σ SymbolId := do
  logAll (·.injectionLog name kind argument)
  let (id, session) ← ofExcept ((← session).injectArgument context name kind argument)
  modifySession fun _ => session
  return id

/-- Declares arguments one by one under the names of their parameters. -/
def injectArguments (context : DeclContext) :
    List (TemplateParameter × TemplateArgument) → Activity σ Unit
  | [] => return ()
  | (parameter, argument) :: rest => do
      let name := (← program).symbolName parameter.entry
      let _ ← injectArgument context name parameter.kind argument
      injectArguments context rest

/-- Opens the context that a function template instance is instantiated in and declares its
arguments there. Function templates cannot be partially specialized, so the arguments bind the
parameters one by one. Without a parameter list, that of the instance counts. -/
def instantiationContext (entry : SymbolId) (parameters : Option (List TemplateParameter)) :
    Activity σ DeclContext := do
  match (← session).functionSpecialization? entry with
  | none => throw (.notEligibleFunction ((← program).symbolName entry))
  | some specialization =>
      let parameters := parameters.getD specialization.parameters
      let arguments := specialization.arguments
      if arguments.length = parameters.length then
        debug fun _ => "Injecting " ++ parameters.length.repr ++ " template arguments"
        let outer := ((← program).entry entry).declContext
        let context ← onProgram fun program =>
          let (context, scopes) := program.scopes.newTemplateContext outer
          (context, { program with scopes })
        injectArguments context (parameters.zip arguments)
        return context
      else
        throw (.arityMismatch arguments.length parameters.length)

end Activity

end CppTemplates
