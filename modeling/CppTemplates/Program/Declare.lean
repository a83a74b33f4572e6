import CppTemplates.Program.Typedef

/-!
# Declarations

Declaring an entity creates its symbol, lists it in the scope of the context and, for templates,
creates the types that tie the template's name, its generic definition and its specializations
together. Every operation returns what it declared and the program that holds it.
-/

namespace CppTemplates

/-- A template parameter as written in a declaration. -/
inductive ParameterDeclaration where
  | type (name : String)
  | template (name : String)
  | nonType (name : String) (type : TypeId)
deriving DecidableEq, Repr, Inhabited

namespace ParameterDeclaration

def name : ParameterDeclaration → String
  | .type name | .template name | .nonType name _ => name

def kind : ParameterDeclaration → ParameterKind
  | .type _ => .type
  | .template _ => .template
  | .nonType _ _ => .nonType

/-- The kind of symbol that the parameter declares. -/
def symbolKind : ParameterDeclaration → SymbolKind
  | .type _ => .typeParameter
  | .template _ => .templateParameter
  | .nonType _ _ => .nonTypeParameter

def valueType : ParameterDeclaration → Option TypeId
  | .nonType _ declared => some declared
  | _ => none

end ParameterDeclaration

namespace Program

variable (program : Program)

/-- Declares a variable, with its initializer if it is a constant. -/
def declareVariable (context : DeclContext) (name : String) (type : TypeId)
    (initializer : Option NodeId) : SymbolId × Program :=
  let (id, program) := program.newSymbol context context.currentScope name .variableName
  (id, program.modifyEntry id fun entry =>
    { entry with type := some type, value := initializer, defined := true })

/-- Declares an enumerator with the expression of its value. -/
def declareEnumerator (context : DeclContext) (name : String) (type : TypeId) (value : NodeId) :
    SymbolId × Program :=
  let (id, program) := program.newSymbol context context.currentScope name .enumerator
  (id, program.modifyEntry id fun entry =>
    { entry with type := some type, value := some value, defined := true })

/-- Declares a namespace and opens the context of its members. -/
def declareNamespace (context : DeclContext) (name : String) :
    (SymbolId × DeclContext) × Program :=
  let (id, program) := program.newSymbol context context.currentScope name .namespaceName
  let (inner, scopes) := program.scopes.newNamespaceContext context id
  ((id, inner), { program with scopes }.modifyEntry id fun entry =>
    { entry with relatedScope := some inner.currentScope })

def declareParameter (context : DeclContext) (position : Nat)
    (declaration : ParameterDeclaration) : SymbolId × Program :=
  let (id, program) :=
    program.newSymbol context context.currentScope declaration.name declaration.symbolKind
  (id, program.modifyEntry id fun entry =>
    { entry with
      type := declaration.valueType
      nesting := context.templateNesting
      position })

def declareParametersFrom (context : DeclContext) :
    Nat → List ParameterDeclaration → Program → List TemplateParameter × Program
  | _, [], program => ([], program)
  | position, declaration :: rest, program =>
      let (entry, program) := program.declareParameter context position declaration
      let (parameters, program) := declareParametersFrom context (position + 1) rest program
      (⟨declaration.kind, entry⟩ :: parameters, program)

/-- Opens a template context and declares the parameters of the template in it. -/
def declareTemplateParameters (context : DeclContext)
    (declarations : List ParameterDeclaration) :
    (DeclContext × List TemplateParameter) × Program :=
  let (inner, scopes) := program.scopes.newTemplateContext context
  let inner :=
    { inner with
      templateNesting := context.templateNesting + 1
      flags := { context.flags with template := true } }
  let (parameters, program) := declareParametersFrom inner 0 declarations { program with scopes }
  ((inner, parameters), program)

/-- Declares a template whose generic definition is a symbol of the given kind. The type of the
generic definition is built from the link to the template. Returns the symbol of the name. -/
def declareTemplate (context : DeclContext) (name : String)
    (declarations : List ParameterDeclaration) (kind : SymbolKind)
    (genericType : Specialization → Ty) (defined : Bool) : SymbolId × Program :=
  let ((inner, parameters), program) := program.declareTemplateParameters context declarations
  let (template, program) :=
    program.newSymbol context context.currentScope name .templateName
  let (primary, program) := program.newUnscopedSymbol inner name kind
  let (templateType, program) := program.newType (.templateType { name := template, primary })
  let program := program.modifyEntry template fun entry =>
    { entry with type := some templateType }
  let (primaryType, program) :=
    program.newType (genericType { template := templateType, parameters })
  (template, program.modifyEntry primary fun entry =>
    { entry with type := some primaryType, defined })

/-- Declares a class template. The trees are kept for its instantiations. -/
def declareClassTemplate (context : DeclContext) (name : String)
    (declarations : List ParameterDeclaration) (trees : InstantiationTrees) :
    SymbolId × Program :=
  program.declareTemplate context name declarations .className
    (fun specialization => .classType
      { completeness := .completeDependent, specialization := some specialization, trees })
    true

/-- Declares a function template. It is defined if it comes with a definition. -/
def declareFunctionTemplate (context : DeclContext) (name : String)
    (declarations : List ParameterDeclaration) (definition : Option NodeId) :
    SymbolId × Program :=
  program.declareTemplate context name declarations .function
    (fun specialization => .functionType { specialization := some specialization, definition })
    definition.isSome

/-- The template type of a symbol whose type is a template, without any typedef between. -/
def templateTypeOf? (template : SymbolId) : Option TypeId := do
  let type ← (program.entry template).type
  match program.type type with
  | .templateType _ => some type
  | _ => none

/-- Changes the template that a type is; other types have nothing to change. -/
def modifyTemplate (type : TypeId) (change : TemplateType → TemplateType) : Program :=
  program.modifyType type fun
    | .templateType data => .templateType (change data)
    | other => other

/-- Declares a partial or, without parameters, explicit specialization of a class template. -/
def declareClassSpecialization? (template : SymbolId)
    (declarations : List ParameterDeclaration) (arguments : List TemplateArgument)
    (trees : InstantiationTrees) : Option (SymbolId × Program) := do
  let templateType ← program.templateTypeOf? template
  let outer := (program.entry template).declContext
  let isExplicit := declarations.isEmpty
  let outer :=
    if isExplicit then
      { outer with flags := { outer.flags with explicitSpecialization := true } }
    else
      outer
  let ((inner, parameters), program) := program.declareTemplateParameters outer declarations
  let (id, program) :=
    program.newUnscopedSymbol inner (program.symbolName template) .className
  let (classType, program) := program.newType <| .classType
    { completeness := if isExplicit then .completeIndependent else .completeDependent
      specialization := some { template := templateType, parameters, arguments }
      trees }
  let program := program.modifyEntry id fun entry =>
    { entry with type := some classType, defined := true }
  return (id, program.modifyTemplate templateType fun data =>
    { data with specializations := data.specializations ++ [id] })

end Program

end CppTemplates
