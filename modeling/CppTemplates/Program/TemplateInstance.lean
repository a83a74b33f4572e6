import CppTemplates.Program.Declare

/-!
# Instances of templates

A use such as `A<int>` or `f<3>` names an instance of a template. The first use with given
arguments creates the instance, later uses with matching arguments get the same symbol.
-/

namespace CppTemplates

namespace Program

variable (program : Program)

/-- Whether two arguments bind a parameter alike: the same type or template, or one and the same
expression node. -/
def sameArgument : TemplateArgument → TemplateArgument → Bool
  | .type left, .type right => program.sameType left right
  | .template left, .template right => program.sameType left right
  | .nonType _ left _, .nonType _ right _ => left == right
  | _, _ => false

def sameArguments : List TemplateArgument → List TemplateArgument → Bool
  | [], [] => true
  | left :: lefts, right :: rights =>
      program.sameArgument left right && sameArguments lefts rights
  | _, _ => false

def argumentsOf? (instanceSymbol : SymbolId) : Option (List TemplateArgument) := do
  let specialization ← program.specialization? (← (program.entry instanceSymbol).type)
  return specialization.arguments

/-- The existing instance of a template for the given arguments. -/
def findInstance? (data : TemplateType) (arguments : List TemplateArgument) : Option SymbolId :=
  data.instances.find? fun candidate =>
    match program.argumentsOf? candidate with
    | some existing => program.sameArguments existing arguments
    | none => false

/-- The parameters of a template's generic definition. -/
def primaryParameters? (data : TemplateType) : Option (List TemplateParameter) := do
  let specialization ← program.specialization? (← (program.entry data.primary).type)
  return specialization.parameters

/-- The instance of a template for the given arguments, found or created. There is none if the
symbol's type is not a template. -/
def templateInstance? (template : SymbolId) (arguments : List TemplateArgument)
    (kind : SymbolKind) (instanceType : Specialization → Ty) : Option (SymbolId × Program) := do
  let templateType ← program.templateTypeOf? template
  let data ← program.templateData? templateType
  match program.findInstance? data arguments with
  | some existing => return (existing, program)
  | none =>
      let parameters ← program.primaryParameters? data
      let (id, program) := program.newUnscopedSymbol (program.entry template).declContext
        (program.symbolName template) kind
      let (type, program) :=
        program.newType (instanceType { template := templateType, parameters, arguments })
      let program := program.modifyEntry id fun entry => { entry with type := some type }
      return (id, program.modifyTemplate templateType fun data =>
        { data with instances := data.instances ++ [id] })

/-- The class that a use of a class template names. A new one is incomplete and independent. -/
def classInstance? (template : SymbolId) (arguments : List TemplateArgument) :
    Option (SymbolId × Program) :=
  program.templateInstance? template arguments .className fun specialization =>
    .classType { specialization := some specialization }

/-- The function that a use of a function template names. A new one has no definition. -/
def functionInstance? (template : SymbolId) (arguments : List TemplateArgument) :
    Option (SymbolId × Program) :=
  program.templateInstance? template arguments .function fun specialization =>
    .functionType { specialization := some specialization }

end Program

end CppTemplates
