import CppTemplates.Tree.Basic
import CppTemplates.Program.Scope

/-!
# Types and templates

Types are as detailed as constant folding and instantiation need them. A class or function that
comes from a template carries a specialization: its template, the parameters it was declared with
and the arguments that it was requested with.
-/

namespace CppTemplates

/-- A fundamental type. -/
inductive BuiltinType where
  | bool
  | char
  | int
  | unsignedInt
  | long
  | unsignedLong
  | void
deriving DecidableEq, Repr, Inhabited

namespace BuiltinType

def all : List BuiltinType :=
  [.bool, .char, .int, .unsignedInt, .long, .unsignedLong, .void]

def name : BuiltinType → String
  | .bool => "bool"
  | .char => "char"
  | .int => "int"
  | .unsignedInt => "unsigned int"
  | .long => "long"
  | .unsignedLong => "unsigned long"
  | .void => "void"

def ofName? (name : String) : Option BuiltinType :=
  all.find? (·.name == name)

end BuiltinType

/-- How far a class has been filled in. -/
inductive Completeness where
  /-- Declared, without a body. -/
  | incompleteIndependent
  /-- Declared inside a template, depending on its parameters. -/
  | incompleteDependent
  /-- Defined. -/
  | completeIndependent
  /-- Defined inside a template, depending on its parameters. -/
  | completeDependent
deriving DecidableEq, Repr, Inhabited

namespace Completeness

def all : List Completeness :=
  [.incompleteIndependent, .incompleteDependent, .completeIndependent, .completeDependent]

def name : Completeness → String
  | .incompleteIndependent => "incomplete independent"
  | .incompleteDependent => "incomplete dependent"
  | .completeIndependent => "complete independent"
  | .completeDependent => "complete dependent"

def ofName? (name : String) : Option Completeness :=
  all.find? (·.name == name)

end Completeness

/-- What a template parameter takes. -/
inductive ParameterKind where
  | type
  | template
  | nonType
deriving DecidableEq, Repr, Inhabited

namespace ParameterKind

def all : List ParameterKind :=
  [.type, .template, .nonType]

def name : ParameterKind → String
  | .type => "type"
  | .template => "template"
  | .nonType => "non-type"

def ofName? (name : String) : Option ParameterKind :=
  all.find? (·.name == name)

end ParameterKind

/-- A declared template parameter. Its name, nesting and position stand on its symbol. -/
structure TemplateParameter where
  kind : ParameterKind
  entry : SymbolId
deriving DecidableEq, Repr, Inhabited

inductive TemplateArgument where
  | type (type : TypeId)
  /-- A template, given as a type that names it. -/
  | template (type : TypeId)
  /-- An expression with the type of its parameter and the context to evaluate it in. -/
  | nonType (type : TypeId) (expression : NodeId) (context : DeclContext)
deriving DecidableEq, Repr, Inhabited

namespace TemplateArgument

def kind : TemplateArgument → ParameterKind
  | .type _ => .type
  | .template _ => .template
  | .nonType _ _ _ => .nonType

end TemplateArgument

/-- The arguments deduced for one parameter of a selected template. -/
structure Deduction where
  nesting : Nat
  position : Nat
  kind : ParameterKind
  /-- What the parameter is bound to; an instantiation wants exactly one argument. -/
  deduced : List TemplateArgument
deriving DecidableEq, Repr, Inhabited

/-- The link from a class or function back to its template. -/
structure Specialization where
  template : TypeId
  parameters : List TemplateParameter := []
  arguments : List TemplateArgument := []
deriving DecidableEq, Repr, Inhabited

/-- The trees that a class template keeps for its instantiations. -/
structure InstantiationTrees where
  members : Option NodeId := none
  bases : Option NodeId := none
deriving DecidableEq, Repr, Inhabited

structure ClassType where
  completeness : Completeness := .incompleteIndependent
  specialization : Option Specialization := none
  /-- The trees to copy when a class is instantiated from this one. -/
  trees : InstantiationTrees := {}
  /-- The context of the members, once there is one. -/
  innerContext : Option DeclContext := none
  bases : List TypeId := []
deriving DecidableEq, Repr, Inhabited

structure FunctionType where
  specialization : Option Specialization := none
  /-- The definition of a primary template. -/
  definition : Option NodeId := none
deriving DecidableEq, Repr, Inhabited

structure TemplateType where
  name : SymbolId
  primary : SymbolId
  /-- The partial and explicit specializations. -/
  specializations : List SymbolId := []
  /-- The specializations that uses of the template named, oldest first. -/
  instances : List SymbolId := []
deriving DecidableEq, Repr, Inhabited

inductive Ty where
  | builtin (type : BuiltinType)
  /-- The type that a class, enumeration, typedef or template symbol names. -/
  | named (symbol : SymbolId)
  /-- A fresh typedef of a type. -/
  | typedefOf (type : TypeId)
  | classType (data : ClassType)
  | functionType (data : FunctionType)
  | templateType (data : TemplateType)
deriving DecidableEq, Repr, Inhabited

end CppTemplates
