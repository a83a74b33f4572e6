import CppTemplates.Source
import CppTemplates.Tree.Basic
import CppTemplates.Program.Scope

/-!
# Symbols

A symbol is one declared entity: what it is, its type, where it was declared, and for a constant
the expression that gives its value.
-/

namespace CppTemplates

/-- What a symbol stands for. -/
inductive SymbolKind where
  /-- An object or an injected non-type template argument. -/
  | variableName
  | enumerator
  | enumeration
  /-- A typedef or an injected type template argument. -/
  | typedefName
  /-- A class or a specialization of a class template. -/
  | className
  /-- A template or an injected template template argument. -/
  | templateName
  /-- A function or a specialization of a function template. -/
  | function
  | namespaceName
  | typeParameter
  | templateParameter
  | nonTypeParameter
deriving DecidableEq, Repr, Inhabited

namespace SymbolKind

def all : List SymbolKind :=
  [.variableName, .enumerator, .enumeration, .typedefName, .className, .templateName, .function,
    .namespaceName, .typeParameter, .templateParameter, .nonTypeParameter]

def name : SymbolKind → String
  | .variableName => "variable"
  | .enumerator => "enumerator"
  | .enumeration => "enum"
  | .typedefName => "typedef"
  | .className => "class"
  | .templateName => "template"
  | .function => "function"
  | .namespaceName => "namespace"
  | .typeParameter => "template type parameter"
  | .templateParameter => "template template parameter"
  | .nonTypeParameter => "non-type template parameter"

def ofName? (name : String) : Option SymbolKind :=
  all.find? (·.name == name)

end SymbolKind

/-- A declared entity. -/
structure SymbolEntry where
  name : String
  kind : SymbolKind
  type : Option TypeId := none
  declContext : DeclContext
  scope : ScopeId
  /-- The scope that a namespace opens. -/
  relatedScope : Option ScopeId := none
  /-- The initializer of a constant or the folded value of an injected argument. -/
  value : Option NodeId := none
  /-- Whether the definition has been seen or instantiated. -/
  defined : Bool := false
  location : Location := .builtin
  /-- Whether the symbol stands for an injected template argument. -/
  isTemplateArgument : Bool := false
  /-- Whether the symbol is the name of a class inside that class. -/
  isInjectedClassName : Bool := false
  /-- The class that an injected class name refers to. -/
  refersTo : Option SymbolId := none
  hidden : Bool := false
  /-- The nesting of the template parameter list that a parameter belongs to. -/
  nesting : Nat := 0
  position : Nat := 0
deriving DecidableEq, Repr, Inhabited

namespace SymbolEntry

/-- Whether the entity may appear in a constant expression. -/
def isConstantCandidate (entry : SymbolEntry) : Bool :=
  match entry.kind with
  | .variableName | .enumerator => true
  | _ => false

end SymbolEntry

end CppTemplates
