import CppTemplates.Severity
import CppTemplates.Program.Typedef

/-!
# Name lookup

An unqualified name is looked up outwards from the current scope. A qualified name is resolved
from left to right: its first component like an unqualified name, or in the global scope after a
leading `::`, and every further component only in the scope that the one before it opens. A name
that nothing declares has no candidates, which is not an error.
-/

namespace CppTemplates

/-- Why a node cannot be looked up. -/
inductive LookupError where
  /-- Nodes of this kind name nothing. -/
  | notAName (kind : NodeKind)
  /-- An identifier node has no text. -/
  | missingText
  /-- A qualifier names neither a class nor a namespace. -/
  | notAScope (name : String)
deriving DecidableEq, Repr, Inhabited

namespace LookupError

def message : LookupError → String
  | .notAName kind => "cannot look up a " ++ kind.name ++ " node as an id-expression"
  | .missingText => "identifier node has no text"
  | .notAScope name => "'" ++ name ++ "' is not a class or namespace"

def severity : LookupError → Severity
  | .notAName _ | .missingText => .fatal
  | .notAScope _ => .diagnosed

end LookupError

/-- The identifier that a component of a name spells. -/
def SyntaxTree.componentName (tree : SyntaxTree) (id : NodeId) : Except LookupError String :=
  match (tree.node id).kind with
  | .symbol =>
      match (tree.node id).text with
      | some name => .ok name
      | none => .error .missingText
  | kind => .error (.notAName kind)

namespace Program

variable (program : Program)

/-- The scope of the members of a namespace or of a class, typedefs of classes included. -/
def openedScope? (symbol : SymbolId) : Option ScopeId :=
  let entry := program.entry symbol
  match entry.kind with
  | .namespaceName => entry.relatedScope
  | .className | .typedefName => do
      let data ← program.classData? (← entry.type)
      let inner ← data.innerContext
      some inner.currentScope
  | _ => none

/-- The candidates of a name in the scope opened by its qualifier, or outwards from the current
scope without one. -/
def candidates (context : DeclContext) (qualifier : Option ScopeId) (name : String) :
    List SymbolId :=
  match qualifier with
  | some scope => program.scopes.lookupLocal scope name
  | none => program.scopes.lookup context.currentScope name

/-- The candidates of a sequence of components behind a qualifier. -/
def resolvePath (tree : SyntaxTree) (context : DeclContext) :
    Option ScopeId → List NodeId → Except LookupError (List SymbolId)
  | _, [] => .error (.notAName .qualifiedId)
  | qualifier, [last] => do
      let name ← tree.componentName last
      return program.candidates context qualifier name
  | qualifier, component :: rest => do
      let name ← tree.componentName component
      match program.candidates context qualifier name with
      | [] => return []
      | found :: _ =>
          match program.openedScope? found with
          | some scope => resolvePath tree context (some scope) rest
          | none => .error (.notAScope name)

def resolveQualified (tree : SyntaxTree) (context : DeclContext) (components : List NodeId) :
    Except LookupError (List SymbolId) :=
  match components with
  | [] => program.resolvePath tree context none []
  | first :: rest =>
      match (tree.node first).kind with
      | .globalScope => program.resolvePath tree context (some context.globalScope) rest
      | _ => program.resolvePath tree context none components

/-- The candidates of an id-expression as seen from a context. -/
def queryIdExpression (tree : SyntaxTree) (context : DeclContext) (id : NodeId) :
    Except LookupError (List SymbolId) :=
  match (tree.node id).kind with
  | .symbol => do
      let name ← tree.componentName id
      return program.candidates context none name
  | .qualifiedId => program.resolveQualified tree context (tree.node id).children
  | kind => .error (.notAName kind)

end Program

end CppTemplates
