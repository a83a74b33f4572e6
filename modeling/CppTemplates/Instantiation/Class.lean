import CppTemplates.Instantiation.Analyzer
import CppTemplates.Instantiation.Injection
import CppTemplates.Tree.Copy

/-!
# Instantiating class templates

A class template instance is filled in from the template that the analyzer selects. The member list
and the base clause of that template are copied, the deduced arguments are declared in a fresh
template scope, and the analyzer builds the bases and then the members. Between the two, the name
of the class is declared inside the class and the class becomes complete, so that members which
name the class do not request it again.
-/

namespace CppTemplates

namespace Session

variable (session : Session)

/-- The class that a requested symbol is or, being a typedef, names. -/
def resolveClassEntry (entry : SymbolId) : Except InstantiationError SymbolId :=
  match (session.program.entry entry).kind with
  | .className => .ok entry
  | .typedefName =>
      match (session.program.entry entry).type.bind session.program.namedSymbol? with
      | some named => .ok named
      | none => .error (.notEligibleClass (session.program.symbolName entry))
  | kind => .error (.invalidSymbol (session.program.symbolName entry) kind)

/-- The class type and the template of an instance that is not filled in yet. -/
def eligibleClass? (entry : SymbolId) : Option (TypeId × TypeId) := do
  let classType ← session.program.actualClass? (← (session.program.entry entry).type)
  let data ← session.program.classData? classType
  let specialization ← data.specialization
  if data.completeness = .incompleteIndependent then
    some (classType, specialization.template)
  else
    none

/-- The trees and parameters of a selected template. -/
def selectedTemplate? (selected : SymbolId) :
    Option (InstantiationTrees × List TemplateParameter) := do
  let data ← session.program.classData? (← (session.program.entry selected).type)
  let specialization ← data.specialization
  some (data.trees, specialization.parameters)

end Session

namespace SyntaxTree

/-- Copies the trees of a template: the member list and then the base clause. -/
def copyTrees (tree : SyntaxTree) (trees : InstantiationTrees) :
    InstantiationTrees × SyntaxTree :=
  let copyOptional (tree : SyntaxTree) : Option NodeId → Option NodeId × SyntaxTree
    | some id =>
        let (copy, tree) := tree.copyForInstantiation id
        (some copy, tree)
    | none => (none, tree)
  let (members, tree) := copyOptional tree trees.members
  let (bases, tree) := copyOptional tree trees.bases
  (⟨members, bases⟩, tree)

end SyntaxTree

namespace Program

/-- Opens the contexts of an instance where its name was declared: one for the template arguments
and in it one for the members, which becomes the inner context of the class. -/
def openInstance (program : Program) (entry : SymbolId) (classType : TypeId) :
    (DeclContext × DeclContext) × Program :=
  let declaredIn := (program.entry entry).declContext
  let (opened, scopes) := program.scopes.newTemplateContext declaredIn
  let templateContext :=
    { opened with
      templateNesting := 0
      flags := { opened.flags with template := false, explicitSpecialization := false } }
  let (inner, scopes) := scopes.newClassContext templateContext entry
  let program := { program with scopes }.modifyClass classType fun data =>
    { data with innerContext := some inner }
  ((templateContext, inner), program)

/-- Declares the name of a class inside the class and marks the class complete. -/
def completeInstance (program : Program) (entry : SymbolId) (classType : TypeId)
    (inner : DeclContext) : Program :=
  let (injected, program) := program.copySymbolInto entry inner.currentScope
  let program := program.modifyEntry injected fun copy =>
    { copy with hidden := true, isInjectedClassName := true, refersTo := some entry }
  program.modifyClass classType fun data => { data with completeness := .completeIndependent }

end Program

/-- What is known of an instance when its bases are recorded. -/
structure PreparedClass where
  members : Option NodeId
  declaredIn : DeclContext
  /-- The context that was opened for the class. -/
  inner : DeclContext
deriving DecidableEq, Repr, Inhabited

namespace Activity

variable {σ : Type}

def injectDeductions (context : DeclContext) (parameters : List TemplateParameter) :
    List Deduction → Activity σ Unit
  | [] => return ()
  | deduction :: rest => do
      match deduction.deduced with
      | [argument] => do
          let name ← ofExcept <|
            (← program).parameterName parameters deduction.nesting deduction.position
          let _ ← injectArgument context name deduction.kind argument
          injectDeductions context parameters rest
      | deduced =>
          throw (.deducedArgumentCount deduction.nesting deduction.position deduced.length)

/-- The template that the analyzer selects for an instance. -/
def solveClass (analyzer : Analyzer σ) (perform : Request → Activity σ Unit) (request : Request)
    (entry : SymbolId) (template : TypeId) : Activity σ Solution := do
  let action := analyzer.solveClassTemplate request.context template entry request.location
  match ← action.run perform with
  | some solution => return solution
  | none =>
      throw (.noMatchingTemplate ((← program).symbolName entry) ((← program).entry entry).location)

/-- Has the analyzer record the bases of a class from its base clause, if there is one. -/
def buildBases (analyzer : Analyzer σ) (perform : Request → Activity σ Unit)
    (clause : Option NodeId) (classType : TypeId) (inner : DeclContext) : Activity σ Unit :=
  match clause with
  | some clause => (analyzer.buildBaseClause clause classType inner).run perform
  | none => return ()

/-- Has the analyzer declare the members of a class from its member list, if there is one. -/
def buildMembers (analyzer : Analyzer σ) (perform : Request → Activity σ Unit)
    (members : Option NodeId) (classType : TypeId) (inner : DeclContext) : Activity σ Unit :=
  match members with
  | some members =>
      let memberContext := { inner with flags := { inner.flags with instantiating := true } }
      (analyzer.buildMembers members classType memberContext).run perform
  | none => return ()

/-- Selects the template of an instance, opens the instance, declares the template arguments and
has the bases recorded. -/
def prepareClass (analyzer : Analyzer σ) (perform : Request → Activity σ Unit) (request : Request)
    (entry : SymbolId) (classType template : TypeId) : Activity σ PreparedClass := do
  let solution ← solveClass analyzer perform request entry template
  match (← session).selectedTemplate? solution.selected with
  | none => throw (.notEligibleClass ((← program).symbolName solution.selected))
  | some (trees, parameters) =>
      let copies ← onTree (·.copyTrees trees)
      let declaredIn := ((← program).entry entry).declContext
      let (templateContext, inner) ← onProgram (·.openInstance entry classType)
      debug fun _ => "Injecting template parameters"
      injectDeductions templateContext parameters solution.deductions
      debug fun session =>
        "Injected context\n" ++ session.program.describeScope templateContext.currentScope
      buildBases analyzer perform copies.bases classType inner
      return ⟨copies.members, declaredIn, inner⟩

def completeClass (analyzer : Analyzer σ) (perform : Request → Activity σ Unit)
    (request : Request) (entry : SymbolId) (classType : TypeId) (prepared : PreparedClass) :
    Activity σ Unit := do
  modifyProgram (·.completeInstance entry classType prepared.inner)
  buildMembers analyzer perform prepared.members classType prepared.inner
  modifyProgram (·.modifyEntry entry fun symbol => { symbol with defined := true })
  (analyzer.finishClass classType prepared.declaredIn request.location).run perform
  modifySession (·.record entry request.location)
  debug fun session =>
    "Instantiation of class '" ++ session.program.symbolName entry ++ "' ended"

/-- Fills in an instance that is being instantiated. -/
def fillClass (analyzer : Analyzer σ) (perform : Request → Activity σ Unit) (request : Request)
    (entry : SymbolId) (classType template : TypeId) : Activity σ Unit := do
  let prepared ← prepareClass analyzer perform request entry classType template
  completeClass analyzer perform request entry classType prepared

/-- Instantiates a class template instance, given how further requests are carried out. -/
def instantiateClass (analyzer : Analyzer σ) (perform : Request → Activity σ Unit)
    (request : Request) : Activity σ Unit := do
  let entry ← ofExcept ((← session).resolveClassEntry request.entry)
  match (← session).eligibleClass? entry with
  | none => throw (.notEligibleClass ((← program).symbolName entry))
  | some (classType, template) =>
      debug fun session =>
        "Instantiating class '" ++ session.program.symbolName entry ++ "' at '" ++
          request.location.render ++ "'"
      within entry request.location <|
        fillClass analyzer perform request entry classType template

end Activity

end CppTemplates
