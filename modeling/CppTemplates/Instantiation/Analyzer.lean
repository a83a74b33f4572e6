import CppTemplates.Instantiation.Activity
import CppTemplates.Program.Typedef

/-!
# The semantic analyzer

Instantiation does not know how to match partial specializations or how to build declarations. It
asks the analyzer, a collaborator with a state of its own. What the analyzer does when asked is an
`Action`: it can read and change the compilation, turn a switch for a while, and request further
instantiations, whose outcome it sees.

An action is a tree with one branch for every outcome it waits for. So it can be run by the
instantiation engine, and a statement about every analyzer is a statement about every such tree.
-/

namespace CppTemplates

inductive RequestKind where
  | classTemplate
  | functionTemplate
deriving DecidableEq, Repr, Inhabited

/-- A request to instantiate a specialization. -/
structure Request where
  kind : RequestKind
  entry : SymbolId
  /-- The context that the request comes from. -/
  context : DeclContext
  /-- The place that the request comes from. -/
  location : Location
deriving DecidableEq, Repr, Inhabited

/-- What the analyzer, whose state is a `σ`, does to give an `α`. -/
inductive Action (σ α : Type) where
  /-- Ends with a result or an error. -/
  | done (outcome : Except InstantiationError α)
  /-- Changes program, tree, analyzer state and journal, and goes on. -/
  | update (change : Compilation σ → Compilation σ) (next : Action σ α)
  /-- Reads the compilation and goes on accordingly. -/
  | inspect (next : Compilation σ → Action σ α)
  /-- Requests an instantiation and goes on according to its outcome. -/
  | instantiate (request : Request) (next : Except InstantiationError Unit → Action σ α)
  /-- Does some work with a switch turned and goes on according to its outcome. -/
  | withSwitch (switch : Switch) (work : Action σ α)
      (next : Except InstantiationError α → Action σ α)

namespace Action

variable {σ α : Type}

instance : Inhabited (Action σ α) := ⟨.done (.error default)⟩

/-- Runs an action, given how requests are carried out. An update cannot touch the bookkeeping of
instantiations. -/
def run (perform : Request → Activity σ Unit) : Action σ α → Activity σ α
  | .done outcome => Activity.ofExcept outcome
  | .update change next => do
      modify fun compilation => compilation.adopt (change compilation)
      next.run perform
  | .inspect next => do (next (← get)).run perform
  | .instantiate request next => do
      let outcome ← (perform request).outcome
      (next outcome).run perform
  | .withSwitch switch work next => do
      let outcome ← (Activity.withSwitch switch (work.run perform)).outcome
      (next outcome).run perform

end Action

/-- The template that a requested class is instantiated from. -/
structure Solution where
  /-- The primary template or one of its specializations. -/
  selected : SymbolId
  /-- What the parameters of the selected template are bound to. -/
  deductions : List Deduction
deriving DecidableEq, Repr, Inhabited

/-- What the analyzer does when instantiation asks it. -/
structure Analyzer (σ : Type) where
  /-- Chooses the template that an instance of a template is instantiated from. -/
  solveClassTemplate (context : DeclContext) (template : TypeId) (requested : SymbolId)
    (location : Location) : Action σ (Option Solution)
  buildBaseClause (clause : NodeId) (type : TypeId) (context : DeclContext) : Action σ Unit
  buildMembers (members : NodeId) (type : TypeId) (context : DeclContext) : Action σ Unit
  buildFunction (definition : NodeId) (context : DeclContext) : Action σ Unit
  /-- Completes a class whose members are known. -/
  finishClass (type : TypeId) (context : DeclContext) (location : Location) : Action σ Unit :=
    .done (.ok ())

namespace Program

/-- The deduction that binds a parameter to an argument. -/
def deductionFor (program : Program) (parameter : TemplateParameter)
    (argument : TemplateArgument) : Deduction where
  nesting := (program.entry parameter.entry).nesting
  position := (program.entry parameter.entry).position
  kind := parameter.kind
  deduced := [argument]

/-- Selects the primary template and binds its parameters to the requested arguments one by one.
Nothing is selected if there is no template or one side has no specialization. -/
def solvePrimary (program : Program) (template : TypeId) (requested : SymbolId) :
    Except InstantiationError (Option Solution) :=
  match program.templateData? template with
  | none => .ok none
  | some data =>
      match (program.entry data.primary).type.bind program.specialization?,
          (program.entry requested).type.bind program.specialization? with
      | some primary, some instanceOf =>
          if primary.parameters.length = instanceOf.arguments.length then
            .ok (some
              { selected := data.primary
                deductions := List.zipWith program.deductionFor primary.parameters
                  instanceOf.arguments })
          else
            .error (.arityMismatch instanceOf.arguments.length primary.parameters.length)
      | _, _ => .ok none

end Program

/-- The action that selects the primary template. -/
def Action.solvePrimary {σ : Type} (template : TypeId) (requested : SymbolId) :
    Action σ (Option Solution) :=
  .inspect fun compilation =>
    .done (compilation.session.program.solvePrimary template requested)

/-- The analyzer that selects primary templates and otherwise does nothing. -/
def Analyzer.idle (σ : Type) : Analyzer σ where
  solveClassTemplate _ template requested _ := .solvePrimary template requested
  buildBaseClause _ _ _ := .done (.ok ())
  buildMembers _ _ _ := .done (.ok ())
  buildFunction _ _ := .done (.ok ())

end CppTemplates
