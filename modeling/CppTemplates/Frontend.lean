import CppTemplates.Configuration
import CppTemplates.Diagnostic
import CppTemplates.Instantiation.Engine

/-!
# The front end

The front end folds constants and instantiates templates for one translation unit. It returns every
error to its caller and also reports it as a diagnostic; the caller decides whether to stop.
Requests that the analyzer makes do not go through the front end and are not reported.
-/

namespace CppTemplates

/-- Constant folding and template instantiation for one translation unit. -/
structure Frontend (σ : Type) where
  analyzer : Analyzer σ
  /-- The session, the state of the analyzer and the journal. -/
  compilation : Compilation σ
  configuration : Configuration := {}
  diagnostics : List Diagnostic := []

namespace Frontend

variable {σ : Type}

/-- A front end over a parsed and declared translation unit. -/
def create (program : Program) (tree : SyntaxTree) (analyzer : Analyzer σ) (analyzerState : σ)
    (configuration : Configuration) (journal : Journal := {}) : Frontend σ where
  analyzer
  compilation :=
    { session := { program, tree, limits := { maxDepth := configuration.maxDepth } }
      analyzerState
      journal }
  configuration

variable (frontend : Frontend σ)

def report (diagnostic : Diagnostic) : Frontend σ :=
  { frontend with
    diagnostics := frontend.diagnostics ++ [diagnostic]
    compilation := { frontend.compilation with
      journal := frontend.compilation.journal.log .error fun _ => diagnostic.render } }

/-- A message, followed by the construct that it is about if the settings ask for it. -/
def withContext (message context : String) : String :=
  if frontend.configuration.printContext then message ++ "\n  " ++ context else message

/-- Folds a constant expression as seen from a context. -/
def evaluateConstantExpression (context : DeclContext) (id : NodeId) :
    Except EvaluationError Value × Frontend σ :=
  let session := frontend.compilation.session
  let logged := { frontend with compilation := frontend.compilation.logEvaluation context id }
  match evaluate session.tree session.program context id with
  | .ok value => (.ok value, logged)
  | .error cause =>
      let message := frontend.withContext cause.message ("in '" ++ session.tree.display id ++ "'")
      (.error cause, logged.report { severity := cause.severity, message })

def instantiate (request : Request) : Except InstantiationError Unit × Frontend σ :=
  match Activity.perform frontend.analyzer request frontend.compilation with
  | .ok _ compilation => (.ok (), { frontend with compilation })
  | .error cause compilation =>
      let name := compilation.session.program.symbolName request.entry
      let message :=
        frontend.withContext cause.message ("while instantiating '" ++ name ++ "'")
      (.error cause, { frontend with compilation }.report
        { severity := cause.severity, message, location := some request.location })

/-- Hands over the reported problems and forgets them. -/
def takeDiagnostics : List Diagnostic × Frontend σ :=
  (frontend.diagnostics, { frontend with diagnostics := [] })

end Frontend

end CppTemplates
