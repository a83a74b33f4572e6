import CppTemplates.Evaluation.Error

/-!
# Why an instantiation fails

Each cause carries what its wording needs. Most causes mean that an earlier pass handed over
something it should have rejected; running out of depth and rejected bodies are the user's.
-/

namespace CppTemplates

/-- Why a template specialization cannot be instantiated. -/
inductive InstantiationError where
  /-- Symbols of this kind cannot be instantiated here. -/
  | invalidSymbol (name : String) (kind : SymbolKind)
  /-- The symbol is not an incomplete independent class template specialization. -/
  | notEligibleClass (name : String)
  /-- The symbol is not a function template specialization. -/
  | notEligibleFunction (name : String)
  | noMatchingTemplate (name : String) (declaredAt : Location)
  /-- A deduction does not carry exactly one argument. -/
  | deducedArgumentCount (nesting position count : Nat)
  | parameterNotFound (nesting position : Nat)
  | arityMismatch (arguments parameters : Nat)
  | kindMismatch (parameter argument : ParameterKind)
  | notATemplate (parameter : String)
  /-- The primary template is defined but has no definition tree. -/
  | missingDefinition (name : String)
  | depthExceeded (name : String) (limit : Nat) (location : Location)
  | constant (cause : EvaluationError)
  | semantic (message : String)
deriving DecidableEq, Repr, Inhabited

namespace InstantiationError

def message : InstantiationError → String
  | .invalidSymbol name kind =>
      "invalid symbol '" ++ name ++ "' (" ++ kind.name ++ ") for instantiation"
  | .notEligibleClass name =>
      "symbol '" ++ name ++ "' is not a class eligible for instantiation"
  | .notEligibleFunction name =>
      "symbol '" ++ name ++ "' is not a template function eligible for instantiation"
  | .noMatchingTemplate name declaredAt =>
      "could not instantiate template '" ++ name ++ "' declared for first time in '" ++
        declaredAt.render ++ "'"
  | .deducedArgumentCount nesting position count =>
      "deduction for parameter " ++ nesting.repr ++ ":" ++ position.repr ++ " has " ++
        count.repr ++ " arguments, expected 1"
  | .parameterNotFound nesting position =>
      "no template parameter with nest=" ++ nesting.repr ++ " and position=" ++ position.repr
  | .arityMismatch arguments parameters =>
      "mismatch between template arguments and parameters (" ++ arguments.repr ++ " != " ++
        parameters.repr ++ ")"
  | .kindMismatch parameter argument =>
      "mismatch between template argument kind (" ++ argument.name ++
        ") and template parameter kind (" ++ parameter.name ++ ")"
  | .notATemplate parameter =>
      "template argument for '" ++ parameter ++ "' does not name a template"
  | .missingDefinition name => "invalid function definition tree for '" ++ name ++ "'"
  | .depthExceeded name limit _ =>
      "instantiating '" ++ name ++ "' exceeds the maximum depth of " ++ limit.repr
  | .constant cause => "while folding a template argument: " ++ cause.message
  | .semantic message => message

def severity : InstantiationError → Severity
  | .depthExceeded .. | .semantic _ => .diagnosed
  | .constant cause => cause.severity
  | _ => .fatal

end InstantiationError

end CppTemplates
