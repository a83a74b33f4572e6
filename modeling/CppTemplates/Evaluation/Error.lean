import CppTemplates.Value.Basic
import CppTemplates.Program.Lookup

/-!
# Why a constant expression has no value

Each cause carries what its wording needs and, where there is one, the place of the construct at
fault.
-/

namespace CppTemplates

/-- Why an expression cannot be folded. -/
inductive EvaluationError where
  /-- Lookup found nothing. -/
  | unknownSymbol (name : String) (span : FileSpan)
  /-- The name denotes neither an enumerator nor a variable. -/
  | notAnExpression (name : String) (kind : SymbolKind) (span : FileSpan)
  | noValue (name : String) (span : FileSpan)
  /-- The value of the constant depends on itself. -/
  | cyclicConstant (name : String) (span : FileSpan)
  | divisionByZero (span : FileSpan)
  | unsupportedWideCharacter (literal : String) (span : FileSpan)
  | unsupportedEscapeSequence (literal : String) (span : FileSpan)
  | unsupportedFloatingLiteral (literal : String) (span : FileSpan)
  | unsupportedNode (kind : NodeKind) (span : FileSpan)
  | kindMismatch (left right : ValueKind) (span : FileSpan)
  | invalidIncrement (kind : ValueKind)
  | malformedLiteral (literal : String) (span : FileSpan)
  /-- A node lacks a child or a text that its kind requires. -/
  | malformedTree (kind : NodeKind) (span : FileSpan)
  | lookup (cause : LookupError)
deriving DecidableEq, Repr, Inhabited

namespace EvaluationError

def message : EvaluationError → String
  | .unknownSymbol name _ => "unknown symbol '" ++ name ++ "' in constant expression"
  | .notAnExpression name kind _ => "'" ++ name ++ "' is a " ++ kind.name ++ ", not an expression"
  | .noValue name _ => "'" ++ name ++ "' does not have a constant value"
  | .cyclicConstant name _ => "the value of '" ++ name ++ "' depends on itself"
  | .divisionByZero _ => "division by zero in constant expression"
  | .unsupportedWideCharacter literal _ =>
      "unsupported wide character " ++ literal ++ " in constant expression"
  | .unsupportedEscapeSequence literal _ =>
      "unsupported escape sequence " ++ literal ++ " in constant expression"
  | .unsupportedFloatingLiteral literal _ =>
      "unsupported floating literal " ++ literal ++ " in constant expression"
  | .unsupportedNode kind _ =>
      "unsupported node '" ++ kind.name ++ "' when evaluating constant expression"
  | .kindMismatch left right _ =>
      "both operands should have the same kind (" ++ left.name ++ " != " ++ right.name ++ ")"
  | .invalidIncrement kind => "a " ++ kind.name ++ " value cannot be incremented"
  | .malformedLiteral literal _ => "malformed literal '" ++ literal ++ "'"
  | .malformedTree kind _ => "malformed " ++ kind.name ++ " node"
  | .lookup cause => cause.message

def span? : EvaluationError → Option FileSpan
  | .unknownSymbol _ span | .notAnExpression _ _ span | .noValue _ span | .cyclicConstant _ span
  | .divisionByZero span | .unsupportedWideCharacter _ span | .unsupportedEscapeSequence _ span
  | .unsupportedFloatingLiteral _ span | .unsupportedNode _ span | .kindMismatch _ _ span
  | .malformedLiteral _ span | .malformedTree _ span => some span
  | .invalidIncrement _ | .lookup _ => none

def severity : EvaluationError → Severity
  | .unknownSymbol .. | .notAnExpression .. | .noValue .. | .cyclicConstant ..
  | .divisionByZero .. => .diagnosed
  | .lookup cause => cause.severity
  | _ => .fatal

end EvaluationError

end CppTemplates
