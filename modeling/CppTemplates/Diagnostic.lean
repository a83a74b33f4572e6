import CppTemplates.Severity
import CppTemplates.Source

/-!
# Diagnostics

A diagnostic is one problem as reported to the user.
-/

namespace CppTemplates

structure Diagnostic where
  severity : Severity
  /-- The wording, with its context if that is printed. -/
  message : String
  /-- The place that requested the instantiation in which the problem arose. -/
  location : Option Location := none
deriving DecidableEq, Repr, Inhabited

namespace Diagnostic

/-- The printed form: the place if there is one, the severity and the message. -/
def render (diagnostic : Diagnostic) : String :=
  let place := match diagnostic.location with
    | some location => location.render ++ ": "
    | none => ""
  place ++ diagnostic.severity.label ++ ": " ++ diagnostic.message

end Diagnostic

end CppTemplates
