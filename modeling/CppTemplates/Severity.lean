/-!
# Severity of problems

A problem is either in the user's code or in what an earlier pass handed over.
-/

namespace CppTemplates

/-- How a problem affects the current translation unit. -/
inductive Severity where
  /-- An earlier pass should have rejected the input. -/
  | fatal
  /-- The user's code is ill-formed. -/
  | diagnosed
deriving DecidableEq, Repr, Inhabited

namespace Severity

def label : Severity → String
  | .fatal => "internal error"
  | .diagnosed => "error"

end Severity

end CppTemplates
