/-!
# Configuration

The settings of the front end.
-/

namespace CppTemplates

/-- The settings of the front end. -/
structure Configuration where
  /-- How many instantiations may be in progress at once. -/
  maxDepth : Nat := 256
  /-- Whether messages show the construct that they are about. -/
  printContext : Bool := true
deriving DecidableEq, Repr

instance : Inhabited Configuration := ⟨{}⟩

end CppTemplates
