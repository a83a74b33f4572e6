/-!
# Identities in a program

Scopes, symbols and types are numbered in the order of their creation, each sort on its own. The
three kinds of number are kept apart by their types.
-/

namespace CppTemplates

/-- The number of a scope. -/
structure ScopeId where
  /-- How many scopes are older. -/
  index : Nat
deriving DecidableEq, Repr, Inhabited

/-- The number of a symbol. -/
structure SymbolId where
  /-- How many symbols are older. -/
  index : Nat
deriving DecidableEq, Repr, Inhabited

/-- The number of a type. -/
structure TypeId where
  /-- How many types are older. -/
  index : Nat
deriving DecidableEq, Repr, Inhabited

end CppTemplates
