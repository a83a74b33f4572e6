import CppTemplates.Instantiation.Error
import CppTemplates.Program.Basic

/-!
# Sessions

A session is the state that folding, instantiation and the semantic analyzer share for one
translation unit: the program and its syntax tree, the limit on nested instantiations, two switches
of the analysis, the instantiations in progress and those completed.
-/

namespace CppTemplates

/-- Bounds on nested instantiations. -/
structure InstantiationLimits where
  /-- How many instantiations may be in progress at once. -/
  maxDepth : Nat := 256
deriving DecidableEq, Repr

instance : Inhabited InstantiationLimits := ⟨{}⟩

/-- A switch of the analysis that is turned for a while and then put back. -/
inductive Switch where
  /-- Turned on while an ambiguity is being resolved. -/
  | checkingAmbiguity
  /-- Turned off while expressions need not be tested for well-formedness. -/
  | testExpression
deriving DecidableEq, Repr, Inhabited

/-- The state shared by folding, instantiation and analysis. -/
structure Session where
  program : Program := {}
  tree : SyntaxTree := .empty
  limits : InstantiationLimits := {}
  checkingAmbiguity : Bool := false
  testExpression : Bool := true
  /-- The number of instantiations in progress. -/
  depth : Nat := 0
  /-- The entities being instantiated, each once. -/
  active : List SymbolId := []
  /-- The completed instantiations with the places that requested them, in order of completion. -/
  instantiated : List (SymbolId × Location) := []

namespace Session

instance : Inhabited Session := ⟨{}⟩

variable (session : Session)

def isActive (entity : SymbolId) : Bool :=
  session.active.contains entity

/-- Starts the instantiation of an entity unless too many are in progress. -/
def enter (entity : SymbolId) (location : Location) : Except InstantiationError Session :=
  if session.limits.maxDepth ≤ session.depth then
    .error (.depthExceeded (session.program.symbolName entity) session.limits.maxDepth location)
  else
    .ok { session with depth := session.depth + 1, active := session.active.insert entity }

def leave (entity : SymbolId) : Session :=
  { session with
    depth := session.depth - 1
    active := session.active.filter (· ≠ entity) }

/-- Records that an entity was instantiated; a repeated instantiation keeps its place. -/
def record (entity : SymbolId) (location : Location) : Session :=
  if session.instantiated.any (·.1 = entity) then
    { session with
      instantiated := session.instantiated.map fun completed =>
        if completed.1 = entity then (entity, location) else completed }
  else
    { session with instantiated := session.instantiated ++ [(entity, location)] }

def turn : Switch → Session
  | .checkingAmbiguity => { session with checkingAmbiguity := true }
  | .testExpression => { session with testExpression := false }

/-- Puts a switch back to where it stands in an earlier session. -/
def putBack (earlier : Session) : Switch → Session
  | .checkingAmbiguity => { session with checkingAmbiguity := earlier.checkingAmbiguity }
  | .testExpression => { session with testExpression := earlier.testExpression }

end Session

end CppTemplates
