import CppTemplates.Instantiation.Class
import CppTemplates.Instantiation.Function

/-!
# The instantiation engine

Carrying out a request makes the analyzer act, and its actions make further requests. Every
request that gets as far as an action is one level deeper than the one before, and the session
bounds the depth, so the nesting of requests ends.
-/

namespace CppTemplates

namespace Activity

variable {σ : Type}

/-- Carries out a request, given how further requests are carried out. -/
def performWith (analyzer : Analyzer σ) (perform : Request → Activity σ Unit)
    (request : Request) : Activity σ Unit :=
  match request.kind with
  | .classTemplate => instantiateClass analyzer perform request
  | .functionTemplate => instantiateFunction analyzer perform request

/-- Refuses a request for want of depth. -/
def refuse (request : Request) : Activity σ Unit := do
  let session ← session
  throw (.depthExceeded (session.program.symbolName request.entry) session.limits.maxDepth
    request.location)

/-- Carries out a request with room for a number of nested instantiations. -/
def performIn (analyzer : Analyzer σ) : Nat → Request → Activity σ Unit
  | 0 => performWith analyzer refuse
  | room + 1 => performWith analyzer (performIn analyzer room)

/-- Carries out a request. The room that is left is what the limit allows beyond the
instantiations in progress. -/
def perform (analyzer : Analyzer σ) (request : Request) : Activity σ Unit := do
  let session ← session
  performIn analyzer (session.limits.maxDepth - session.depth) request

/-- Runs an action of the analyzer. -/
def act {α : Type} (analyzer : Analyzer σ) (action : Action σ α) : Activity σ α :=
  action.run (perform analyzer)

end Activity

end CppTemplates
