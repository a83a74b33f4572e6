import CppTemplates.Evaluation.Log
import CppTemplates.Instantiation.Session

/-!
# Activities on a compilation

A compilation is a session together with the state of the semantic analyzer and the journal. An
activity works on a compilation and ends with a result or an error; either way it leaves behind
what it has done so far. What has to be undone is undone by the brackets of this module.
-/

namespace CppTemplates

/-- A session, the analyzer's own state and the journal. -/
structure Compilation (σ : Type) where
  session : Session := {}
  analyzerState : σ
  journal : Journal := {}
deriving Inhabited

/-- Work on a compilation that gives a result or fails. -/
abbrev Activity (σ α : Type) :=
  EStateM InstantiationError (Compilation σ) α

namespace Compilation

variable {σ : Type} (compilation : Compilation σ)

def mapSession (change : Session → Session) : Compilation σ :=
  { compilation with session := change compilation.session }

def logAll (lines : Session → List LogLine) : Compilation σ :=
  { compilation with journal := compilation.journal.logAll fun _ => lines compilation.session }

/-- Logs what folding a constant expression logs. -/
def logEvaluation (context : DeclContext) (id : NodeId) : Compilation σ :=
  compilation.logAll fun session => evaluationLog session.tree session.program context id

/-- Takes over program, tree, analyzer state and journal of another compilation, but none of the
bookkeeping of instantiations. -/
def adopt (other : Compilation σ) : Compilation σ where
  session := { compilation.session with
    program := other.session.program
    tree := other.session.tree }
  analyzerState := other.analyzerState
  journal := other.journal

end Compilation

namespace Activity

variable {σ α : Type}

def session : Activity σ Session :=
  return (← get).session

def program : Activity σ Program :=
  return (← session).program

def modifySession (change : Session → Session) : Activity σ Unit :=
  modify (·.mapSession change)

def ofExcept : Except InstantiationError α → Activity σ α
  | .ok result => pure result
  | .error cause => throw cause

def onProgram (operation : Program → α × Program) : Activity σ α :=
  modifyGet fun compilation =>
    let (result, program) := operation compilation.session.program
    (result, compilation.mapSession fun session => { session with program })

def onTree (operation : SyntaxTree → α × SyntaxTree) : Activity σ α :=
  modifyGet fun compilation =>
    let (result, tree) := operation compilation.session.tree
    (result, compilation.mapSession fun session => { session with tree })

def modifyProgram (change : Program → Program) : Activity σ Unit :=
  modifySession fun session => { session with program := change session.program }

def debug (message : Session → String) : Activity σ Unit :=
  modify fun compilation =>
    { compilation with
      journal := compilation.journal.log .debug fun _ => message compilation.session }

def logAll (lines : Session → List LogLine) : Activity σ Unit :=
  modify (·.logAll lines)

/-- Does the work of an activity as part of the instantiation of an entity. However the work ends,
the instantiation is over afterwards. -/
def within (entity : SymbolId) (location : Location) (work : Activity σ α) : Activity σ α :=
  fun before =>
    match before.session.enter entity location with
    | .error cause => .error cause before
    | .ok session =>
        match work { before with session } with
        | .ok result after => .ok result (after.mapSession (·.leave entity))
        | .error cause after => .error cause (after.mapSession (·.leave entity))

/-- Does the work of an activity with a switch turned. However the work ends, the switch is put
back afterwards. -/
def withSwitch (switch : Switch) (work : Activity σ α) : Activity σ α :=
  fun before =>
    match work (before.mapSession (·.turn switch)) with
    | .ok result after => .ok result (after.mapSession (·.putBack before.session switch))
    | .error cause after => .error cause (after.mapSession (·.putBack before.session switch))

/-- Does the work of an activity and hands its outcome on, be it a result or an error. -/
def outcome (work : Activity σ α) : Activity σ (Except InstantiationError α) :=
  fun before =>
    match work before with
    | .ok result after => .ok (.ok result) after
    | .error cause after => .ok (.error cause) after

end Activity

end CppTemplates
