/-!
# Journals

A journal collects the lines that an activity logs, up to the level of detail that it was opened
for. Nothing that folding or instantiation computes depends on the journal.
-/

namespace CppTemplates

/-- How detailed a logged line is. -/
inductive LogLevel where
  | error
  | debug
  | trace
deriving DecidableEq, Repr, Inhabited

namespace LogLevel

/-- The levels in order of increasing detail. -/
def detail : LogLevel → Nat
  | .error => 1
  | .debug => 4
  | .trace => 5

def label : LogLevel → String
  | .error => "ERROR"
  | .debug => "DEBUG"
  | .trace => "TRACE"

end LogLevel

structure LogLine where
  level : LogLevel
  message : String
deriving DecidableEq, Repr, Inhabited

namespace LogLine

def render (line : LogLine) : String :=
  line.level.label ++ ": " ++ line.message

end LogLine

/-- The lines logged so far and the greatest detail that is kept. -/
structure Journal where
  /-- The greatest detail that is kept; without one, nothing is. -/
  threshold : Option LogLevel := none
  /-- The kept lines, oldest first. -/
  lines : Array LogLine := #[]
deriving DecidableEq, Repr, Inhabited

namespace Journal

def keeps (journal : Journal) (level : LogLevel) : Bool :=
  match journal.threshold with
  | some threshold => level.detail ≤ threshold.detail
  | none => false

/-- Logs a line. The text is only made if it is kept. -/
def log (journal : Journal) (level : LogLevel) (message : Unit → String) : Journal :=
  if journal.keeps level then
    { journal with lines := journal.lines.push ⟨level, message ()⟩ }
  else
    journal

/-- Logs those of some lines that are kept. The lines are only made if debug lines are kept. -/
def logAll (journal : Journal) (lines : Unit → List LogLine) : Journal :=
  if journal.keeps .debug then
    { journal with
      lines := journal.lines ++ ((lines ()).filter fun line => journal.keeps line.level).toArray }
  else
    journal

end Journal

end CppTemplates
