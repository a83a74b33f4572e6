/-!
# Positions in source text

Byte ranges locate the nodes of a syntax tree. A `Location` is the coarser pair of a file name and
a line at which an instantiation is requested.
-/

namespace CppTemplates

/-- A half-open range of bytes in a numbered source file. Synthesized nodes carry the empty range
at the start of file zero. -/
structure FileSpan where
  file : Nat := 0
  start : Nat := 0
  /-- One past the last byte. -/
  stop : Nat := 0
deriving DecidableEq, Repr, Inhabited

namespace FileSpan

/-- The number of bytes in the range; an inverted range holds none. -/
def length (span : FileSpan) : Nat :=
  span.stop - span.start

def isEmpty (span : FileSpan) : Bool :=
  span.stop ≤ span.start

/-- The printed form of the file number. -/
def fileLabel (span : FileSpan) : String :=
  "file#" ++ span.file.repr

end FileSpan

/-- A line of a named file. -/
structure Location where
  file : String
  line : Nat
deriving DecidableEq, Repr, Inhabited

namespace Location

/-- Where entities live that no source line declares. -/
def builtin : Location :=
  ⟨"<builtin>", 0⟩

/-- The form `file:line`. -/
def render (location : Location) : String :=
  location.file ++ ":" ++ location.line.repr

end Location

end CppTemplates
