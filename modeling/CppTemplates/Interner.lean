/-!
# Interned names

A table that numbers texts in the order in which they are first interned. Interning a text again
returns the number it already has, so equal numbers mean equal texts.
-/

namespace CppTemplates

/-- The number of an interned text. -/
abbrev Name := Nat

/-- A table of distinct texts; a text's place is its number. -/
structure Interner where
  /-- The interned texts, oldest first. -/
  texts : Array String := #[]
deriving Inhabited

namespace Interner

def get? (interner : Interner) (text : String) : Option Name :=
  interner.texts.findIdx? (· == text)

/-- The number of `text` and the table that holds it. -/
def intern (interner : Interner) (text : String) : Name × Interner :=
  match interner.get? text with
  | some name => (name, interner)
  | none => (interner.texts.size, ⟨interner.texts.push text⟩)

def resolve? (interner : Interner) (name : Name) : Option String :=
  interner.texts[name]?

/-- A one-line summary that shows how many texts the table holds. -/
def summary (interner : Interner) : String :=
  "Interner \x7b len: " ++ interner.texts.size.repr ++ " \x7d"

/-- Interning a text makes its number resolve to it. -/
@[simp]
theorem resolve?_intern (interner : Interner) (text : String) :
    (interner.intern text).2.resolve? (interner.intern text).1 = some text := by
  unfold intern resolve?
  split
  case h_1 name found =>
    obtain ⟨bound, same, _⟩ := Array.findIdx?_eq_some_iff_getElem.mp found
    simp only [Array.getElem?_eq_getElem bound]
    exact congrArg some (by simpa using same)
  case h_2 => simp

end Interner

end CppTemplates
