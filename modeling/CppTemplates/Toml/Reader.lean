/-!
# Reading text

A reader reads something from the front of a text and leaves the rest, or rejects the text. A
choice `p <|> q` reads with `q` what `p` rejects.
-/

namespace CppTemplates.Toml

/-- Reads something from the front of a text. -/
abbrev Reader (α : Type) :=
  StateT (List Char) Option α

namespace Reader

variable {α : Type}

/-- One character with a property. -/
def satisfying (property : Char → Bool) : Reader Char
  | [] => none
  | c :: rest => if property c then some (c, rest) else none

def char (c : Char) : Reader Unit := do
  let _ ← satisfying (· == c)

def word (text : String) : Reader Unit :=
  text.toList.forM char

/-- All characters up to the first without a property. -/
def takeWhile (property : Char → Bool) : Reader (List Char) := fun input =>
  some (input.takeWhile property, input.dropWhile property)

/-- Nothing, at the end of the text. -/
def atEnd : Reader Unit
  | [] => some ((), [])
  | _ :: _ => none

/-- Everything that an item reader reads from a text, one item after the other, and the rest. It
stops where the reader rejects the text or takes nothing from it. -/
def collect (item : Reader α) (input : List Char) : List α × List Char :=
  match item input with
  | none => ([], input)
  | some (x, rest) =>
      if _shorter : rest.length < input.length then
        let (xs, rest) := collect item rest
        (x :: xs, rest)
      else
        ([], input)
termination_by input.length

def many (item : Reader α) : Reader (List α) := fun input =>
  some (collect item input)

/-- One or more items with separators between them. -/
def separated (item : Reader α) (separator : Reader Unit) : Reader (List α) := do
  let first ← item
  let others ← many (do separator; item)
  return first :: others

/-- The result of reading a whole text. -/
def whole? (reader : Reader α) (text : String) : Option α :=
  match reader text.toList with
  | some (result, []) => some result
  | _ => none

end Reader

end CppTemplates.Toml
