import CppTemplates.Toml.Number

/-!
# TOML blanks, comments and strings

Line ends are a line feed with or without a carriage return before it. Control characters are
allowed nowhere, except for the tab in blanks, comments and strings.
-/

namespace CppTemplates.Toml

open Reader

def isBlank (c : Char) : Bool :=
  c == ' ' || c == '\t'

/-- A character that may stand in a comment. -/
def isVisible (c : Char) : Bool :=
  c == '\t' || (' ' ≤ c && c ≤ '~') || '\u0080' ≤ c

/-- A character that stands for itself between double quotes. -/
def isBasic (c : Char) : Bool :=
  isVisible c && c != '"' && c != '\\'

/-- A character that may stand between single quotes. -/
def isLiteral (c : Char) : Bool :=
  isVisible c && c != '\''

def blanks : Reader Unit := do
  let _ ← takeWhile isBlank

def newline : Reader Unit := do
  let _ ← optional (char '\r')
  char '\n'

/-- A comment up to the end of its line. -/
def comment : Reader Unit := do
  char '#'
  let _ ← takeWhile isVisible

/-- A line end or the end of the text. -/
def lineEnd : Reader Unit :=
  newline <|> atEnd

/-- What may follow a statement on its line. -/
def lineRest : Reader Unit := do
  blanks
  let _ ← optional comment
  lineEnd

/-- Blanks, comments and line ends. -/
def layout : Reader Unit := do
  blanks
  let _ ← many do
    let _ ← optional comment
    newline
    blanks

/-- The character of a given number of hexadecimal digits. -/
def hexadecimalCharacter (length : Nat) : Reader Char := do
  let digits ← (List.replicate length isHexadecimal).mapM satisfying
  let code := digitsValue 16 digits
  guard code.isValidChar
  return Char.ofNat code

/-- An escape sequence between double quotes. -/
def escape : Reader Char := do
  char '\\'
  match ← satisfying fun _ => true with
  | 'b' => return '\u0008'
  | 't' => return '\t'
  | 'n' => return '\n'
  | 'f' => return '\u000c'
  | 'r' => return '\r'
  | '"' => return '"'
  | '\\' => return '\\'
  | 'u' => hexadecimalCharacter 4
  | 'U' => hexadecimalCharacter 8
  | _ => failure

/-- A string between double quotes. -/
def basicString : Reader String := do
  char '"'
  let text ← many (satisfying isBasic <|> escape)
  char '"'
  return String.ofList text

/-- A string between single quotes. -/
def literalString : Reader String := do
  char '\''
  let text ← takeWhile isLiteral
  char '\''
  return String.ofList text

/-- A line end in a string, which counts as a line feed. -/
def lineFeed : Reader (List Char) := do
  newline
  return ['\n']

/-- A backslash at the end of a line, which swallows the blanks and line ends that follow. -/
def continuation : Reader (List Char) := do
  char '\\'
  blanks
  newline
  let _ ← takeWhile isBlank
  let _ ← many (do newline; blanks)
  return []

/-- A string between triple quotes, given what it may hold besides quotes. A line end right after
the opening quotes does not count. One or two quotes may stand inside, or before the closing
quotes. -/
def multilineString (quote : Char) (content : Reader (List Char)) : Reader String := do
  let quotes (count : Nat) : Reader (List Char) := do
    (List.replicate count quote).forM char
    return List.replicate count quote
  let _ ← quotes 3
  let _ ← optional newline
  let text ← many
    (content <|> (do return (← quotes 2) ++ (← content)) <|>
      (do return (← quotes 1) ++ (← content)))
  let ending ← quotes 5 <|> quotes 4 <|> quotes 3
  return String.ofList (text.flatten ++ ending.drop 3)

/-- A string between triple double quotes. -/
def multilineBasicString : Reader String :=
  multilineString '"' <|
    (do return [← satisfying isBasic]) <|> continuation <|> (do return [← escape]) <|> lineFeed

/-- A string between triple single quotes. -/
def multilineLiteralString : Reader String :=
  multilineString '\'' <| (do return [← satisfying isLiteral]) <|> lineFeed

def string : Reader String :=
  multilineBasicString <|> basicString <|> multilineLiteralString <|> literalString

end CppTemplates.Toml
