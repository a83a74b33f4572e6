import CppTemplates.Toml.Calendar
import CppTemplates.Toml.Table
import CppTemplates.Toml.Text

/-!
# TOML documents

The grammar of TOML 1.0. Arrays and inline tables may be nested to a depth of 79, and a key may
have as many parts.
-/

namespace CppTemplates.Toml

open Reader

/-- The bound on nested values and on the parts of a key. -/
def nestingLimit : Nat :=
  79

/-- A character of an unquoted key. -/
def isBareKey (c : Char) : Bool :=
  isDecimal c || ('a' ≤ c && c ≤ 'z') || ('A' ≤ c && c ≤ 'Z') || c == '-' || c == '_'

def keyPart : Reader String :=
  basicString <|> literalString <|> do
    let first ← satisfying isBareKey
    return String.ofList (first :: (← takeWhile isBareKey))

/-- A key, with blanks around each of its parts. -/
def key : Reader Key := do
  let parts ← separated (do blanks; let part ← keyPart; blanks; return part) (char '.')
  guard (parts.length ≤ nestingLimit)
  return { path := parts.dropLast, name := parts.getLastD "" }

/-- A value that holds no other values. -/
def simpleValue : Reader Item :=
  (do return .string (← string)) <|>
  (do return .dateTime (← dateTime)) <|>
  (do return .float (← float)) <|>
  (do return .integer (← integer)) <|>
  (do word "true"; return .boolean true) <|>
  (do word "false"; return .boolean false)

/-- An array. A comma may follow the last value. -/
def array (value : Reader Item) : Reader Item := do
  char '['
  let items ← optional do
    let items ← separated (do layout; let item ← value; layout; return item) (char ',')
    let _ ← optional (char ',')
    return items
  layout
  char ']'
  return .array (items.getD [])

def assignment (value : Reader Item) : Reader (Key × Item) := do
  let key ← key
  char '='
  blanks
  return (key, ← value)

def inlineTable (value : Reader Item) : Reader Item := do
  char '\x7b'
  let items ← optional
    (separated (do let item ← assignment value; blanks; return item) (char ','))
  blanks
  char '\x7d'
  match inlineTable? (items.getD []) with
  | some table => return table
  | none => failure

/-- A value in which others may be nested to a given depth. -/
def value : Nat → Reader Item
  | 0 => simpleValue
  | depth + 1 => array (value depth) <|> inlineTable (value depth) <|> simpleValue

def header : Reader Statement :=
  (do
    word "[["
    let key ← key
    word "]]"
    return .element key) <|>
  (do
    char '['
    let key ← key
    char ']'
    return .table key)

/-- A line, which may hold a statement. -/
def line : Reader (Option Statement) := do
  blanks
  let statement ← optional
    (header <|> (do let (key, item) ← assignment (value nestingLimit); return .entry key item))
  lineRest
  return statement

/-- All statements of a text. A byte order mark may stand at the front. -/
def statements : Reader (List Statement) := do
  let _ ← optional (char '\ufeff')
  let lines ← many line
  atEnd
  return lines.filterMap id

/-- The table that a text describes. -/
def parse? (text : String) : Option Entries := do
  document? (← whole? statements text)

end CppTemplates.Toml
