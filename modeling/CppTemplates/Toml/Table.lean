import CppTemplates.Toml.Item

/-!
# Building TOML tables

A document is built statement by statement. A key can be given only once, and only certain tables
can be added to later: a header may complete a table that so far was only on the way to another
one, and a dotted key may add to a table that dotted keys made.
-/

namespace CppTemplates.Toml

/-- The item that a key stands for. -/
def Entries.item? (entries : Entries) (key : String) : Option Item :=
  List.lookup key entries

/-- Puts an item at a key, in place of what was there. -/
def Entries.put (entries : Entries) (key : String) (item : Item) : Entries :=
  if (entries.item? key).isSome then
    entries.map fun entry => if entry.1 == key then (key, item) else entry
  else
    entries ++ [(key, item)]

/-- Changes the last of the tables of a double-bracket header. -/
def changeLast (change : Entries → Option Entries) : List Entries → Option (List Entries)
  | [] => none
  | [last] => do return [← change last]
  | first :: others => do return first :: (← changeLast change others)

/-- Adds an item under a dotted key. Tables on the way are made if they do not exist. The table
that the item goes to has to be one of dotted keys. -/
def Entries.addDotted (key : String) (item : Item) (entries : Entries) :
    List String → Option Entries
  | [] => if (entries.item? key).isSome then none else some (entries ++ [(key, item)])
  | first :: rest =>
      match entries.item? first with
      | none => do
          let inner ← Entries.addDotted key item [] rest
          return entries.put first (.table .dottedKey inner)
      | some (.table .dottedKey inner) => do
          let inner ← Entries.addDotted key item inner rest
          return entries.put first (.table .dottedKey inner)
      | some (.table .path inner) => do
          guard (rest ≠ [])
          let inner ← Entries.addDotted key item inner rest
          return entries.put first (.table .path inner)
      | some (.tables elements) => do
          guard (rest ≠ [])
          let elements ← changeLast (Entries.addDotted key item · rest) elements
          return entries.put first (.tables elements)
      | some _ => none

/-- Changes the table at the end of a path of headers. Tables on the way are made if they do not
exist; the tables of a double-bracket header are entered at the last one. -/
def Entries.within (change : Entries → Option Entries) (entries : Entries) :
    List String → Option Entries
  | [] => change entries
  | first :: rest =>
      match entries.item? first with
      | none => do
          let inner ← Entries.within change [] rest
          return entries.put first (.table .path inner)
      | some (.table .inline _) => none
      | some (.table origin inner) => do
          let inner ← Entries.within change inner rest
          return entries.put first (.table origin inner)
      | some (.tables elements) => do
          let elements ← changeLast (Entries.within change · rest) elements
          return entries.put first (.tables elements)
      | some _ => none

/-- Opens the table of a header. It must be new, or so far only on the way to another one. -/
def Entries.openTable (key : String) (entries : Entries) : Option Entries :=
  match entries.item? key with
  | none => some (entries ++ [(key, .table .header [])])
  | some (.table .path inner) => some (entries.put key (.table .header inner))
  | some _ => none

/-- Opens one more table of a double-bracket header. -/
def Entries.openElement (key : String) (entries : Entries) : Option Entries :=
  match entries.item? key with
  | none => some (entries ++ [(key, .tables [[]])])
  | some (.tables elements) => some (entries.put key (.tables (elements ++ [[]])))
  | some _ => none

/-- A key of one or more parts. -/
structure Key where
  path : List String
  name : String
deriving DecidableEq, Repr, Inhabited

def Key.parts (key : Key) : List String :=
  key.path ++ [key.name]

/-- A statement of a document. -/
inductive Statement where
  /-- An item for a key. -/
  | entry (key : Key) (item : Item)
  | table (key : Key)
  /-- A double-bracket header. -/
  | element (key : Key)
deriving Repr, Inhabited

/-- The table of an inline table's items. -/
def inlineTable? (items : List (Key × Item)) : Option Item := do
  let entries ← items.foldlM
    (fun entries (key, item) => Entries.addDotted key.name item entries key.path) []
  return .table .inline entries

/-- A document and the path of the table that its next entries go to. -/
structure Draft where
  entries : Entries := []
  current : List String := []
deriving Inhabited

/-- Adds a statement to a document. -/
def Draft.add? (draft : Draft) : Statement → Option Draft
  | .entry key item => do
      let entries ← Entries.within (Entries.addDotted key.name item · key.path) draft.entries
        draft.current
      return { draft with entries }
  | .table key => do
      let entries ← Entries.within (Entries.openTable key.name) draft.entries key.path
      return { entries, current := key.parts }
  | .element key => do
      let entries ← Entries.within (Entries.openElement key.name) draft.entries key.path
      return { entries, current := key.parts }

def document? (statements : List Statement) : Option Entries := do
  let draft ← statements.foldlM Draft.add? {}
  return draft.entries

end CppTemplates.Toml
