import CppTemplates.Program.Symbol
import CppTemplates.Program.Type

/-!
# Programs

A program holds the scopes, symbols and types of a translation unit. This module has the
operations that everything else is made of: reading, changing and creating a symbol or a type.
-/

namespace CppTemplates

/-- The scopes, symbols and types of a translation unit. -/
structure Program where
  scopes : ScopeTree := {}
  symbols : Array SymbolEntry := #[]
  types : Array Ty := #[]
deriving DecidableEq, Repr

namespace Program

instance : Inhabited Program := ⟨{}⟩

variable (program : Program)

/-- The symbol with a number; unused numbers stand for an undefined variable without a value. -/
def entry (id : SymbolId) : SymbolEntry :=
  program.symbols[id.index]?.getD default

/-- The type with a number; unused numbers stand for a fundamental type. -/
def type (id : TypeId) : Ty :=
  program.types[id.index]?.getD default

def symbolName (id : SymbolId) : String :=
  (program.entry id).name

def modifyEntry (id : SymbolId) (change : SymbolEntry → SymbolEntry) : Program :=
  { program with symbols := program.symbols.modify id.index change }

def modifyType (id : TypeId) (change : Ty → Ty) : Program :=
  { program with types := program.types.modify id.index change }

def newType (type : Ty) : TypeId × Program :=
  (⟨program.types.size⟩, { program with types := program.types.push type })

def newNamedType (symbol : SymbolId) : TypeId × Program :=
  program.newType (.named symbol)

def newTypedef (type : TypeId) : TypeId × Program :=
  program.newType (.typedefOf type)

/-- Adds a symbol that no scope lists yet. -/
def addEntry (entry : SymbolEntry) : SymbolId × Program :=
  (⟨program.symbols.size⟩, { program with symbols := program.symbols.push entry })

/-- Lists a symbol in a scope. -/
def signIn (scope : ScopeId) (name : String) (symbol : SymbolId) : Program :=
  { program with scopes := program.scopes.insert scope name symbol }

/-- Creates a symbol that lookup cannot find. Specializations of templates are such: they are
reached through their template. -/
def newUnscopedSymbol (context : DeclContext) (name : String) (kind : SymbolKind) :
    SymbolId × Program :=
  program.addEntry { name, kind, declContext := context, scope := context.currentScope }

/-- Creates a symbol in a scope. -/
def newSymbol (context : DeclContext) (scope : ScopeId) (name : String) (kind : SymbolKind) :
    SymbolId × Program :=
  let (id, program) := program.addEntry { name, kind, declContext := context, scope }
  (id, program.signIn scope name id)

/-- Creates a symbol in a scope that is like another under the same name. -/
def copySymbolInto (source : SymbolId) (scope : ScopeId) : SymbolId × Program :=
  let (id, copied) := program.addEntry { program.entry source with scope }
  (id, copied.signIn scope (program.symbolName source) id)

/-- One line per listed symbol of a scope that is not hidden, for logs. -/
def describeScope (scope : ScopeId) : String :=
  String.join <| (program.scopes.scope scope).entries.flatMap fun (name, candidates) =>
    (candidates.filter fun candidate => !(program.entry candidate).hidden).map fun candidate =>
      name ++ " (" ++ (program.entry candidate).kind.name ++ ")\n"

variable {program}

@[simp]
theorem entry_newType (type : Ty) (id : SymbolId) :
    (program.newType type).2.entry id = program.entry id := rfl

@[simp]
theorem type_newType_self (type : Ty) :
    (program.newType type).2.type (program.newType type).1 = type := by
  simp [newType, Program.type]

theorem type_newType_of_lt {id : TypeId} (bound : id.index < program.types.size) (type : Ty) :
    (program.newType type).2.type id = program.type id := by
  have notLast : id.index ≠ program.types.size := Nat.ne_of_lt bound
  simp [newType, Program.type, Array.getElem?_push, notLast]

@[simp]
theorem type_modifyEntry (symbol : SymbolId) (change : SymbolEntry → SymbolEntry) (id : TypeId) :
    (program.modifyEntry symbol change).type id = program.type id := rfl

theorem entry_modifyEntry_of_ne {symbol id : SymbolId} (other : id ≠ symbol)
    (change : SymbolEntry → SymbolEntry) :
    (program.modifyEntry symbol change).entry id = program.entry id := by
  have otherIndex : symbol.index ≠ id.index := fun same =>
    other (by cases id; cases symbol; simp_all)
  simp [entry, modifyEntry, Array.getElem?_modify, otherIndex]

theorem entry_modifyEntry_self {symbol : SymbolId} (bound : symbol.index < program.symbols.size)
    (change : SymbolEntry → SymbolEntry) :
    (program.modifyEntry symbol change).entry symbol = change (program.entry symbol) := by
  simp only [entry, modifyEntry, Array.getElem?_modify, if_true]
  simp [bound]

@[simp]
theorem size_modifyEntry (symbol : SymbolId) (change : SymbolEntry → SymbolEntry) :
    (program.modifyEntry symbol change).symbols.size = program.symbols.size := by
  simp [modifyEntry]

@[simp]
theorem entry_modifyType (type : TypeId) (change : Ty → Ty) (id : SymbolId) :
    (program.modifyType type change).entry id = program.entry id := rfl

theorem type_modifyType_of_ne {type id : TypeId} (other : id ≠ type) (change : Ty → Ty) :
    (program.modifyType type change).type id = program.type id := by
  have otherIndex : type.index ≠ id.index := fun same =>
    other (by cases id; cases type; simp_all)
  simp [Program.type, modifyType, Array.getElem?_modify, otherIndex]

theorem type_modifyType_self {type : TypeId} (bound : type.index < program.types.size)
    (change : Ty → Ty) :
    (program.modifyType type change).type type = change (program.type type) := by
  simp only [Program.type, modifyType, Array.getElem?_modify, if_true]
  simp [bound]

@[simp]
theorem size_modifyType (type : TypeId) (change : Ty → Ty) :
    (program.modifyType type change).types.size = program.types.size := by
  simp [modifyType]

@[simp]
theorem entry_signIn (scope : ScopeId) (name : String) (symbol id : SymbolId) :
    (program.signIn scope name symbol).entry id = program.entry id := rfl

@[simp]
theorem type_signIn (scope : ScopeId) (name : String) (symbol : SymbolId) (id : TypeId) :
    (program.signIn scope name symbol).type id = program.type id := rfl

@[simp]
theorem entry_addEntry_self (added : SymbolEntry) :
    (program.addEntry added).2.entry (program.addEntry added).1 = added := by
  simp [addEntry, entry]

theorem entry_addEntry_of_lt {id : SymbolId} (bound : id.index < program.symbols.size)
    (added : SymbolEntry) : (program.addEntry added).2.entry id = program.entry id := by
  have notLast : id.index ≠ program.symbols.size := Nat.ne_of_lt bound
  simp [addEntry, entry, Array.getElem?_push, notLast]

@[simp]
theorem type_addEntry (added : SymbolEntry) (id : TypeId) :
    (program.addEntry added).2.type id = program.type id := rfl

@[simp]
theorem size_addEntry (added : SymbolEntry) :
    (program.addEntry added).2.symbols.size = program.symbols.size + 1 := by
  simp [addEntry]

/-- Only types of the program are other than fundamental. -/
theorem index_lt_of_type_ne_default {id : TypeId} (notDefault : program.type id ≠ default) :
    id.index < program.types.size := by
  apply Nat.lt_of_not_le
  intro outside
  apply notDefault
  simp [Program.type, Array.getElem?_eq_none outside]

end Program

end CppTemplates
