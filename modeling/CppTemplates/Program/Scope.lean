import CppTemplates.Program.Id

/-!
# Scopes and contexts

Scopes form a tree. A scope is created inside its parent, so its number is greater than its
parent's, and a walk outwards ends at the global scope, which is scope zero. A name can have
several candidates in a scope, in the order of their declaration.

A context says where a declaration or expression lives: which scope it starts its lookups from and
which namespace, template and class scope enclose it.
-/

namespace CppTemplates

/-- What a scope belongs to. -/
inductive ScopeKind where
  | namespaceScope
  | templateScope
  | classScope
  | functionScope
  | blockScope
deriving DecidableEq, Repr, Inhabited

namespace ScopeKind

def all : List ScopeKind :=
  [.namespaceScope, .templateScope, .classScope, .functionScope, .blockScope]

def name : ScopeKind → String
  | .namespaceScope => "namespace"
  | .templateScope => "template"
  | .classScope => "class"
  | .functionScope => "function"
  | .blockScope => "block"

def ofName? (name : String) : Option ScopeKind :=
  all.find? (·.name == name)

end ScopeKind

/-- The declarations of a scope: each declared name with its candidates, names and candidates in
the order of their declaration. -/
abbrev ScopeEntries := List (String × List SymbolId)

namespace ScopeEntries

/-- The candidates of a name, none if the name is not declared. -/
def candidates (entries : ScopeEntries) (name : String) : List SymbolId :=
  (List.lookup name entries).getD []

/-- Adds a last candidate to a name. -/
def insert (name : String) (symbol : SymbolId) : ScopeEntries → ScopeEntries
  | [] => [(name, [symbol])]
  | (declared, symbols) :: rest =>
      if declared = name then
        (declared, symbols ++ [symbol]) :: rest
      else
        (declared, symbols) :: insert name symbol rest

@[simp]
theorem candidates_nil (name : String) : candidates [] name = [] := rfl

theorem candidates_cons (declared name : String) (symbols : List SymbolId)
    (rest : ScopeEntries) :
    candidates ((declared, symbols) :: rest) name =
      if name = declared then symbols else candidates rest name := by
  by_cases same : name = declared
  · simp [candidates, same]
  · have different : (name == declared) = false := by simpa using same
    simp [candidates, List.lookup_cons, same, different]

/-- A new candidate comes last among those of its name and changes no other name. -/
theorem candidates_insert (entries : ScopeEntries) (name other : String) (symbol : SymbolId) :
    candidates (insert name symbol entries) other =
      if other = name then candidates entries name ++ [symbol] else candidates entries other := by
  induction entries with
  | nil => simp [insert, candidates_cons]
  | cons entry rest ih =>
      obtain ⟨declared, symbols⟩ := entry
      by_cases same : declared = name
      · subst same
        by_cases hit : other = declared <;> simp [insert, candidates_cons, hit]
      · have notName : name ≠ declared := fun equal => same equal.symm
        by_cases hit : other = declared
        · subst hit
          simp [insert, candidates_cons, same]
        · simp [insert, candidates_cons, same, notName, hit, ih]

theorem insert_eq_append {entries : ScopeEntries} {name : String}
    (isNew : name ∉ entries.map (·.1)) (symbol : SymbolId) :
    insert name symbol entries = entries ++ [(name, [symbol])] := by
  induction entries with
  | nil => rfl
  | cons entry rest ih =>
      obtain ⟨declared, symbols⟩ := entry
      simp only [List.map_cons, List.mem_cons, not_or] at isNew
      have different : declared ≠ name := fun same => isNew.1 same.symm
      simp only [insert, different, if_false, List.cons_append, List.cons.injEq, true_and]
      exact ih isNew.2

end ScopeEntries

structure Scope where
  /-- The enclosing scope; the global scope has none. -/
  parent : Option ScopeId := none
  kind : ScopeKind
  /-- The class or namespace whose members the scope holds. -/
  owner : Option SymbolId := none
  entries : ScopeEntries := []
deriving DecidableEq, Repr, Inhabited

/-- Properties of everything declared in a context. -/
structure ContextFlags where
  /-- Declarations are part of a template. -/
  template : Bool := false
  /-- Declarations are part of an explicit specialization. -/
  explicitSpecialization : Bool := false
  /-- Declarations are being rebuilt for an instantiation. -/
  instantiating : Bool := false
deriving DecidableEq, Repr, Inhabited

/-- Where a declaration or expression lives. -/
structure DeclContext where
  globalScope : ScopeId
  /-- The innermost enclosing namespace scope. -/
  namespaceScope : ScopeId
  /-- The scope that new names are declared in and that lookup starts from. -/
  currentScope : ScopeId
  /-- The scope of the template parameters or injected template arguments. -/
  templateScope : Option ScopeId := none
  /-- The innermost enclosing class scope. -/
  classScope : Option ScopeId := none
  flags : ContextFlags := {}
  /-- The number of enclosing template declarations. -/
  templateNesting : Nat := 0
deriving DecidableEq, Repr, Inhabited

/-- The scopes of a translation unit; the first is the global scope. -/
structure ScopeTree where
  /-- The scopes in order of creation. -/
  scopes : Array Scope := #[{ kind := .namespaceScope }]
deriving DecidableEq, Repr

namespace ScopeTree

instance : Inhabited ScopeTree := ⟨{}⟩

def global : ScopeId :=
  ⟨0⟩

/-- The context of declarations at global scope. -/
def globalContext : DeclContext where
  globalScope := global
  namespaceScope := global
  currentScope := global

variable (tree : ScopeTree)

/-- The scope with a number; unused numbers stand for an empty scope. -/
def scope (id : ScopeId) : Scope :=
  tree.scopes[id.index]?.getD default

def createChild (parent : ScopeId) (kind : ScopeKind) (owner : Option SymbolId := none) :
    ScopeId × ScopeTree :=
  (⟨tree.scopes.size⟩, ⟨tree.scopes.push { parent := some parent, kind, owner }⟩)

def insert (scope : ScopeId) (name : String) (symbol : SymbolId) : ScopeTree :=
  ⟨tree.scopes.modify scope.index fun scope =>
    { scope with entries := scope.entries.insert name symbol }⟩

/-- The candidates that a scope itself declares for a name. -/
def lookupLocal (scope : ScopeId) (name : String) : List SymbolId :=
  (tree.scope scope).entries.candidates name

/-- The candidates of the innermost enclosing scope that declares the name. The walk outwards
goes on as long as parents have smaller numbers, as all created scopes' parents do. -/
def lookup (scope : ScopeId) (name : String) : List SymbolId :=
  match tree.lookupLocal scope name with
  | [] =>
      match (tree.scope scope).parent with
      | some parent => if parent.index < scope.index then lookup parent name else []
      | none => []
  | found => found
termination_by scope.index

/-- A context inside `context` with a fresh scope for template parameters. Names declared inside
see the template parameters before the enclosing declarations. -/
def newTemplateContext (context : DeclContext) : DeclContext × ScopeTree :=
  let (scope, tree) := tree.createChild context.currentScope .templateScope
  ({ context with currentScope := scope, templateScope := some scope }, tree)

/-- A context inside `context` for the members of a class. -/
def newClassContext (context : DeclContext) (owner : SymbolId) : DeclContext × ScopeTree :=
  let (scope, tree) := tree.createChild context.currentScope .classScope (some owner)
  ({ context with currentScope := scope, classScope := some scope }, tree)

/-- A context inside `context` for the members of a namespace. -/
def newNamespaceContext (context : DeclContext) (owner : SymbolId) : DeclContext × ScopeTree :=
  let (scope, tree) := tree.createChild context.currentScope .namespaceScope (some owner)
  ({ context with currentScope := scope, namespaceScope := scope }, tree)

/-- A context inside `context` for a function body or a block. -/
def newBlockContext (context : DeclContext) (kind : ScopeKind) : DeclContext × ScopeTree :=
  let (scope, tree) := tree.createChild context.currentScope kind
  ({ context with currentScope := scope }, tree)

variable {tree : ScopeTree}

@[simp]
theorem size_createChild (parent : ScopeId) (kind : ScopeKind) (owner : Option SymbolId) :
    (tree.createChild parent kind owner).2.scopes.size = tree.scopes.size + 1 := by
  simp [createChild]

theorem scope_createChild_of_lt {id : ScopeId} (bound : id.index < tree.scopes.size)
    (parent : ScopeId) (kind : ScopeKind) (owner : Option SymbolId) :
    (tree.createChild parent kind owner).2.scope id = tree.scope id := by
  have notLast : id.index ≠ tree.scopes.size := Nat.ne_of_lt bound
  simp [scope, createChild, Array.getElem?_push, notLast]

@[simp]
theorem scope_createChild_self (parent : ScopeId) (kind : ScopeKind) (owner : Option SymbolId) :
    (tree.createChild parent kind owner).2.scope (tree.createChild parent kind owner).1 =
      { parent := some parent, kind, owner } := by
  simp [scope, createChild]

@[simp]
theorem size_insert (scope : ScopeId) (name : String) (symbol : SymbolId) :
    (tree.insert scope name symbol).scopes.size = tree.scopes.size := by
  simp [insert]

theorem scope_insert_of_ne {scope id : ScopeId} (other : id ≠ scope) (name : String)
    (symbol : SymbolId) : (tree.insert scope name symbol).scope id = tree.scope id := by
  have otherIndex : scope.index ≠ id.index := fun same =>
    other (by cases id; cases scope; simp_all)
  simp [ScopeTree.scope, insert, Array.getElem?_modify, otherIndex]

theorem scope_insert_self {scope : ScopeId} (bound : scope.index < tree.scopes.size)
    (name : String) (symbol : SymbolId) :
    (tree.insert scope name symbol).scope scope =
      { tree.scope scope with entries := (tree.scope scope).entries.insert name symbol } := by
  simp only [ScopeTree.scope, insert, Array.getElem?_modify, if_true]
  simp [bound]

end ScopeTree

end CppTemplates
