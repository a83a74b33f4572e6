import CppTemplates.Proofs.Program.Completion
import CppTemplates.Proofs.Program.Lookup
import CppTemplates.Proofs.Program.QualifiedNames

/-!
# Scopes that name themselves

A scope may declare a name that opens the scope itself, as the scope of a class does with the name
of the class.  Then the name may be repeated in a qualified name as often as one likes: each time
the lookup is back in the scope, and the last component is looked up there.
-/

namespace CppTemplates

/-- A qualified id without a leading `::` spells some names. -/
structure SyntaxTree.SpellsPath (tree : SyntaxTree) (id : NodeId) (names : List String) : Prop where
  kind : (tree.node id).kind = .qualifiedId
  components : List.Forall₂ tree.SpellsName (tree.node id).children names

theorem SyntaxTree.SpellsPath.isPath {tree : SyntaxTree} {id : NodeId} {names : List String}
    (spells : tree.SpellsPath id names) (context : DeclContext) :
    tree.IsPath context id none (tree.node id).children := by
  refine .relative rfl fun first isFirst isGlobal => ?_
  have components := spells.components
  cases isChildren : (tree.node id).children with
  | nil => simp [isChildren] at isFirst
  | cons component rest =>
      rw [isChildren] at isFirst components
      cases isFirst
      cases components with
      | cons spellsFirst _ =>
          rw [spellsFirst.kind] at isGlobal
          cases isGlobal

namespace Program

variable {program : Program} {tree : SyntaxTree} {context : DeclContext} {id : NodeId}
variable {name member : String} {scope : ScopeId}

theorem OpensScope.of_classOf? {symbol : SymbolId} {type : TypeId} {data : ClassType}
    {inner : DeclContext}
    (kind : (program.entry symbol).kind = .className ∨ (program.entry symbol).kind = .typedefName)
    (isClassOf : program.classOf? symbol = some type)
    (isClass : program.type type = .classType data) (recorded : data.innerContext = some inner) :
    program.OpensScope symbol inner.currentScope := by
  obtain ⟨own, typed, actual⟩ := Option.bind_eq_some_iff.mp isClassOf
  have hasData : program.classData? own = some data :=
    classData?_eq_some_iff.mpr ⟨type, actual, isClass⟩
  exact .ofClass kind typed (classData?_eq_some_iff_denotesClass.mp hasData) recorded

/-- The first candidate of a name in a scope opens that scope. -/
def NamesItself (program : Program) (name : String) (scope : ScopeId) : Prop :=
  ∃ first others, program.scopes.lookupLocal scope name = first :: others ∧
    program.OpensScope first scope

/-- Behind a scope, components that repeat its name lead back to it. -/
theorem NamesItself.passes (names : program.NamesItself name scope) {count : Nat}
    {components : List NodeId}
    (spells : List.Forall₂ tree.SpellsName components (List.replicate count name)) :
    program.Passes tree context (some scope) components (some scope) := by
  obtain ⟨first, others, found, opens⟩ := names
  induction count generalizing components with
  | zero =>
      cases spells
      exact .nil (some scope)
  | succ count ih =>
      rw [List.replicate_succ] at spells
      cases spells with
      | cons spellsFirst spellsRest =>
          exact .cons spellsFirst (finds_iff.mpr found) opens (ih spellsRest)

/-- A component whose first candidate opens the scope leads there, and so do repetitions of the
name of the scope behind it. -/
theorem NamesItself.passes_behind (names : program.NamesItself name scope) {entrance : String}
    {first : SymbolId} {others : List SymbolId}
    (found : program.scopes.lookup context.currentScope entrance = first :: others)
    (opens : program.OpensScope first scope) {count : Nat} {components : List NodeId}
    (spells : List.Forall₂ tree.SpellsName components (entrance :: List.replicate count name)) :
    program.Passes tree context none components (some scope) := by
  cases spells with
  | cons spellsFirst spellsRest =>
      exact .cons spellsFirst (finds_iff.mpr found) opens (names.passes spellsRest)

theorem queryIdExpression_of_passes {names : List String}
    (spells : tree.SpellsPath id (names ++ [member]))
    (passes : ∀ components, List.Forall₂ tree.SpellsName components names →
      program.Passes tree context none components (some scope)) :
    program.queryIdExpression tree context id =
      .ok (program.scopes.lookupLocal scope member) := by
  have passesAll := passes _ (List.forall₂_take_append _ _ _ spells.components)
  have spellsLast := List.forall₂_drop_append _ _ _ spells.components
  rw [queryIdExpression_eq_resolvePath spells.kind (spells.isPath context),
    ← List.take_append_drop names.length (tree.node id).children]
  generalize List.drop names.length (tree.node id).children = last at spellsLast ⊢
  cases spellsLast with
  | cons spellsMember spellsNone =>
      cases spellsNone
      rw [passesAll.resolvePath_append (List.cons_ne_nil _ _),
        resolvePath_last (SyntaxTree.componentName_eq_ok_iff.mpr spellsMember)]
      rfl

/-- The name of a class leads back to the class.  From the context for its members, the name may be
repeated any number of times, and what is looked up behind it is what the scope of the members
declares.  The same is found behind a typedef of the class, with or without such repetitions. -/
structure LeadsBack (program : Program) (type : TypeId) (name : String) (inner : DeclContext) :
    Prop where
  fromInside : ∀ (tree : SyntaxTree) (context : DeclContext) (id : NodeId) (count : Nat)
    (member : String), context.currentScope = inner.currentScope → 1 ≤ count →
      tree.SpellsPath id (List.replicate count name ++ [member]) →
        program.queryIdExpression tree context id =
          .ok (program.scopes.lookupLocal inner.currentScope member)
  throughTypedef : ∀ (tree : SyntaxTree) (context : DeclContext) (id : NodeId) (synonym : String)
    (first : SymbolId) (others : List SymbolId) (count : Nat) (member : String),
      program.scopes.lookup context.currentScope synonym = first :: others →
        (program.entry first).kind = .typedefName → program.classOf? first = some type →
          tree.SpellsPath id (synonym :: List.replicate count name ++ [member]) →
            program.queryIdExpression tree context id =
              .ok (program.scopes.lookupLocal inner.currentScope member)

/-- It is enough that the first candidate of the name in the scope of the members is the class. -/
theorem LeadsBack.of_first {type : TypeId} {data : ClassType} {inner : DeclContext}
    (isClass : program.type type = .classType data) (recorded : data.innerContext = some inner)
    {first : SymbolId} {others : List SymbolId}
    (found : program.scopes.lookupLocal inner.currentScope name = first :: others)
    (kind : (program.entry first).kind = .className)
    (isClassOf : program.classOf? first = some type) : program.LeadsBack type name inner := by
  have opens := OpensScope.of_classOf? (.inl kind) isClassOf isClass recorded
  have names : program.NamesItself name inner.currentScope := ⟨first, others, found, opens⟩
  constructor
  · intro tree context id count member atScope positive spells
    obtain ⟨count, rfl⟩ := Nat.exists_eq_add_of_le' positive
    refine queryIdExpression_of_passes spells fun components spellsPath => ?_
    -- The first repetition is looked up outwards, but found in the scope itself.
    have foundOutwards : program.scopes.lookup context.currentScope name = first :: others := by
      rw [atScope, ScopeTree.lookup_of_local (by simp [found]), found]
    exact names.passes_behind foundOutwards opens spellsPath
  · intro tree context id synonym typedef others count member foundTypedef kindTypedef ofTypedef
      spells
    have opensTypedef := OpensScope.of_classOf? (.inr kindTypedef) ofTypedef isClass recorded
    exact queryIdExpression_of_passes spells fun components spellsPath =>
      names.passes_behind foundTypedef opensTypedef spellsPath

end Program

end CppTemplates
