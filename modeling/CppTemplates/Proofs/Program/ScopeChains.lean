import Mathlib.Logic.Relation
import CppTemplates.Proofs.Program.Lookup

/-!
# Chains of scopes

From scope to parent a chain leads outwards.  If every scope but the global one has an older parent,
every chain ends at the global scope, so a walk along it needs no bound, and looking up a name finds
what the nearest enclosing scope declares for it.
-/

namespace CppTemplates

namespace ScopeTree

/-- A scope is another one or encloses it. -/
def Encloses (tree : ScopeTree) (outer inner : ScopeId) : Prop :=
  Relation.ReflTransGen (fun scope parent => (tree.scope scope).parent = some parent) inner outer

/-- There is a global scope, and every other scope has a parent that is older. -/
structure IsNested (tree : ScopeTree) : Prop where
  size_pos : 0 < tree.scopes.size
  global_parent : (tree.scope global).parent = none
  global_kind : (tree.scope global).kind = .namespaceScope
  exists_parent : ∀ scope : ScopeId, scope ≠ global → scope.index < tree.scopes.size →
    ∃ parent, (tree.scope scope).parent = some parent ∧ parent.index < scope.index

/-- The walk that looks up a name: outwards from scope to scope, up to one that declares the name or
has no parent. -/
inductive Walks (tree : ScopeTree) (name : String) : ScopeId → List SymbolId → Prop
  | declared {scope : ScopeId} (declares : tree.lookupLocal scope name ≠ []) :
      Walks tree name scope (tree.lookupLocal scope name)
  | outwards {scope parent : ScopeId} {found : List SymbolId}
      (missing : tree.lookupLocal scope name = [])
      (enclosed : (tree.scope scope).parent = some parent) (walks : Walks tree name parent found) :
      Walks tree name scope found
  | undeclared {scope : ScopeId} (missing : tree.lookupLocal scope name = [])
      (outermost : (tree.scope scope).parent = none) : Walks tree name scope []

/-- Of the scopes that a scope is or is enclosed by, the nearest one that declares a name. -/
structure IsNearest (tree : ScopeTree) (name : String) (scope nearest : ScopeId) : Prop where
  encloses : tree.Encloses nearest scope
  declares : tree.lookupLocal nearest name ≠ []
  nearest : ∀ outer, tree.Encloses outer scope → tree.lookupLocal outer name ≠ [] →
    tree.Encloses outer nearest

/-- Looking up a name ends.  It finds what the nearest scope declares that declares the name, and
nothing exactly if no scope on the chain does. -/
structure FindsNearest (tree : ScopeTree) (name : String) (scope : ScopeId) : Prop where
  walks : tree.Walks name scope (tree.lookup scope name)
  lookup_eq : ∀ nearest, tree.IsNearest name scope nearest →
    tree.lookup scope name = tree.lookupLocal nearest name
  exists_nearest : tree.lookup scope name ≠ [] → ∃ nearest, tree.IsNearest name scope nearest
  eq_nil_iff : tree.lookup scope name = [] ↔
    ∀ outer, tree.Encloses outer scope → tree.lookupLocal outer name = []

variable {tree : ScopeTree} {scope parent inner outer : ScopeId} {name : String}
variable {found : List SymbolId}

theorem index_lt_of_parent (enclosed : (tree.scope scope).parent = some parent) :
    scope.index < tree.scopes.size := by
  apply Nat.lt_of_not_le
  intro outside
  rw [ScopeTree.scope, Array.getElem?_eq_none outside] at enclosed
  cases enclosed

namespace Encloses

theorem refl (tree : ScopeTree) (scope : ScopeId) : tree.Encloses scope scope :=
  Relation.ReflTransGen.refl

theorem of_parent (enclosed : (tree.scope scope).parent = some parent)
    (encloses : tree.Encloses outer parent) : tree.Encloses outer scope :=
  Relation.ReflTransGen.head enclosed encloses

theorem eq_or_parent (encloses : tree.Encloses outer scope) :
    outer = scope ∨ ∃ parent, (tree.scope scope).parent = some parent ∧
      tree.Encloses outer parent := by
  rcases Relation.ReflTransGen.cases_head encloses with same | ⟨parent, enclosed, rest⟩
  · exact .inl same.symm
  · exact .inr ⟨parent, enclosed, rest⟩

end Encloses

namespace Walks

theorem isNearest (walks : tree.Walks name scope found) (isFound : found ≠ []) :
    ∃ nearest, tree.IsNearest name scope nearest ∧ found = tree.lookupLocal nearest name := by
  induction walks with
  | @declared scope declares =>
      exact ⟨scope, ⟨.refl tree scope, declares, fun _ encloses _ => encloses⟩, rfl⟩
  | undeclared => exact absurd rfl isFound
  | outwards missing enclosed _ ih =>
      obtain ⟨nearest, isNearest, same⟩ := ih isFound
      refine ⟨nearest, ⟨isNearest.encloses.of_parent enclosed, isNearest.declares, ?_⟩, same⟩
      intro outer encloses declares
      rcases encloses.eq_or_parent with rfl | ⟨other, again, rest⟩
      · exact absurd missing declares
      · cases enclosed.symm.trans again
        exact isNearest.nearest outer rest declares

theorem eq_nil_iff (walks : tree.Walks name scope found) :
    found = [] ↔ ∀ outer, tree.Encloses outer scope → tree.lookupLocal outer name = [] := by
  constructor
  · intro isEmpty
    induction walks with
    | declared declares => exact absurd isEmpty declares
    | undeclared missing outermost =>
        intro outer encloses
        rcases encloses.eq_or_parent with rfl | ⟨parent, enclosed, -⟩
        · exact missing
        · rw [outermost] at enclosed
          cases enclosed
    | outwards missing enclosed _ ih =>
        intro outer encloses
        rcases encloses.eq_or_parent with rfl | ⟨other, again, rest⟩
        · exact missing
        · cases enclosed.symm.trans again
          exact ih isEmpty outer rest
  · intro noneDeclares
    by_cases isEmpty : found = []
    · exact isEmpty
    · obtain ⟨nearest, isNearest, -⟩ := walks.isNearest isEmpty
      exact absurd (noneDeclares nearest isNearest.encloses) isNearest.declares

end Walks

namespace IsNested

theorem parent_lt (nested : tree.IsNested) (enclosed : (tree.scope scope).parent = some parent) :
    parent.index < scope.index := by
  by_cases isGlobal : scope = global
  · rw [isGlobal, nested.global_parent] at enclosed
    cases enclosed
  · have bound := index_lt_of_parent enclosed
    obtain ⟨other, again, older⟩ := nested.exists_parent scope isGlobal bound
    cases enclosed.symm.trans again
    exact older

theorem index_le (nested : tree.IsNested) (encloses : tree.Encloses outer inner) :
    outer.index ≤ inner.index := by
  induction encloses with
  | refl => exact Nat.le_refl _
  | tail _ enclosed ih => exact Nat.le_trans (Nat.le_of_lt (nested.parent_lt enclosed)) ih

theorem encloses_antisymm (nested : tree.IsNested) (encloses : tree.Encloses outer inner)
    (enclosed : tree.Encloses inner outer) : outer = inner := by
  have sameIndex := Nat.le_antisymm (nested.index_le encloses) (nested.index_le enclosed)
  cases outer
  cases inner
  exact congrArg _ sameIndex

theorem global_encloses (nested : tree.IsNested) (scope : ScopeId)
    (bound : scope.index < tree.scopes.size) : tree.Encloses global scope := by
  by_cases isGlobal : scope = global
  · rw [isGlobal]
    exact .refl tree global
  · obtain ⟨parent, enclosed, older⟩ := nested.exists_parent scope isGlobal bound
    exact (global_encloses nested parent (Nat.lt_trans older bound)).of_parent enclosed
termination_by scope.index

/-- The walk that looks up a name ends, and lookup gives what it finds. -/
theorem walks_lookup (nested : tree.IsNested) (name : String) (scope : ScopeId) :
    tree.Walks name scope (tree.lookup scope name) := by
  by_cases missing : tree.lookupLocal scope name = []
  · cases atParent : (tree.scope scope).parent with
    | none =>
        rw [lookup]
        simp only [missing, atParent]
        exact .undeclared missing atParent
    | some parent =>
        -- lookup goes on only at a parent that is older, which every parent is
        have older := nested.parent_lt atParent
        rw [lookup_of_parent missing atParent older]
        exact .outwards missing atParent (walks_lookup nested name parent)
  · rw [lookup_of_local missing]
    exact .declared missing
termination_by scope.index

theorem findsNearest (nested : tree.IsNested) (name : String) (scope : ScopeId) :
    tree.FindsNearest name scope := by
  have walks := nested.walks_lookup name scope
  refine ⟨walks, fun nearest isNearest => ?_, fun isFound => ?_, walks.eq_nil_iff⟩
  · have isFound : tree.lookup scope name ≠ [] := fun isEmpty =>
      isNearest.declares (walks.eq_nil_iff.mp isEmpty nearest isNearest.encloses)
    obtain ⟨found, isFirst, same⟩ := walks.isNearest isFound
    rw [same, nested.encloses_antisymm
      (isNearest.nearest found isFirst.encloses isFirst.declares)
      (isFirst.nearest nearest isNearest.encloses isNearest.declares)]
  · obtain ⟨nearest, isNearest, -⟩ := walks.isNearest isFound
    exact ⟨nearest, isNearest⟩

end IsNested

end ScopeTree

end CppTemplates
