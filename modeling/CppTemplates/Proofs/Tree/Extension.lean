import Mathlib.Data.List.Forall2
import CppTemplates.Instantiation.Class

/-!
# Trees that grow

A syntax tree only ever grows at its end.  Adding nodes and copying subtrees leave every node that
was there as it was, so the positions of old nodes stay good.  A copy has the shape of its original,
and each of its nodes remembers which node it is a copy of.
-/

namespace CppTemplates

theorem getElem?_of_forall₂ {α β : Type} {related : α → β → Prop} {first : List α}
    {second : List β} (pairs : List.Forall₂ related first second) (index : Nat) :
    (first[index]? = none ∧ second[index]? = none) ∨
      ∃ left right, first[index]? = some left ∧ second[index]? = some right ∧
        related left right := by
  induction pairs generalizing index with
  | nil => exact .inl ⟨rfl, rfl⟩
  | @cons left right _ _ isRelated _ ih =>
      cases index with
      | zero => exact .inr ⟨left, right, rfl, rfl, isRelated⟩
      | succ index => exact ih index

namespace SyntaxTree

/-- One tree has all nodes of another, at the same positions. -/
structure Extends (before after : SyntaxTree) : Prop where
  size_le : before.size ≤ after.size
  node_eq : ∀ id : NodeId, id.index < before.size → after.node id = before.node id

theorem Extends.refl (tree : SyntaxTree) : tree.Extends tree :=
  ⟨Nat.le_refl _, fun _ _ => rfl⟩

theorem Extends.trans {first second third : SyntaxTree} (earlier : first.Extends second)
    (later : second.Extends third) : first.Extends third := by
  refine ⟨Nat.le_trans earlier.size_le later.size_le, fun id bound => ?_⟩
  rw [later.node_eq id (Nat.lt_of_lt_of_le bound earlier.size_le)]
  exact earlier.node_eq id bound

theorem extends_of_nodes {before after : SyntaxTree} (same : after.nodes = before.nodes) :
    before.Extends after where
  size_le := by simp [size, same]
  node_eq _ _ := by simp [node, same]

theorem extends_push (tree : SyntaxTree) (node : Node) : tree.Extends (tree.push node) :=
  ⟨by simp, fun _ bound => node_push_of_lt bound node⟩

theorem node_push_self (tree : SyntaxTree) {node : Node}
    (inTree : ∀ child ∈ node.children, child.index < tree.size) :
    (tree.push node).node ⟨tree.size⟩ = node := by
  obtain ⟨kind, text, children, span, origin⟩ := node
  have allKept : children.filter (·.index < tree.nodes.size) = children := by
    apply List.filter_eq_self.mpr
    intro child member
    exact decide_eq_true (inTree child member)
  simp [SyntaxTree.node, push, size, allKept]

theorem node_addLiteral (tree : SyntaxTree) (value : Value) :
    (tree.addLiteral value).2.node (tree.addLiteral value).1 = value.literalLeaf :=
  tree.node_push_self fun _ member => absurd member List.not_mem_nil

theorem extends_mapM {α : Type} (list : List α) (work : α → StateM SyntaxTree NodeId)
    (each : ∀ item ∈ list, ∀ tree : SyntaxTree, tree.Extends ((work item).run tree).2)
    (tree : SyntaxTree) : tree.Extends ((list.mapM work).run tree).2 := by
  induction list generalizing tree with
  | nil => exact Extends.refl tree
  | cons head tail ih =>
      rw [List.mapM_cons]
      have first := each head List.mem_cons_self tree
      have rest := ih (fun item member => each item (List.mem_cons_of_mem head member))
        ((work head).run tree).2
      exact first.trans rest

/-- What relates each item to the node made from it, and lasts while the tree grows, relates the
items to the nodes in the end. -/
theorem forall₂_mapM {α : Type} {source : SyntaxTree} {related : SyntaxTree → α → NodeId → Prop}
    (lasts : ∀ ⦃tree later : SyntaxTree⦄ ⦃item : α⦄ ⦃made : NodeId⦄, tree.Extends later →
      related tree item made → related later item made)
    (list : List α) (work : α → StateM SyntaxTree NodeId)
    (each : ∀ item ∈ list, ∀ current : SyntaxTree, source.Extends current →
      current.Extends ((work item).run current).2 ∧
        related ((work item).run current).2 item ((work item).run current).1)
    {current : SyntaxTree} (grows : source.Extends current) :
    current.Extends ((list.mapM work).run current).2 ∧
      List.Forall₂ (related ((list.mapM work).run current).2) list
        ((list.mapM work).run current).1 := by
  induction list generalizing current with
  | nil => exact ⟨Extends.refl current, .nil⟩
  | cons head tail ih =>
      obtain ⟨headGrows, headRelated⟩ := each head List.mem_cons_self current grows
      obtain ⟨tailGrows, tailRelated⟩ := ih
        (fun item member => each item (List.mem_cons_of_mem head member)) (grows.trans headGrows)
      rw [List.mapM_cons]
      exact ⟨headGrows.trans tailGrows, .cons (lasts tailGrows headRelated) tailRelated⟩

theorem extends_appendCopy (source : SyntaxTree) (id : NodeId) (tree : SyntaxTree) :
    tree.Extends ((source.appendCopy id).run tree).2 := by
  rw [appendCopy]
  have children := extends_mapM (source.node id).children.attach
    (fun child => source.appendCopy child.1)
    (fun child _ => extends_appendCopy source child.1) tree
  exact children.trans (extends_push _ _)
termination_by id.index
decreasing_by exact lt_of_mem_children child.2

theorem extends_copyTrees (tree : SyntaxTree) (trees : InstantiationTrees) :
    tree.Extends (tree.copyTrees trees).2 := by
  obtain ⟨members, bases⟩ := trees
  have copied : ∀ (tree : SyntaxTree) (id : NodeId),
      tree.Extends (tree.copyForInstantiation id).2 :=
    fun tree id => extends_appendCopy tree id tree
  cases members with
  | none =>
      cases bases with
      | none => exact Extends.refl tree
      | some bases => exact copied tree bases
  | some members =>
      cases bases with
      | none => exact copied tree members
      | some bases => exact (copied tree members).trans (copied _ bases)

theorem index_lt_of_node_ne_default {tree : SyntaxTree} {id : NodeId}
    (notDefault : tree.node id ≠ default) : id.index < tree.size := by
  apply Nat.lt_of_not_le
  intro outside
  apply notDefault
  simp [node, Array.getElem?_eq_none outside]

/-- A node is a copy of another one with all that is under it. -/
inductive IsCopy (tree : SyntaxTree) : NodeId → NodeId → Prop
  | node {original copy : NodeId} {copies : List NodeId} (inTree : original.index < tree.size)
      (atCopy : tree.node copy =
        { tree.node original with children := copies, origin := some original })
      (children : List.Forall₂ (IsCopy tree) (tree.node original).children copies) :
      IsCopy tree original copy

theorem IsCopy.index_lt {tree : SyntaxTree} {original copy : NodeId}
    (isCopy : tree.IsCopy original copy) : copy.index < tree.size := by
  obtain ⟨_, atCopy, _⟩ := isCopy
  apply index_lt_of_node_ne_default
  rw [atCopy]
  intro isDefault
  cases congrArg Node.origin isDefault

theorem IsCopy.later {tree later : SyntaxTree} (grows : tree.Extends later)
    {original copy : NodeId} (isCopy : tree.IsCopy original copy) :
    later.IsCopy original copy := by
  have bound := isCopy.index_lt
  obtain @⟨_, _, copies, inTree, atCopy, children⟩ := isCopy
  have sameOriginal := grows.node_eq original inTree
  have copied : List.Forall₂ later.IsCopy (tree.node original).children copies := by
    rw [List.forall₂_iff_zip] at children ⊢
    refine ⟨children.1, fun {child _} both => ?_⟩
    have younger := lt_of_mem_children (List.of_mem_zip both).1
    exact (children.2 both).later grows
  have atCopyLater : later.node copy =
      { later.node original with children := copies, origin := some original } := by
    rw [grows.node_eq copy bound, atCopy, sameOriginal]
  refine .node (Nat.lt_of_lt_of_le inTree grows.size_le) atCopyLater ?_
  rw [sameOriginal]
  exact copied
termination_by original.index

/-- The node at the top of a copy is a new one that remembers its original. -/
theorem origin_appendCopy (source : SyntaxTree) (id : NodeId) (tree : SyntaxTree) :
    tree.size ≤ ((source.appendCopy id).run tree).1.index ∧
      (((source.appendCopy id).run tree).2.node ((source.appendCopy id).run tree).1).origin =
        some id := by
  have atLast (grown : SyntaxTree) (node : Node) :
      ((grown.push node).node ⟨grown.size⟩).origin = node.origin := by
    simp [SyntaxTree.node, push, size]
  rw [appendCopy]
  have children := extends_mapM (source.node id).children.attach
    (fun child => source.appendCopy child.1)
    (fun child _ => extends_appendCopy source child.1) tree
  exact ⟨children.size_le, atLast _ _⟩

theorem isCopy_appendCopy {source : SyntaxTree} {id : NodeId} (inTree : id.index < source.size)
    {current : SyntaxTree} (grows : source.Extends current) :
    ((source.appendCopy id).run current).2.IsCopy id ((source.appendCopy id).run current).1 := by
  rw [appendCopy]
  have lasts ⦃tree later : SyntaxTree⦄ ⦃child : { child // child ∈ (source.node id).children }⦄
      ⦃copy : NodeId⦄ (more : tree.Extends later) (isCopy : tree.IsCopy child.1 copy) :
      later.IsCopy child.1 copy :=
    isCopy.later more
  obtain ⟨grown, children⟩ := forall₂_mapM lasts (source.node id).children.attach
    (fun child => source.appendCopy child.1)
    (fun child _ tree more => by
      have younger := lt_of_mem_children child.2
      exact ⟨extends_appendCopy source child.1 tree,
        isCopy_appendCopy (Nat.lt_trans younger inTree) more⟩) grows
  let made := ((source.node id).children.attach.mapM fun child =>
    source.appendCopy child.1).run current
  let copy : Node := { source.node id with children := made.1, origin := some id }
  change (made.2.push copy).IsCopy id ⟨made.2.size⟩
  have sameOriginal : (made.2.push copy).node id = source.node id :=
    (grows.trans (grown.trans (extends_push _ _))).node_eq id inTree
  have copied : List.Forall₂ made.2.IsCopy (source.node id).children made.1 := by
    rw [← List.attach_map_subtype_val (source.node id).children, List.forall₂_map_left_iff]
    exact children
  have copiesInTree : ∀ child ∈ made.1, child.index < made.2.size := by
    intro child member
    obtain ⟨index, bound, rfl⟩ := List.getElem_of_mem member
    exact (copied.get (copied.length_eq ▸ bound) bound).index_lt
  have atCopy : (made.2.push copy).node ⟨made.2.size⟩ =
      { (made.2.push copy).node id with children := made.1, origin := some id } := by
    rw [node_push_self made.2 copiesInTree, sameOriginal]
  refine .node ?_ atCopy ?_
  · exact Nat.lt_of_lt_of_le inTree (grows.trans (grown.trans (extends_push _ _))).size_le
  · rw [sameOriginal]
    exact copied.imp fun _ _ isCopy => isCopy.later (extends_push _ _)
termination_by id.index

/-- A node was added as a copy.  It is one if the original was in the tree. -/
structure Copied (source tree : SyntaxTree) (original copy : NodeId) : Prop where
  isNew : source.size ≤ copy.index
  origin : (tree.node copy).origin = some original
  isCopy : original.index < source.size → tree.IsCopy original copy

theorem Copied.later {source tree later : SyntaxTree} (grows : tree.Extends later)
    {original copy : NodeId} (copied : source.Copied tree original copy) :
    source.Copied later original copy := by
  have bound : copy.index < tree.size := by
    apply index_lt_of_node_ne_default
    intro isDefault
    have noOrigin : (tree.node copy).origin = none := congrArg Node.origin isDefault
    rw [copied.origin] at noOrigin
    cases noOrigin
  refine ⟨copied.isNew, ?_, fun inTree => (copied.isCopy inTree).later grows⟩
  rw [grows.node_eq copy bound]
  exact copied.origin

theorem Copied.rel_later {source tree later : SyntaxTree} (grows : tree.Extends later)
    {originals copies : Option NodeId} (copied : Option.Rel (source.Copied tree) originals copies) :
    Option.Rel (source.Copied later) originals copies := by
  cases copied with
  | some copied => exact .some (copied.later grows)
  | none => exact .none

theorem Copied.exists_original {source tree : SyntaxTree} {originals : Option NodeId}
    {copy : NodeId} (copied : Option.Rel (source.Copied tree) originals (some copy)) :
    ∃ original, originals = some original ∧ source.Copied tree original copy := by
  cases copied with
  | some copied => exact ⟨_, rfl, copied⟩

theorem Copied.map_toList_eq {source tree : SyntaxTree} {originals copies : Option NodeId}
    (copied : Option.Rel (source.Copied tree) originals copies) {α : Type} (item : α) :
    (copies.toList.map fun _ => item) = originals.toList.map fun _ => item := by
  cases copied with
  | some _ => rfl
  | none => rfl

theorem copied_copyForInstantiation {source tree : SyntaxTree} (grows : source.Extends tree)
    (id : NodeId) :
    source.Copied (tree.copyForInstantiation id).2 id (tree.copyForInstantiation id).1 := by
  obtain ⟨isNew, origin⟩ := origin_appendCopy tree id tree
  refine ⟨Nat.le_trans grows.size_le isNew, origin, fun inTree => ?_⟩
  exact isCopy_appendCopy (Nat.lt_of_lt_of_le inTree grows.size_le) (.refl tree)

theorem copied_copyTrees (tree : SyntaxTree) (trees : InstantiationTrees) :
    Option.Rel (tree.Copied (tree.copyTrees trees).2) trees.members
        (tree.copyTrees trees).1.members ∧
      Option.Rel (tree.Copied (tree.copyTrees trees).2) trees.bases
        (tree.copyTrees trees).1.bases := by
  obtain ⟨members, bases⟩ := trees
  cases members with
  | none =>
      cases bases with
      | none => exact ⟨.none, .none⟩
      | some bases => exact ⟨.none, .some (copied_copyForInstantiation (.refl tree) bases)⟩
  | some members =>
      have first := copied_copyForInstantiation (.refl tree) members
      have grows := extends_appendCopy tree members tree
      cases bases with
      | none => exact ⟨.some first, .none⟩
      | some bases =>
          have second := copied_copyForInstantiation grows bases
          exact ⟨.some (first.later (extends_appendCopy _ bases _)), .some second⟩

end SyntaxTree

end CppTemplates
