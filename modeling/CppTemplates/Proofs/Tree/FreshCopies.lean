import Mathlib.Data.List.Nodup
import CppTemplates.Proofs.Tree.Extension

/-!
# Copies are fresh and of the same shape

A syntax tree may share subtrees, so a node can be reached along many paths.  Copying unfolds the
subtree: the copy has one node of its own for each path.  The copies are numbered from the end of
the tree, in the order in which the positions of the unfolded subtree are listed here, children
before their parents.  Whatever a path leads to in the original, it leads to a copy of it in the
copy, and no two paths lead to the same copy.
-/

namespace CppTemplates

namespace SyntaxTree

/-- The node that a path of child indices leads to. -/
def follow? (tree : SyntaxTree) (id : NodeId) : List Nat → Option NodeId
  | [] => some id
  | index :: path => (tree.child? id index).bind fun child => tree.follow? child path

/-- The node that a path leads to from a row of nodes, of which its first index selects one. -/
def followRow? (tree : SyntaxTree) (row : List NodeId) : List Nat → Option NodeId
  | [] => none
  | index :: path => row[index]?.bind fun id => tree.follow? id path

/-- The positions in a row of unfolded trees, of which the first one has the given index. -/
def rowPositions (first : Nat) (row : List (List (List Nat))) : List (List Nat) :=
  (row.zipIdx first).flatMap fun (positions, index) => positions.map (index :: ·)

/-- The positions in the unfolded subtree of a node, children before their parents. -/
def positions (tree : SyntaxTree) (id : NodeId) : List (List Nat) :=
  let children := (tree.node id).children.attach.map fun ⟨child, _⟩ => tree.positions child
  rowPositions 0 children ++ [[]]
termination_by id.index
decreasing_by exact lt_of_mem_children ‹_›

@[simp]
theorem follow?_nil (tree : SyntaxTree) (id : NodeId) : tree.follow? id [] = some id :=
  rfl

theorem follow?_cons (tree : SyntaxTree) (id : NodeId) (index : Nat) (path : List Nat) :
    tree.follow? id (index :: path) =
      (tree.child? id index).bind fun child => tree.follow? child path :=
  rfl

theorem follow?_concat (tree : SyntaxTree) (id : NodeId) (path : List Nat) (index : Nat) :
    tree.follow? id (path ++ [index]) =
      (tree.follow? id path).bind fun parent => tree.child? parent index := by
  induction path generalizing id with
  | nil => simp [follow?_cons]
  | cons first path ih =>
      rw [List.cons_append, follow?_cons, follow?_cons, Option.bind_assoc]
      congr 1
      funext child
      exact ih child

theorem index_le_of_follow?_eq_some {tree : SyntaxTree} {id last : NodeId} {path : List Nat}
    (leads : tree.follow? id path = some last) : last.index ≤ id.index := by
  induction path generalizing id with
  | nil =>
      cases leads
      exact Nat.le_refl _
  | cons index path ih =>
      obtain ⟨child, isChild, leadsOn⟩ := Option.bind_eq_some_iff.mp leads
      exact Nat.le_trans (ih leadsOn) (Nat.le_of_lt (lt_of_child?_eq_some isChild))

theorem Extends.follow?_eq {tree later : SyntaxTree} (grows : tree.Extends later) {id : NodeId}
    (bound : id.index < tree.size) (path : List Nat) :
    later.follow? id path = tree.follow? id path := by
  induction path generalizing id with
  | nil => rfl
  | cons index path ih =>
      have sameChild : later.child? id index = tree.child? id index := by
        simp only [child?, grows.node_eq id bound]
      rw [follow?_cons, follow?_cons, sameChild]
      cases found : tree.child? id index with
      | none => rfl
      | some child => exact ih (Nat.lt_trans (lt_of_child?_eq_some found) bound)

theorem positions_eq (tree : SyntaxTree) (id : NodeId) :
    tree.positions id =
      rowPositions 0 ((tree.node id).children.map tree.positions) ++ [[]] := by
  rw [positions, List.attach_map_val]

theorem rowPositions_cons (first : Nat) (positions : List (List Nat))
    (row : List (List (List Nat))) :
    rowPositions first (positions :: row) =
      positions.map (first :: ·) ++ rowPositions (first + 1) row := by
  simp [rowPositions]

theorem mem_rowPositions {first : Nat} {row : List (List (List Nat))} {path : List Nat} :
    path ∈ rowPositions first row ↔
      ∃ index positions rest, row[index]? = some positions ∧ rest ∈ positions ∧
        path = (first + index) :: rest := by
  constructor
  · intro member
    obtain ⟨⟨positions, index⟩, inRow, inPositions⟩ := List.mem_flatMap.mp member
    obtain ⟨rest, isRest, rfl⟩ := List.mem_map.mp inPositions
    obtain ⟨late, found⟩ := List.mk_mem_zipIdx_iff_le_and_getElem?_sub.mp inRow
    exact ⟨index - first, positions, rest, found, isRest, by rw [Nat.add_sub_cancel' late]⟩
  · rintro ⟨index, positions, rest, found, isRest, rfl⟩
    have inRow : (positions, first + index) ∈ row.zipIdx first :=
      List.mk_add_mem_zipIdx_iff_getElem?.mpr found
    exact List.mem_flatMap.mpr ⟨_, inRow, List.mem_map.mpr ⟨rest, isRest, rfl⟩⟩

/-- The positions of a subtree are the paths that lead somewhere in it. -/
theorem mem_positions {tree : SyntaxTree} {id : NodeId} {path : List Nat} :
    path ∈ tree.positions id ↔ (tree.follow? id path).isSome := by
  induction path generalizing id with
  | nil => simp [positions_eq]
  | cons index path ih =>
      rw [positions_eq, List.mem_append, mem_rowPositions, follow?_cons]
      constructor
      · rintro (⟨_, positions, _, found, isRest, same⟩ | isEmpty)
        · obtain ⟨rfl, rfl⟩ := List.cons.inj same
          rw [List.getElem?_map, Option.map_eq_some_iff] at found
          obtain ⟨child, isChild, rfl⟩ := found
          rw [Nat.zero_add, child?, isChild]
          exact ih.mp isRest
        · simp at isEmpty
      · intro leads
        obtain ⟨last, leadsTo⟩ := Option.isSome_iff_exists.mp leads
        obtain ⟨child, isChild, leadsOn⟩ := Option.bind_eq_some_iff.mp leadsTo
        refine .inl ⟨index, tree.positions child, path, ?_, ?_, by rw [Nat.zero_add]⟩
        · rw [List.getElem?_map, Option.map_eq_some_iff]
          exact ⟨child, isChild, rfl⟩
        · exact ih.mpr (Option.isSome_iff_exists.mpr ⟨last, leadsOn⟩)

/-- A tree has grown by one node for each of some paths, and the paths lead to the new nodes in
turn. -/
structure Unrolls (before after : SyntaxTree) (paths : List (List Nat))
    (leadsTo : List Nat → Option NodeId) : Prop where
  grows : before.Extends after
  size_eq : after.size = before.size + paths.length
  numbered : paths.map leadsTo =
    (List.range' before.size paths.length).map fun index => some ⟨index⟩

theorem Unrolls.nil (tree : SyntaxTree) (leadsTo : List Nat → Option NodeId) :
    tree.Unrolls tree [] leadsTo :=
  ⟨.refl tree, rfl, rfl⟩

theorem Unrolls.append {first second third : SyntaxTree} {paths more : List (List Nat)}
    {leadsTo leadsOn both : List Nat → Option NodeId}
    (earlier : first.Unrolls second paths leadsTo) (later : second.Unrolls third more leadsOn)
    (sameEarlier : ∀ path ∈ paths, both path = leadsTo path)
    (sameLater : ∀ path ∈ more, both path = leadsOn path) :
    first.Unrolls third (paths ++ more) both := by
  refine ⟨earlier.grows.trans later.grows, ?_, ?_⟩
  · rw [later.size_eq, earlier.size_eq, List.length_append, Nat.add_assoc]
  · rw [List.map_append, List.map_congr_left sameEarlier, List.map_congr_left sameLater,
      earlier.numbered, later.numbered, earlier.size_eq, List.length_append,
      ← List.range'_append_1, List.map_append]

theorem Unrolls.map {before after : SyntaxTree} {paths : List (List Nat)}
    {leadsTo later : List Nat → Option NodeId} (unrolls : before.Unrolls after paths leadsTo)
    (extend : List Nat → List Nat) (same : ∀ path, later (extend path) = leadsTo path) :
    before.Unrolls after (paths.map extend) later := by
  refine ⟨unrolls.grows, by rw [List.length_map, unrolls.size_eq], ?_⟩
  rw [List.map_map, List.length_map, ← unrolls.numbered]
  exact List.map_congr_left fun path _ => same path

/-- The nodes made from a row of items are numbered in turn if those made from each item are. -/
theorem unrolls_mapM {α : Type} {source : SyntaxTree} (list : List α)
    (work : α → StateM SyntaxTree NodeId) (positionsOf : α → List (List Nat))
    (each : ∀ item ∈ list, ∀ current : SyntaxTree, source.Extends current →
      current.Unrolls ((work item).run current).2 (positionsOf item)
          (((work item).run current).2.follow? ((work item).run current).1) ∧
        ((work item).run current).1.index < ((work item).run current).2.size)
    {current : SyntaxTree} (grows : source.Extends current) (earlier : List NodeId) :
    current.Unrolls ((list.mapM work).run current).2
        (rowPositions earlier.length (list.map positionsOf))
        (((list.mapM work).run current).2.followRow?
          (earlier ++ ((list.mapM work).run current).1)) ∧
      ∀ made ∈ ((list.mapM work).run current).1,
        made.index < ((list.mapM work).run current).2.size := by
  induction list generalizing current earlier with
  | nil => exact ⟨.nil current _, fun _ member => absurd member List.not_mem_nil⟩
  | cons head tail ih =>
      obtain ⟨headUnrolls, headInTree⟩ := each head List.mem_cons_self current grows
      let made := (work head).run current
      obtain ⟨tailUnrolls, tailInTree⟩ := ih
        (fun item member => each item (List.mem_cons_of_mem head member))
        (grows.trans headUnrolls.grows) (earlier ++ [made.1])
      rw [List.mapM_cons]
      let more := (tail.mapM work).run made.2
      change current.Unrolls more.2 _ (more.2.followRow? (earlier ++ made.1 :: more.1)) ∧
        ∀ id ∈ made.1 :: more.1, id.index < more.2.size
      have sameRow : earlier ++ [made.1] ++ more.1 = earlier ++ made.1 :: more.1 := by simp
      rw [List.length_append, List.length_singleton, sameRow] at tailUnrolls
      constructor
      · rw [List.map_cons, rowPositions_cons]
        have selected : current.Unrolls made.2 ((positionsOf head).map (earlier.length :: ·))
            (made.2.followRow? (earlier ++ made.1 :: more.1)) :=
          headUnrolls.map _ fun path => by simp [followRow?, made]
        refine selected.append tailUnrolls (fun path member => ?_) fun _ _ => rfl
        obtain ⟨rest, _, rfl⟩ := List.mem_map.mp member
        simp only [followRow?, List.getElem?_append_right (Nat.le_refl _), Nat.sub_self,
          List.getElem?_cons_zero, Option.bind_some]
        exact tailUnrolls.grows.follow?_eq headInTree rest
      · intro id member
        rcases List.mem_cons.mp member with rfl | later
        · exact Nat.lt_of_lt_of_le headInTree tailUnrolls.grows.size_le
        · exact tailInTree id later

/-- A copy is made of as many nodes as the unfolded subtree has positions.  The positions lead to
them in turn. -/
theorem unrolls_appendCopy {source : SyntaxTree} {id : NodeId} (inTree : id.index < source.size)
    {current : SyntaxTree} (grows : source.Extends current) :
    current.Unrolls ((source.appendCopy id).run current).2 (source.positions id)
        (((source.appendCopy id).run current).2.follow? ((source.appendCopy id).run current).1) ∧
      ((source.appendCopy id).run current).1.index <
        ((source.appendCopy id).run current).2.size := by
  rw [appendCopy, positions]
  obtain ⟨children, childrenInTree⟩ := unrolls_mapM (source.node id).children.attach
    (fun child => source.appendCopy child.1) (fun child => source.positions child.1)
    (fun child _ tree more => by
      have younger := lt_of_mem_children child.2
      exact unrolls_appendCopy (Nat.lt_trans younger inTree) more) grows []
  let made := ((source.node id).children.attach.mapM fun child =>
    source.appendCopy child.1).run current
  let copy : Node := { source.node id with children := made.1, origin := some id }
  change current.Unrolls (made.2.push copy) _ ((made.2.push copy).follow? ⟨made.2.size⟩) ∧
    made.2.size < (made.2.push copy).size
  have atCopy : (made.2.push copy).node ⟨made.2.size⟩ = copy :=
    node_push_self made.2 childrenInTree
  have root : made.2.Unrolls (made.2.push copy) [[]]
      ((made.2.push copy).follow? ⟨made.2.size⟩) :=
    ⟨extends_push _ _, size_push _, rfl⟩
  refine ⟨children.append root (fun path member => ?_) fun _ _ => rfl, by simp⟩
  obtain ⟨index, positions, rest, -, -, rfl⟩ := mem_rowPositions.mp member
  rw [follow?_cons, child?, atCopy]
  change (made.1[_]?).bind _ = (made.1[_]?).bind _
  cases found : made.1[0 + index]? with
  | none => rfl
  | some child =>
      exact (extends_push _ _).follow?_eq (childrenInTree child (List.mem_of_getElem? found)) rest
termination_by id.index

theorem IsCopy.follow? {tree : SyntaxTree} {original copy : NodeId}
    (isCopy : tree.IsCopy original copy) (path : List Nat) :
    (tree.follow? original path = none ∧ tree.follow? copy path = none) ∨
      ∃ source made, tree.follow? original path = some source ∧
        tree.follow? copy path = some made ∧ tree.IsCopy source made := by
  induction path generalizing original copy with
  | nil => exact .inr ⟨original, copy, rfl, rfl, isCopy⟩
  | cons index path ih =>
      obtain ⟨inTree, atCopy, children⟩ := isCopy
      simp only [follow?_cons, child?, atCopy]
      rcases getElem?_of_forall₂ children index with
        ⟨missing, missingToo⟩ | ⟨child, made, found, foundToo, isCopyToo⟩
      · exact .inl ⟨by rw [missing]; rfl, by rw [missingToo]; rfl⟩
      · rw [found, foundToo]
        exact ih isCopyToo

/-- A node that a tree has got while it grew. -/
def IsNew (before after : SyntaxTree) (id : NodeId) : Prop :=
  before.size ≤ id.index ∧ id.index < after.size

/-- A new node repeats an old one over new children that remember the old children. -/
structure Repeats (before after : SyntaxTree) (source copy : NodeId) : Prop where
  kind : (after.node copy).kind = (before.node source).kind
  text : (after.node copy).text = (before.node source).text
  span : (after.node copy).span = (before.node source).span
  origin : (after.node copy).origin = some source
  children : List.Forall₂
    (fun child made => before.IsNew after made ∧ (after.node made).origin = some child)
    (before.node source).children (after.node copy).children

/-- A tree has grown by a copy of the unfolded subtree at a node.  The old nodes are as they were.
The last node is the root of the copy, and there is one new node for each position of the subtree.
It repeats the old node at its position, and but for the root it is the child of one node only,
once, which is new. -/
structure IsFreshCopy (before after : SyntaxTree) (original root : NodeId) : Prop where
  grows : before.Extends after
  root_last : root.index + 1 = after.size
  size_eq : after.size = before.size + (before.positions original).length
  sameShape : ∀ path, (after.follow? root path).isSome ↔ (before.follow? original path).isSome
  position : ∀ id, before.IsNew after id → ∃! path, after.follow? root path = some id
  repeats : ∀ path source copy, before.follow? original path = some source →
    after.follow? root path = some copy →
      before.IsNew after copy ∧ before.Repeats after source copy
  parent : ∀ id, before.IsNew after id → id ≠ root →
    ∃ parent index, before.IsNew after parent ∧ after.child? parent index = some id ∧
      ∀ other otherIndex, after.child? other otherIndex = some id →
        other = parent ∧ otherIndex = index

/-- Exactly the new nodes are led to, each along one path. -/
theorem Unrolls.existsUnique {before after : SyntaxTree} {paths : List (List Nat)}
    {leadsTo : List Nat → Option NodeId} (unrolls : before.Unrolls after paths leadsTo)
    (complete : ∀ path, (leadsTo path).isSome → path ∈ paths) {id : NodeId}
    (isNew : before.IsNew after id) : ∃! path, leadsTo path = some id := by
  have numbered := unrolls.numbered
  have listed : some id ∈ paths.map leadsTo := by
    rw [numbered]
    refine List.mem_map.mpr ⟨id.index, List.mem_range'_1.mpr ⟨isNew.1, ?_⟩, rfl⟩
    rw [← unrolls.size_eq]
    exact isNew.2
  obtain ⟨path, isPath, leads⟩ := List.mem_map.mp listed
  have distinct : (paths.map leadsTo).Nodup := by
    rw [numbered]
    refine List.Nodup.map (fun first second same => ?_) List.nodup_range'
    injection same with same
    injection same
  refine ⟨path, leads, fun other leadsToo => ?_⟩
  have isOther : other ∈ paths := complete other (by rw [leadsToo]; rfl)
  exact List.inj_on_of_nodup_map distinct isOther isPath (leadsToo.trans leads.symm)

theorem Unrolls.isNew {before after : SyntaxTree} {paths : List (List Nat)}
    {leadsTo : List Nat → Option NodeId} (unrolls : before.Unrolls after paths leadsTo)
    {path : List Nat} (isPath : path ∈ paths) {id : NodeId} (leads : leadsTo path = some id) :
    before.IsNew after id := by
  have listed : some id ∈ paths.map leadsTo := List.mem_map.mpr ⟨path, isPath, leads⟩
  rw [unrolls.numbered] at listed
  obtain ⟨index, inRange, same⟩ := List.mem_map.mp listed
  cases same
  obtain ⟨late, early⟩ := List.mem_range'_1.mp inRange
  exact ⟨late, by rw [unrolls.size_eq]; exact early⟩

/-- The positions of a subtree are distinct. -/
theorem nodup_positions {tree : SyntaxTree} {id : NodeId} (inTree : id.index < tree.size) :
    (tree.positions id).Nodup := by
  obtain ⟨unrolls, -⟩ := unrolls_appendCopy inTree (.refl tree)
  apply List.Nodup.of_map (((tree.appendCopy id).run tree).2.follow? _)
  rw [unrolls.numbered]
  refine List.Nodup.map (fun first second same => ?_) List.nodup_range'
  injection same with same
  injection same

theorem IsCopy.repeats {before after : SyntaxTree} (grows : before.Extends after)
    {original copy : NodeId} (inTree : original.index < before.size)
    (isCopy : after.IsCopy original copy)
    (childrenNew : ∀ child ∈ (after.node copy).children, before.IsNew after child) :
    before.Repeats after original copy := by
  obtain ⟨-, atCopy, children⟩ := isCopy
  rw [grows.node_eq original inTree] at atCopy children
  rw [atCopy] at childrenNew
  refine ⟨by rw [atCopy], by rw [atCopy], by rw [atCopy], by rw [atCopy], ?_⟩
  rw [atCopy]
  rw [List.forall₂_iff_zip] at children ⊢
  refine ⟨children.1, fun {child made} both => ⟨childrenNew made (List.of_mem_zip both).2, ?_⟩⟩
  obtain ⟨-, atMade, -⟩ := children.2 both
  rw [atMade]

/-- Copying for instantiation adds a fresh copy of the unfolded subtree, of the same shape. -/
theorem isFreshCopy_copyForInstantiation {tree : SyntaxTree} {id : NodeId}
    (inTree : id.index < tree.size) :
    tree.IsFreshCopy (tree.copyForInstantiation id).2 id (tree.copyForInstantiation id).1 := by
  obtain ⟨unrolls, -⟩ := unrolls_appendCopy inTree (.refl tree)
  have isCopy := isCopy_appendCopy inTree (.refl tree)
  have rootLast : ((tree.appendCopy id).run tree).1.index + 1 =
      ((tree.appendCopy id).run tree).2.size := by
    rw [appendCopy]
    exact (size_push _).symm
  rw [copyForInstantiation]
  generalize (tree.appendCopy id).run tree = made at unrolls isCopy rootLast
  obtain ⟨root, after⟩ := made
  dsimp only at unrolls isCopy rootLast ⊢
  have grows := unrolls.grows
  have shape (path : List Nat) := by
    have both := isCopy.follow? path
    rw [grows.follow?_eq inTree] at both
    exact both
  have sameShape (path : List Nat) :
      (after.follow? root path).isSome ↔ (tree.follow? id path).isSome := by
    rcases shape path with ⟨missing, missingToo⟩ | ⟨source, copy, found, foundToo, -⟩
    · rw [missing, missingToo]
    · rw [found, foundToo]
      exact Iff.rfl
  have complete (path : List Nat) (leads : (after.follow? root path).isSome) :
      path ∈ tree.positions id :=
    mem_positions.mpr ((sameShape path).mp leads)
  have isNew {path : List Nat} {copy : NodeId} (leads : after.follow? root path = some copy) :
      tree.IsNew after copy :=
    unrolls.isNew (complete path (by rw [leads]; rfl)) leads
  have position (copy : NodeId) (copyNew : tree.IsNew after copy) :
      ∃! path, after.follow? root path = some copy :=
    unrolls.existsUnique complete copyNew
  refine ⟨grows, rootLast, unrolls.size_eq, sameShape, position, ?_, ?_⟩
  case refine_1 =>
    intro path source copy atSource atCopy
    refine ⟨isNew atCopy, IsCopy.repeats grows ?_ ?_ ?_⟩
    · exact Nat.lt_of_le_of_lt (index_le_of_follow?_eq_some atSource) inTree
    · rcases shape path with ⟨missing, -⟩ | ⟨_, _, found, foundToo, isCopyToo⟩
      · rw [missing] at atSource
        cases atSource
      · cases atSource.symm.trans found
        cases atCopy.symm.trans foundToo
        exact isCopyToo
    · intro child member
      obtain ⟨index, isChild⟩ := List.getElem?_of_mem member
      have leads : after.follow? root (path ++ [index]) = some child := by
        rw [follow?_concat, atCopy]
        exact isChild
      exact isNew leads
  case refine_2 =>
    intro copy copyNew notRoot
    obtain ⟨path, leads, onlyPath⟩ := position copy copyNew
    rcases List.eq_nil_or_concat path with rfl | ⟨toParent, index, rfl⟩
    · cases leads
      exact absurd rfl notRoot
    rw [List.concat_eq_append] at leads onlyPath
    obtain ⟨parent, atParent, isChild⟩ := Option.bind_eq_some_iff.mp (follow?_concat .. ▸ leads)
    refine ⟨parent, index, isNew atParent, isChild, fun other otherIndex isOther => ?_⟩
    -- A node with a new child is new, so a path leads to it, and over it one to the child.
    have otherNew : tree.IsNew after other :=
      ⟨Nat.le_trans copyNew.1 (Nat.le_of_lt (lt_of_child?_eq_some isOther)),
        lt_size_of_child?_eq_some isOther⟩
    obtain ⟨toOther, atOther, -⟩ := position other otherNew
    have leadsToo : after.follow? root (toOther ++ [otherIndex]) = some copy := by
      rw [follow?_concat, atOther]
      exact isOther
    obtain ⟨rfl, sameIndex⟩ := List.append_inj' (onlyPath _ leadsToo) rfl
    exact ⟨Option.some.inj (atOther.symm.trans atParent), List.head_eq_of_cons_eq sameIndex⟩

end SyntaxTree

namespace Sample

/-- The sum `x + x` over one node for `x`. -/
def doubled : SyntaxTree :=
  ((SyntaxTree.empty.addIdentifier "x").2.addInterior (.binary .add) [⟨0⟩, ⟨0⟩]).2

/-- The shared operand is reached along two paths, so there are three new nodes.  A copy of the copy
has as many. -/
theorem doubled_isFreshCopy :
    doubled.positions ⟨1⟩ = [[0], [1], []] ∧
      doubled.IsFreshCopy (doubled.copyForInstantiation ⟨1⟩).2 ⟨1⟩
        (doubled.copyForInstantiation ⟨1⟩).1 ∧
      (doubled.copyForInstantiation ⟨1⟩).2.IsFreshCopy
        ((doubled.copyForInstantiation ⟨1⟩).2.copyForInstantiation ⟨4⟩).2 ⟨4⟩
        ((doubled.copyForInstantiation ⟨1⟩).2.copyForInstantiation ⟨4⟩).1 := by
  have operand : doubled.positions ⟨0⟩ = [[]] := SyntaxTree.positions_eq doubled ⟨0⟩
  have positions : doubled.positions ⟨1⟩ = [[0], [1], []] := by
    rw [SyntaxTree.positions_eq]
    change SyntaxTree.rowPositions 0 [doubled.positions ⟨0⟩, doubled.positions ⟨0⟩] ++ [[]] = _
    rw [operand]
    rfl
  have isCopy : doubled.IsFreshCopy (doubled.copyForInstantiation ⟨1⟩).2 ⟨1⟩
      (doubled.copyForInstantiation ⟨1⟩).1 :=
    SyntaxTree.isFreshCopy_copyForInstantiation (by decide)
  have inTree : 4 < (doubled.copyForInstantiation ⟨1⟩).2.size := by
    rw [isCopy.size_eq, positions]
    decide
  exact ⟨positions, isCopy, SyntaxTree.isFreshCopy_copyForInstantiation inTree⟩

end Sample

end CppTemplates
