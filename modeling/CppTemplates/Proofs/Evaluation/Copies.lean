import CppTemplates.Proofs.Evaluation.SkippedOperands
import CppTemplates.Proofs.Tree.Extension

/-!
# Copies mean what their originals mean

A copy of a subtree spells what the subtree spells, node by node, and so does an old node of a tree
that has grown.  Display, lookup and evaluation look at nothing of a node but its kind, its text,
its span and its children, so they cannot tell such a node from its original.  This includes their
errors, which show the subtree that they are about.
-/

namespace CppTemplates

namespace SyntaxTree

/-- A node of a later tree spells what a node of a tree spells. -/
inductive SpellsSame (tree later : SyntaxTree) : NodeId → NodeId → Prop
  | node {original copy : NodeId} (kind : (later.node copy).kind = (tree.node original).kind)
      (text : (later.node copy).text = (tree.node original).text)
      (span : (later.node copy).span = (tree.node original).span)
      (children : List.Forall₂ (SpellsSame tree later) (tree.node original).children
        (later.node copy).children) :
      SpellsSame tree later original copy

variable {tree later : SyntaxTree}

theorem Extends.spellsSame (grows : tree.Extends later) {id : NodeId}
    (bound : id.index < tree.size) : tree.SpellsSame later id id := by
  have sameNode := grows.node_eq id bound
  refine .node (by rw [sameNode]) (by rw [sameNode]) (by rw [sameNode]) ?_
  rw [sameNode, List.forall₂_same]
  intro child member
  have older := lt_of_mem_children member
  exact grows.spellsSame (Nat.lt_trans older bound)
termination_by id.index

theorem IsCopy.spellsSame (grows : tree.Extends later) {original copy : NodeId}
    (inTree : original.index < tree.size) (isCopy : later.IsCopy original copy) :
    tree.SpellsSame later original copy := by
  have sameOriginal := grows.node_eq original inTree
  obtain @⟨_, _, copies, _, atCopy, children⟩ := isCopy
  rw [sameOriginal] at atCopy children
  refine .node (by rw [atCopy]) (by rw [atCopy]) (by rw [atCopy]) ?_
  rw [atCopy]
  rw [List.forall₂_iff_zip] at children ⊢
  refine ⟨children.1, fun {child _} both => ?_⟩
  have older := lt_of_mem_children (List.of_mem_zip both).1
  exact (children.2 both).spellsSame grows (Nat.lt_trans older inTree)
termination_by original.index

namespace SpellsSame

variable {original copy : NodeId}

theorem sameComponent (same : tree.SpellsSame later original copy) :
    SameComponent tree later original copy := by
  obtain ⟨kind, text, -, -⟩ := same
  exact ⟨kind, text⟩

theorem child? (same : tree.SpellsSame later original copy) (index : Nat) :
    Option.Rel (tree.SpellsSame later) (tree.child? original index) (later.child? copy index) := by
  obtain ⟨-, -, -, children⟩ := same
  simp only [SyntaxTree.child?]
  rcases getElem?_of_forall₂ children index with
    ⟨missing, missingToo⟩ | ⟨child, copied, found, foundToo, sameChild⟩
  · rw [missing, missingToo]
    exact .none
  · rw [found, foundToo]
    exact .some sameChild

theorem display_eq {original copy : NodeId} (same : tree.SpellsSame later original copy) :
    later.display copy = tree.display original := by
  obtain ⟨kind, text, -, children⟩ := same
  have sameParts :
      (later.node copy).children.map (fun child => ((later.node child).kind, later.display child)) =
        (tree.node original).children.map
          (fun child => ((tree.node child).kind, tree.display child)) := by
    symm
    rw [← List.forall₂_eq_eq_eq, List.forall₂_map_left_iff, List.forall₂_map_right_iff]
    rw [List.forall₂_iff_zip] at children ⊢
    refine ⟨children.1, fun {child copied} both => ?_⟩
    have older := lt_of_mem_children (List.of_mem_zip both).1
    have sameChild := children.2 both
    rw [sameChild.sameComponent.1, sameChild.display_eq]
  rw [display_eq_layout, display_eq_layout tree, kind, text, sameParts]
termination_by original.index

theorem sameName (same : tree.SpellsSame later original copy) :
    SameName tree later original copy := by
  have itself := same.sameComponent
  obtain ⟨-, -, -, children⟩ := same
  exact ⟨itself, fun _ => children.imp fun _ _ child => child.sameComponent⟩

theorem namedConstant_eq (same : tree.SpellsSame later original copy) (program : Program)
    (context : DeclContext) :
    program.namedConstant later context copy = program.namedConstant tree context original := by
  have sameAnswer := same.sameName.queryIdExpression_eq (.refl program) context
  have sameText := same.display_eq
  obtain ⟨-, -, span, -⟩ := same
  unfold Program.namedConstant
  rw [sameAnswer, sameText, span]

end SpellsSame

end SyntaxTree

/-- The initializers of a program are nodes of a tree. -/
def Program.KeepsInitializersIn (program : Program) (tree : SyntaxTree) : Prop :=
  ∀ symbol expression, (program.entry symbol).value = some expression →
    expression.index < tree.size

/-- A node that spells the same has the same value or error, whatever constants are busy.  Constants
refer to initializers, which are old nodes and spell the same as before. -/
theorem eval_eq_of_spellsSame {tree later : SyntaxTree} {program : Program}
    (grows : tree.Extends later) (stored : program.KeepsInitializersIn tree)
    {context : DeclContext} {busy : List SymbolId} {original copy : NodeId}
    (same : tree.SpellsSame later original copy) :
    eval later program context busy copy = eval tree program context busy original := by
  induction context, busy, original using eval_induction tree program generalizing copy with
  | step context busy original children constant =>
      have sameConstant := same.namedConstant_eq program context
      have sameText := same.display_eq
      have sameChildren := same.child?
      obtain ⟨kind, text, span, -⟩ := same
      rw [eval_eq_evalStep, eval_eq_evalStep tree, Node.evalStep_congr kind text span,
        sameConstant, sameText, kind, span]
      congr 1
      · funext index
        have sameChild := sameChildren index
        generalize atOriginal : tree.child? original index = found,
          later.child? copy index = copied at sameChild
        cases sameChild with
        | none => rfl
        | some sameChild => exact children index _ atOriginal sameChild
      · funext _
        cases found : program.namedConstant tree context original with
        | error cause => rfl
        | ok pair =>
            obtain ⟨symbol, expression⟩ := pair
            have inTree := stored symbol expression (Program.value_of_namedConstant found)
            by_cases isBusy : symbol ∈ busy
            · simp only [if_pos isBusy]
            · simp only [if_neg isBusy]
              exact constant symbol expression found isBusy (grows.spellsSame inTree)

/-- A node of a later tree means in a program what a node of a tree means there: it evaluates to the
same value or error and names the same candidates in every context, and it is shown alike. -/
structure Program.MeansSame (program : Program) (tree later : SyntaxTree)
    (original copy : NodeId) : Prop where
  evaluate_eq : ∀ context,
    evaluate later program context copy = evaluate tree program context original
  queryIdExpression_eq : ∀ context, program.queryIdExpression later context copy =
    program.queryIdExpression tree context original
  display_eq : later.display copy = tree.display original

theorem SyntaxTree.SpellsSame.meansSame {tree later : SyntaxTree} {program : Program}
    {original copy : NodeId} (same : tree.SpellsSame later original copy)
    (grows : tree.Extends later) (stored : program.KeepsInitializersIn tree) :
    program.MeansSame tree later original copy where
  evaluate_eq _ := eval_eq_of_spellsSame grows stored same
  queryIdExpression_eq := same.sameName.queryIdExpression_eq (.refl program)
  display_eq := same.display_eq

/-- Copying for instantiation preserves meaning.  The copy means what its original means, and every
node that was in the tree before means what it meant before. -/
theorem copyForInstantiation_preserves_meaning {tree : SyntaxTree} {program : Program}
    (stored : program.KeepsInitializersIn tree) {id : NodeId} (inTree : id.index < tree.size) :
    program.MeansSame tree (tree.copyForInstantiation id).2 id (tree.copyForInstantiation id).1 ∧
      ∀ old : NodeId, old.index < tree.size →
        program.MeansSame tree (tree.copyForInstantiation id).2 old old := by
  have grows : tree.Extends (tree.copyForInstantiation id).2 :=
    SyntaxTree.extends_appendCopy tree id tree
  have isCopy := (SyntaxTree.copied_copyForInstantiation (.refl tree) id).isCopy inTree
  constructor
  · exact (isCopy.spellsSame grows inTree).meansSame grows stored
  · intro old bound
    exact (grows.spellsSame bound).meansSame grows stored

namespace Sample

theorem constantN_keepsInitializersIn : (constantN ⟨2⟩).KeepsInitializersIn conjunction := by
  rintro ⟨_ | index⟩ expression hasValue <;> cases hasValue
  decide

/-- A copy of `0 && x` is a new node over new nodes.  It means what its original means, and `N`,
which the original initializes, keeps its meaning. -/
theorem copied_name :
    (constantN ⟨2⟩).MeansSame conjunction (conjunction.copyForInstantiation ⟨2⟩).2 ⟨2⟩
        (conjunction.copyForInstantiation ⟨2⟩).1 ∧
      (conjunction.copyForInstantiation ⟨2⟩).1 = ⟨6⟩ ∧
      ((conjunction.copyForInstantiation ⟨2⟩).2.node ⟨6⟩).children = [⟨4⟩, ⟨5⟩] ∧
      (constantN ⟨2⟩).MeansSame conjunction (conjunction.copyForInstantiation ⟨2⟩).2 ⟨3⟩ ⟨3⟩ := by
  have inTree : (⟨2⟩ : NodeId).index < conjunction.size := by decide
  have preserved :=
    copyForInstantiation_preserves_meaning constantN_keepsInitializersIn inTree
  have isNew : (conjunction.copyForInstantiation ⟨2⟩).1 = ⟨6⟩ := by cbv
  have overNew : ((conjunction.copyForInstantiation ⟨2⟩).2.node ⟨6⟩).children = [⟨4⟩, ⟨5⟩] := by cbv
  exact ⟨preserved.1, isNew, overNew, preserved.2 ⟨3⟩ (by decide)⟩

end Sample

end CppTemplates
