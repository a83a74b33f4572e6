import Mathlib.Data.List.Forall2
import CppTemplates.Proofs.Program.Lookup
import CppTemplates.Tree.Display

/-!
# Names are looked up by their components

A name is looked up by the kinds and texts of its components, and nothing below them counts.  So two
nodes whose components count for the same are looked up alike, also in two trees.  They are shown
alike, too, unless they are qualified ids that nothing declares.
-/

namespace CppTemplates

variable {tree later : SyntaxTree}

/-- Two nodes that count for the same component of a name. -/
def SameComponent (tree later : SyntaxTree) (first second : NodeId) : Prop :=
  (later.node second).kind = (tree.node first).kind ∧
    (later.node second).text = (tree.node first).text

theorem SameComponent.componentName_eq {first second : NodeId}
    (same : SameComponent tree later first second) :
    later.componentName second = tree.componentName first := by
  simp only [SyntaxTree.componentName, same.1, same.2]

theorem display_eq_of_componentName {id : NodeId} {name : String}
    (found : tree.componentName id = .ok name) : tree.display id = name := by
  rw [SyntaxTree.display_eq_layout]
  unfold SyntaxTree.componentName at found
  split at found
  case h_2 => cases found
  case h_1 isSymbol =>
    split at found
    case h_2 => cases found
    case h_1 hasText =>
      cases found
      simp only [NodeKind.layout, isSymbol, NodeKind.plainLayout, hasText]

theorem display_eq_of_globalScope {id : NodeId} (isGlobal : (tree.node id).kind = .globalScope) :
    tree.display id = "" := by
  rw [SyntaxTree.display_eq_layout, isGlobal]
  rfl

namespace Program

variable {program other : Program} {context : DeclContext}

/-- Programs that declare the same in the same scopes. -/
structure SameNames (program other : Program) : Prop where
  candidates : ∀ context qualifier name,
    other.candidates context qualifier name = program.candidates context qualifier name
  openedScope? : ∀ symbol, other.openedScope? symbol = program.openedScope? symbol

theorem SameNames.refl (program : Program) : program.SameNames program :=
  ⟨fun _ _ _ => rfl, fun _ => rfl⟩

theorem resolvePath_eq_of_forall₂ (names : program.SameNames other)
    {components replaced : List NodeId} {qualifier : Option ScopeId}
    (same : List.Forall₂ (SameComponent tree later) components replaced) :
    other.resolvePath later context qualifier replaced =
      program.resolvePath tree context qualifier components := by
  induction same generalizing qualifier with
  | nil => rfl
  | @cons first second components replaced sameFirst sameRest ih =>
      cases sameRest with
      | nil => simp only [resolvePath, sameFirst.componentName_eq, names.candidates]
      | cons sameNext sameRest =>
          simp only [resolvePath, sameFirst.componentName_eq, names.candidates,
            names.openedScope?, ih]

/-- Every component of a path that leads to a declaration is an identifier. -/
theorem exists_componentName_of_resolvePath {qualifier : Option ScopeId}
    {components : List NodeId} {found : SymbolId} {rest : List SymbolId}
    (resolves : program.resolvePath tree context qualifier components = .ok (found :: rest)) :
    ∀ component ∈ components, ∃ name, tree.componentName component = .ok name := by
  rw [resolvePath_eq_ok_iff] at resolves
  generalize isFound : found :: rest = answer at resolves
  induction resolves with
  | last named =>
      intro other member
      cases List.mem_singleton.mp member
      exact ⟨_, named⟩
  | undeclared named notLast missing => cases isFound
  | enters named declared opens _ ih =>
      intro other member
      rcases List.mem_cons.mp member with rfl | inRest
      · exact ⟨_, named⟩
      · exact ih isFound other inRest

/-- So is every component of a qualified id that leads to one, a leading `::` excepted. -/
theorem exists_componentName_of_resolveQualified {components : List NodeId} {found : SymbolId}
    {rest : List SymbolId}
    (resolves : program.resolveQualified tree context components = .ok (found :: rest)) :
    ∀ component ∈ components, (tree.node component).kind = .globalScope ∨
      ∃ name, tree.componentName component = .ok name := by
  intro component member
  unfold resolveQualified at resolves
  split at resolves
  case h_1 => cases member
  case h_2 first others =>
    split at resolves
    case h_1 isGlobal =>
      rcases List.mem_cons.mp member with rfl | inOthers
      · exact Or.inl isGlobal
      · exact Or.inr (exists_componentName_of_resolvePath resolves component inOthers)
    case h_2 => exact Or.inr (exists_componentName_of_resolvePath resolves component member)

end Program

/-- A node over the same components is laid out alike if they are identifiers or global scopes. -/
theorem forall₂_display_eq {components replaced : List NodeId}
    (same : List.Forall₂ (SameComponent tree later) components replaced)
    (plain : ∀ component ∈ components, (tree.node component).kind = .globalScope ∨
      ∃ name, tree.componentName component = .ok name) :
    replaced.map (fun child => ((later.node child).kind, later.display child)) =
      components.map fun child => ((tree.node child).kind, tree.display child) := by
  induction same with
  | nil => rfl
  | @cons first second components replaced sameFirst sameRest ih =>
      have rest := ih fun component member => plain component (List.mem_cons_of_mem first member)
      have atFirst : later.display second = tree.display first := by
        rcases plain first List.mem_cons_self with isGlobal | ⟨name, found⟩
        · rw [display_eq_of_globalScope isGlobal,
            display_eq_of_globalScope (sameFirst.1.trans isGlobal)]
        · rw [display_eq_of_componentName found,
            display_eq_of_componentName (sameFirst.componentName_eq.trans found)]
      simp only [List.map_cons, sameFirst.1, atFirst, rest]

/-- Two nodes that count for the same name. -/
structure SameName (tree later : SyntaxTree) (first second : NodeId) : Prop where
  itself : SameComponent tree later first second
  components : (tree.node first).kind = .qualifiedId →
    List.Forall₂ (SameComponent tree later) (tree.node first).children
      (later.node second).children

namespace SameName

variable {first second : NodeId} {program other : Program} {context : DeclContext}
variable (same : SameName tree later first second)
include same

theorem queryIdExpression_eq (names : program.SameNames other) (context : DeclContext) :
    other.queryIdExpression later context second =
      program.queryIdExpression tree context first := by
  obtain ⟨sameItself, sameComponents⟩ := same
  unfold Program.queryIdExpression
  rw [sameItself.1]
  split
  case h_1 => simp only [sameItself.componentName_eq, names.candidates]
  case h_2 isQualified =>
    have components := sameComponents isQualified
    unfold Program.resolveQualified
    generalize (tree.node first).children = originals,
      (later.node second).children = replacements at components
    cases components with
    | nil => rfl
    | cons sameFirst sameRest =>
        simp only [sameFirst.1, Program.resolvePath_eq_of_forall₂ names sameRest,
          Program.resolvePath_eq_of_forall₂ names (.cons sameFirst sameRest)]
  case h_3 => rfl

/-- A name that can be looked up is shown alike, unless it is a qualified id that nothing
declares. -/
theorem display_eq_or_undeclared {answer : List SymbolId}
    (resolves : program.queryIdExpression tree context first = .ok answer) :
    later.display second = tree.display first ∨
      (tree.node first).kind = .qualifiedId ∧ answer = [] := by
  obtain ⟨sameItself, sameComponents⟩ := same
  unfold Program.queryIdExpression at resolves
  split at resolves
  case h_1 =>
    cases atName : tree.componentName first with
    | error cause => simp [atName, bind, Except.bind] at resolves
    | ok name =>
        refine Or.inl ?_
        rw [display_eq_of_componentName atName,
          display_eq_of_componentName (sameItself.componentName_eq.trans atName)]
  case h_2 isQualified =>
    cases answer with
    | nil => exact Or.inr ⟨isQualified, rfl⟩
    | cons found rest =>
        refine Or.inl ?_
        have plain := Program.exists_componentName_of_resolveQualified resolves
        rw [SyntaxTree.display_eq_layout, SyntaxTree.display_eq_layout, sameItself.1, sameItself.2,
          forall₂_display_eq (sameComponents isQualified) plain]
  case h_3 => cases resolves

theorem display_eq_of_found {found : SymbolId} {rest : List SymbolId}
    (resolves : program.queryIdExpression tree context first = .ok (found :: rest)) :
    later.display second = tree.display first := by
  rcases same.display_eq_or_undeclared resolves with sameText | ⟨-, impossible⟩
  · exact sameText
  · cases impossible

end SameName

end CppTemplates
