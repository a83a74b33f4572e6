import Mathlib.Data.List.Forall2
import CppTemplates.Proofs.Program.Declarations

/-!
# Matching template arguments

Two argument lists stand for one instance if they match one by one.  Matching is an equivalence of
argument lists in every program.  Types match by what stands behind their typedefs, so for arguments
whose typedefs lead somewhere it stays what it is as long as no typedef is turned to another type.
-/

namespace CppTemplates

/-- What makes two types that are no typedefs the same, apart from being one: the same fundamental
type, or the same symbol that they name. -/
def Ty.identity? : Ty → Option (BuiltinType ⊕ SymbolId)
  | .builtin type => some (.inl type)
  | .named symbol => some (.inr symbol)
  | _ => none

theorem Ty.RetainedAs.identity?_eq {before after : Ty} (retained : before.RetainedAs after) :
    after.identity? = before.identity? := by
  cases before with
  | classType data =>
      obtain ⟨later, rfl, _⟩ := retained
      rfl
  | templateType data =>
      obtain ⟨later, rfl, _⟩ := retained
      rfl
  | _ =>
      cases retained
      rfl

theorem Ty.RetainedAs.eq_of_alias {before after : Ty} (retained : before.RetainedAs after)
    (isAlias : (∃ symbol, after = .named symbol) ∨ ∃ type, after = .typedefOf type) :
    before = after := by
  cases before with
  | classType data =>
      obtain ⟨later, rfl, _⟩ := retained
      rcases isAlias with ⟨_, same⟩ | ⟨_, same⟩ <;> cases same
  | templateType data =>
      obtain ⟨later, rfl, _⟩ := retained
      rcases isAlias with ⟨_, same⟩ | ⟨_, same⟩ <;> cases same
  | _ => exact Eq.symm retained

namespace Program

variable {program before after : Program}

theorem sameType_iff {left right : TypeId} :
    program.sameType left right = true ↔
      program.stripTypedefs left = program.stripTypedefs right ∨
      ∃ identity, (program.type (program.stripTypedefs left)).identity? = some identity ∧
        (program.type (program.stripTypedefs right)).identity? = some identity := by
  by_cases equal : program.stripTypedefs left = program.stripTypedefs right
  · simp [sameType, equal]
  · simp only [sameType, equal, beq_eq_false_iff_ne.mpr equal, Bool.false_or, false_or]
    cases atLeft : program.type (program.stripTypedefs left) <;>
      cases atRight : program.type (program.stripTypedefs right) <;>
        simp [Ty.identity?]
    all_goals exact eq_comm

theorem sameType_refl (type : TypeId) : program.sameType type type = true :=
  sameType_iff.mpr (.inl rfl)

theorem sameType_symm {left right : TypeId} (same : program.sameType left right = true) :
    program.sameType right left = true := by
  rw [sameType_iff] at same ⊢
  rcases same with equal | ⟨identity, ofLeft, ofRight⟩
  · exact .inl equal.symm
  · exact .inr ⟨identity, ofRight, ofLeft⟩

theorem sameType_trans {first second third : TypeId}
    (earlier : program.sameType first second = true)
    (later : program.sameType second third = true) : program.sameType first third = true := by
  rw [sameType_iff] at earlier later ⊢
  rcases earlier with equal | ⟨identity, ofFirst, ofSecond⟩
  · rwa [equal]
  · right
    refine ⟨identity, ofFirst, ?_⟩
    rcases later with equal | ⟨again, ofSecondAgain, ofThird⟩
    · rw [← equal, ofSecond]
    · rw [ofThird, ← ofSecondAgain, ofSecond]

/-- Two arguments are of one kind and are the same type, the same template or the same
expression. -/
inductive Matches (program : Program) : TemplateArgument → TemplateArgument → Prop
  | type {left right : TypeId} (same : program.sameType left right = true) :
      Matches program (.type left) (.type right)
  | template {left right : TypeId} (same : program.sameType left right = true) :
      Matches program (.template left) (.template right)
  | nonType (expression : NodeId) (leftType rightType : TypeId)
      (leftContext rightContext : DeclContext) :
      Matches program (.nonType leftType expression leftContext)
        (.nonType rightType expression rightContext)

theorem sameArgument_iff {left right : TemplateArgument} :
    program.sameArgument left right = true ↔ program.Matches left right := by
  constructor
  · intro same
    unfold sameArgument at same
    split at same
    · exact .type same
    · exact .template same
    · cases eq_of_beq same
      exact .nonType _ _ _ _ _
    · cases same
  · rintro (same | same | _)
    · exact same
    · exact same
    · exact beq_self_eq_true _

theorem sameArguments_iff {left right : List TemplateArgument} :
    program.sameArguments left right = true ↔ List.Forall₂ program.Matches left right := by
  induction left generalizing right with
  | nil => cases right <;> simp [sameArguments]
  | cons first rest ih => cases right <;> simp [sameArguments, sameArgument_iff, ih]

namespace Matches

variable {first second third : TemplateArgument}

theorem refl (argument : TemplateArgument) : program.Matches argument argument := by
  cases argument with
  | type type => exact .type (sameType_refl type)
  | template type => exact .template (sameType_refl type)
  | nonType type expression context => exact .nonType expression type type context context

theorem symm (matching : program.Matches first second) : program.Matches second first := by
  cases matching with
  | type same => exact .type (sameType_symm same)
  | template same => exact .template (sameType_symm same)
  | nonType => exact .nonType _ _ _ _ _

theorem trans (earlier : program.Matches first second) (later : program.Matches second third) :
    program.Matches first third := by
  cases earlier with
  | type same =>
      cases later with
      | type sameLater => exact .type (sameType_trans same sameLater)
  | template same =>
      cases later with
      | template sameLater => exact .template (sameType_trans same sameLater)
  | nonType =>
      cases later with
      | nonType => exact .nonType _ _ _ _ _

end Matches

/-- Two argument lists match one by one. -/
abbrev MatchAll (program : Program) : List TemplateArgument → List TemplateArgument → Prop :=
  List.Forall₂ program.Matches

namespace MatchAll

variable {first second third : List TemplateArgument}

theorem refl (arguments : List TemplateArgument) : program.MatchAll arguments arguments :=
  List.forall₂_same.mpr fun argument _ => .refl argument

theorem symm (matching : program.MatchAll first second) : program.MatchAll second first :=
  (matching.imp fun _ _ same => same.symm).flip

theorem trans (earlier : program.MatchAll first second) (later : program.MatchAll second third) :
    program.MatchAll first third := by
  induction earlier generalizing third with
  | nil => exact later
  | cons same _ ih =>
      cases later with
      | cons sameLater rest => exact .cons (same.trans sameLater) (ih rest)

end MatchAll

/-- What is declared stays, and a symbol that is a typedef stays a typedef of the same type. -/
structure KeepsTypedefs (before after : Program) : Prop extends before.Retains after where
  typedefs : ∀ symbol : SymbolId, symbol.index < before.symbols.size →
    (before.entry symbol).kind = .typedefName →
      (after.entry symbol).type = (before.entry symbol).type

namespace KeepsTypedefs

theorem refl (program : Program) : program.KeepsTypedefs program :=
  ⟨.refl program, fun _ _ _ => rfl⟩

theorem trans {first second third : Program} (earlier : first.KeepsTypedefs second)
    (later : second.KeepsTypedefs third) : first.KeepsTypedefs third where
  toRetains := earlier.toRetains.trans later.toRetains
  typedefs symbol bound isTypedef := by
    rw [later.typedefs symbol (Nat.lt_of_lt_of_le bound earlier.symbols_le)
      ((earlier.entry symbol bound).kind.trans isTypedef)]
    exact earlier.typedefs symbol bound isTypedef

theorem of_keepsSymbols (retains : before.Retains after) (keeps : before.KeepsSymbols after) :
    before.KeepsTypedefs after :=
  ⟨retains, fun symbol bound _ => by rw [keeps.entry symbol bound]⟩

theorem stripsTo (keeps : before.KeepsTypedefs after) {type target : TypeId}
    (strips : before.StripsTo type target) : after.StripsTo type target := by
  induction strips with
  | step aliases _ ih => exact .step (keeps.aliased?_eq_some aliases) ih
  | @here type bound names stops =>
      have kept := keeps.type type bound
      have namedBefore : ∀ symbol, after.type type = .named symbol →
          before.type type = .named symbol := by
        intro symbol isName
        rw [isName] at kept
        exact kept.eq_of_alias (.inl ⟨symbol, rfl⟩)
      refine .here (Nat.lt_of_lt_of_le bound keeps.types_le) (fun symbol isName =>
        Nat.lt_of_lt_of_le (names symbol (namedBefore symbol isName)) keeps.symbols_le) ?_
      rw [Option.eq_none_iff_forall_ne_some]
      intro next aliases
      apply absurd stops
      apply Option.ne_none_iff_exists'.mpr
      refine ⟨next, Program.aliased?_eq_some.mpr ?_⟩
      rcases Program.aliased?_eq_some.mp aliases with isTypedef | ⟨symbol, isName, ofKind, named⟩
      · rw [isTypedef] at kept
        exact .inl (kept.eq_of_alias (.inr ⟨next, rfl⟩))
      · have isNamed := namedBefore symbol isName
        have isTypedef : (before.entry symbol).kind = .typedefName := by
          rw [← (keeps.entry symbol (names symbol isNamed)).kind, ofKind]
        refine .inr ⟨symbol, isNamed, isTypedef, ?_⟩
        rw [← keeps.typedefs symbol (names symbol isNamed) isTypedef, named]

theorem sameType_iff (keeps : before.KeepsTypedefs after) {left right : TypeId}
    (leftLeads : ∃ target, before.StripsTo left target)
    (rightLeads : ∃ target, before.StripsTo right target) :
    after.sameType left right = true ↔ before.sameType left right = true := by
  obtain ⟨leftTarget, leftStrips⟩ := leftLeads
  obtain ⟨rightTarget, rightStrips⟩ := rightLeads
  have ofLeft := (keeps.type leftTarget leftStrips.stops.1).identity?_eq
  have ofRight := (keeps.type rightTarget rightStrips.stops.1).identity?_eq
  rw [Program.sameType_iff, Program.sameType_iff, stripTypedefs_eq_of_stripsTo leftStrips,
    stripTypedefs_eq_of_stripsTo rightStrips,
    stripTypedefs_eq_of_stripsTo (keeps.stripsTo leftStrips),
    stripTypedefs_eq_of_stripsTo (keeps.stripsTo rightStrips), ofLeft, ofRight]

end KeepsTypedefs

/-- The type of an argument, if it is a type or a template, leads through typedefs to a type of the
program. -/
def IsGrounded (program : Program) : TemplateArgument → Prop
  | .type type | .template type => ∃ target, program.StripsTo type target
  | .nonType _ _ _ => True

theorem IsGrounded.kept {argument : TemplateArgument} (grounded : before.IsGrounded argument)
    (keeps : before.KeepsTypedefs after) : after.IsGrounded argument := by
  cases argument with
  | nonType type expression context => trivial
  | _ =>
      obtain ⟨target, strips⟩ := grounded
      exact ⟨target, keeps.stripsTo strips⟩

theorem KeepsTypedefs.matches_iff (keeps : before.KeepsTypedefs after)
    {left right : TemplateArgument} (leftLeads : before.IsGrounded left)
    (rightLeads : before.IsGrounded right) :
    after.Matches left right ↔ before.Matches left right := by
  rw [← sameArgument_iff, ← sameArgument_iff]
  cases left <;> cases right <;> simp only [sameArgument]
  all_goals exact keeps.sameType_iff leftLeads rightLeads

theorem KeepsTypedefs.matchAll_iff (keeps : before.KeepsTypedefs after)
    {left right : List TemplateArgument} (leftLeads : ∀ argument ∈ left, before.IsGrounded argument)
    (rightLeads : ∀ argument ∈ right, before.IsGrounded argument) :
    after.MatchAll left right ↔ before.MatchAll left right := by
  induction left generalizing right with
  | nil => cases right <;> simp [MatchAll]
  | cons first rest ih =>
      cases right with
      | nil => simp [MatchAll]
      | cons other others =>
          rw [List.forall_mem_cons] at leftLeads rightLeads
          simp only [MatchAll, List.forall₂_cons]
          exact and_congr (keeps.matches_iff leftLeads.1 rightLeads.1)
            (ih leftLeads.2 rightLeads.2)

end Program

end CppTemplates
