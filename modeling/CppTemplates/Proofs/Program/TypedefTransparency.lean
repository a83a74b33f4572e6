import Mathlib.Data.Fintype.Pigeonhole
import Mathlib.Logic.Relation
import CppTemplates.Proofs.Program.Matching

/-!
# Typedefs are transparent

In a program whose typedefs do not run in circles, every chain of typedefs ends, and every question
about a type is answered from the end of its chain.  So a type, the type behind its typedefs and all
typedefs of it answer alike, and to denote the same type is an equivalence that does not tell a type
from its typedefs.  Types and symbols that are added later are at the end of no chain that was
there, so they change no such answer.
-/

namespace CppTemplates

namespace Program

open Relation

variable {program : Program} {type next outer : TypeId}

/-- One type is a typedef of the other, written as one or by the name of a typedef symbol. -/
def Aliases (program : Program) (type next : TypeId) : Prop :=
  program.aliased? type = some next

/-- No typedef leads back to itself. -/
def HasAcyclicTypedefs (program : Program) : Prop :=
  ∀ type, ¬TransGen program.Aliases type type

theorem leads_followTypedefs (steps : Nat) (type : TypeId) :
    ReflTransGen program.Aliases type (program.followTypedefs steps type) := by
  induction steps generalizing type with
  | zero => exact .refl
  | succ steps ih =>
      cases aliases : program.aliased? type with
      | none =>
          rw [followTypedefs_of_eq_none _ aliases]
      | some next =>
          rw [followTypedefs_succ steps aliases]
          exact .head aliases (ih next)

/-- A chain that still goes on after some steps has made a step at each of them. -/
theorem aliased?_followTypedefs_ne_none_of_le {fewer steps : Nat} (le : fewer ≤ steps)
    (goesOn : program.aliased? (program.followTypedefs steps type) ≠ none) :
    program.aliased? (program.followTypedefs fewer type) ≠ none := by
  intro stops
  apply goesOn
  rw [← Nat.add_sub_of_le le, followTypedefs_add, followTypedefs_of_eq_none _ stops]
  exact stops

theorem transGen_followTypedefs {first second : Nat} (less : first < second)
    (goesOn : program.aliased? (program.followTypedefs first type) ≠ none) :
    TransGen program.Aliases (program.followTypedefs first type)
      (program.followTypedefs second type) := by
  obtain ⟨next, aliases⟩ := Option.ne_none_iff_exists'.mp goesOn
  obtain ⟨more, rfl⟩ := Nat.exists_eq_add_of_lt less
  rw [Nat.add_assoc, followTypedefs_add first, followTypedefs_succ more aliases]
  exact .head' aliases (leads_followTypedefs more next)

/-- There are fewer types than a chain could meet that goes on for ever. -/
theorem HasAcyclicTypedefs.stops (acyclic : program.HasAcyclicTypedefs) (type : TypeId) :
    program.aliased? (program.stripTypedefs type) = none := by
  by_contra goesOn
  have each : ∀ steps : Fin (program.types.size + 1),
      program.aliased? (program.followTypedefs steps type) ≠ none := fun steps =>
    aliased?_followTypedefs_ne_none_of_le (Nat.le_of_lt_succ steps.isLt) goesOn
  have bound : ∀ steps : Fin (program.types.size + 1),
      (program.followTypedefs steps type).index < program.types.size := by
    intro steps
    obtain ⟨next, aliases⟩ := Option.ne_none_iff_exists'.mp (each steps)
    exact index_lt_of_aliased?_eq_some aliases
  let visited : Fin (program.types.size + 1) → Fin program.types.size := fun steps =>
    ⟨(program.followTypedefs steps type).index, bound steps⟩
  obtain ⟨first, second, distinct, sameIndex⟩ :=
    Fintype.exists_ne_map_eq_of_card_lt visited (by simp)
  have same : program.followTypedefs first type = program.followTypedefs second type :=
    congrArg TypeId.mk (Fin.mk.inj sameIndex)
  rcases Nat.lt_or_gt_of_ne (Fin.val_ne_of_ne distinct) with less | greater
  · have circle := transGen_followTypedefs less (each first)
    rw [same] at circle
    exact acyclic _ circle
  · have circle := transGen_followTypedefs greater (each second)
    rw [same] at circle
    exact acyclic _ circle

/-- From a type on a circle, typedefs can be followed for ever. -/
theorem goesOn_of_circle (circle : TransGen program.Aliases type type) (steps : Nat) :
    program.aliased? (program.followTypedefs steps type) ≠ none := by
  induction steps generalizing type with
  | zero =>
      obtain ⟨next, aliases, -⟩ := TransGen.head'_iff.mp circle
      exact Option.ne_none_iff_exists'.mpr ⟨next, aliases⟩
  | succ steps ih =>
      obtain ⟨next, aliases, back⟩ := TransGen.head'_iff.mp circle
      rw [followTypedefs_succ steps aliases]
      exact ih (.tail' back aliases)

/-- Typedefs run in no circle exactly if each of them comes to an end. -/
theorem hasAcyclicTypedefs_iff :
    program.HasAcyclicTypedefs ↔ ∀ type, program.aliased? (program.stripTypedefs type) = none :=
  ⟨HasAcyclicTypedefs.stops, fun stops type circle => goesOn_of_circle circle _ (stops type)⟩

/-- Only the types of the program have to be looked at. -/
theorem hasAcyclicTypedefs_iff_forall_lt :
    program.HasAcyclicTypedefs ↔
      ∀ index < program.types.size, program.aliased? (program.stripTypedefs ⟨index⟩) = none := by
  rw [hasAcyclicTypedefs_iff]
  refine ⟨fun stops index _ => stops ⟨index⟩, fun stops type => ?_⟩
  by_cases bound : type.index < program.types.size
  · exact stops type.index bound
  · have isNone : program.aliased? type = none := by
      rw [Option.eq_none_iff_forall_ne_some]
      exact fun next aliases => bound (index_lt_of_aliased?_eq_some aliases)
    rw [stripTypedefs, followTypedefs_of_eq_none _ isNone]
    exact isNone

instance : Decidable program.HasAcyclicTypedefs :=
  decidable_of_iff _ hasAcyclicTypedefs_iff_forall_lt.symm

theorem leads_stripTypedefs (type : TypeId) :
    ReflTransGen program.Aliases type (program.stripTypedefs type) :=
  leads_followTypedefs program.types.size type

theorem HasAcyclicTypedefs.stripTypedefs_eq_of_aliases (acyclic : program.HasAcyclicTypedefs)
    (aliases : program.Aliases type next) :
    program.stripTypedefs type = program.stripTypedefs next := by
  calc
    program.stripTypedefs type = program.followTypedefs (program.types.size + 1) type := by
      rw [followTypedefs_add, ← stripTypedefs, followTypedefs_of_eq_none 1 (acyclic.stops type)]
    _ = program.stripTypedefs next := followTypedefs_succ _ aliases

theorem HasAcyclicTypedefs.stripTypedefs_eq_of_leads (acyclic : program.HasAcyclicTypedefs)
    (leads : ReflTransGen program.Aliases outer type) :
    program.stripTypedefs outer = program.stripTypedefs type := by
  induction leads using ReflTransGen.head_induction_on with
  | refl => rfl
  | head aliases _ ih => exact (acyclic.stripTypedefs_eq_of_aliases aliases).trans ih

/-- What no chain leads on from is neither a typedef nor the name of a typedef symbol with a
type. -/
theorem aliased?_eq_none :
    program.aliased? type = none ↔
      (∀ inner, program.type type ≠ .typedefOf inner) ∧
        ∀ symbol, program.type type = .named symbol →
          (program.entry symbol).kind = .typedefName → (program.entry symbol).type = none := by
  simp only [Option.eq_none_iff_forall_ne_some, ne_eq, aliased?_eq_some, not_or, not_exists,
    not_and, forall_and]
  refine and_congr_right fun _ => ⟨?_, ?_⟩
  · intro untyped symbol isName ofKind next
    exact untyped next symbol isName ofKind
  · intro untyped next symbol isName ofKind
    exact untyped symbol isName ofKind next

/-- Two types answer all questions alike that see through typedefs. -/
structure AnswersAlike (program : Program) (left right : TypeId) : Prop where
  namedSymbol : program.namedSymbol? left = program.namedSymbol? right
  actualClass : program.actualClass? left = program.actualClass? right
  classData : program.classData? left = program.classData? right
  functionData : program.functionData? left = program.functionData? right
  templateData : program.templateData? left = program.templateData? right
  specialization : program.specialization? left = program.specialization? right

theorem AnswersAlike.of_stripTypedefs_eq {left right : TypeId}
    (same : program.stripTypedefs left = program.stripTypedefs right) :
    program.AnswersAlike left right where
  namedSymbol := by simp only [namedSymbol?, same]
  actualClass := by simp only [actualClass?, same]
  classData := by simp only [classData?, actualClass?, same]
  functionData := by simp only [functionData?, same]
  templateData := by simp only [templateData?, same]
  specialization := by simp only [specialization?, classData?, functionData?, actualClass?, same]

/-- A program whose types refer to no type and no symbol that does not exist. -/
structure HasClosedTypes (program : Program) : Prop where
  typedefOf : ∀ type inner, program.type type = .typedefOf inner →
    inner.index < program.types.size
  named : ∀ type symbol, program.type type = .named symbol → symbol.index < program.symbols.size
  entryType : ∀ symbol type, (program.entry symbol).type = some type →
    type.index < program.types.size

theorem HasClosedTypes.stripsTo_followTypedefs (closed : program.HasClosedTypes)
    (bound : type.index < program.types.size) {steps : Nat}
    (stops : program.aliased? (program.followTypedefs steps type) = none) :
    program.StripsTo type (program.followTypedefs steps type) := by
  induction steps generalizing type with
  | zero => exact .here bound (closed.named type) stops
  | succ steps ih =>
      cases aliases : program.aliased? type with
      | none =>
          rw [followTypedefs_of_eq_none _ aliases]
          exact .here bound (closed.named type) aliases
      | some next =>
          rw [followTypedefs_succ steps aliases] at stops ⊢
          refine .step aliases (ih ?_ stops)
          rcases aliased?_eq_some.mp aliases with isTypedef | ⟨symbol, -, -, typed⟩
          · exact closed.typedefOf type next isTypedef
          · exact closed.entryType symbol next typed

/-- A type or a symbol is added, a symbol that was added is filled in, or the scopes change. -/
inductive Addition (start : Program) : Program → Program → Prop
  | type (program : Program) (added : Ty) : Addition start program (program.newType added).2
  | symbol (program : Program) (added : SymbolEntry) :
      Addition start program (program.addEntry added).2
  | newSymbolEdited (program : Program) (symbol : SymbolId)
      (isNew : start.symbols.size ≤ symbol.index) (change : SymbolEntry → SymbolEntry) :
      Addition start program (program.modifyEntry symbol change)
  | scopes (program : Program) (scopes : ScopeTree) :
      Addition start program { program with scopes }

theorem Addition.keepsEntities {start after : Program} (addition : start.Addition program after)
    (keeps : start.KeepsEntities program) : start.KeepsEntities after := by
  cases addition with
  | type added => exact keeps.newType added
  | symbol added => exact keeps.addEntry added
  | newSymbolEdited symbol isNew change => exact keeps.modifyEntry_new isNew change
  | scopes scopes => exact keeps.withScopes scopes

theorem keepsTypedefs_of_additions {after : Program}
    (additions : ReflTransGen program.Addition program after) : program.KeepsTypedefs after := by
  have keeps : program.KeepsEntities after := by
    induction additions with
    | refl => exact .refl program
    | tail _ addition ih => exact addition.keepsEntities ih
  refine ⟨.of_keepsEntities keeps, fun symbol bound _ => ?_⟩
  obtain ⟨defined, -, same⟩ := keeps.entry symbol bound
  rw [same]

theorem HasClosedTypes.sameType_eq_of_additions (closed : program.HasClosedTypes)
    (acyclic : program.HasAcyclicTypedefs) {after : Program}
    (additions : ReflTransGen program.Addition program after) {left right : TypeId}
    (leftBound : left.index < program.types.size)
    (rightBound : right.index < program.types.size) :
    after.sameType left right = program.sameType left right := by
  have leftLeads := closed.stripsTo_followTypedefs leftBound (acyclic.stops left)
  have rightLeads := closed.stripsTo_followTypedefs rightBound (acyclic.stops right)
  exact Bool.eq_iff_iff.mpr
    ((keepsTypedefs_of_additions additions).sameType_iff ⟨_, leftLeads⟩ ⟨_, rightLeads⟩)

/-- Without circles, stripping a type of its typedefs ends at one that is neither a typedef nor
names a typedef symbol with a type, and stripping that again leaves it.  A type, what is behind it
and every chain of typedefs to it answer alike.  To be the same type is an equivalence, in which
every type stands with its typedefs; and for the types of the program it stays what it is when types
and symbols are added. -/
theorem typedefs_transparent (program : Program) (acyclic : program.HasAcyclicTypedefs) :
    (∀ type,
      (∀ inner, program.type (program.stripTypedefs type) ≠ .typedefOf inner) ∧
      (∀ symbol, program.type (program.stripTypedefs type) = .named symbol →
        (program.entry symbol).kind = .typedefName → (program.entry symbol).type = none) ∧
      ReflTransGen program.Aliases type (program.stripTypedefs type) ∧
      program.stripTypedefs (program.stripTypedefs type) = program.stripTypedefs type ∧
      program.AnswersAlike (program.stripTypedefs type) type ∧
      ∀ outer, ReflTransGen program.Aliases outer type →
        program.stripTypedefs outer = program.stripTypedefs type ∧
        program.AnswersAlike outer type ∧ program.sameType outer type = true) ∧
    (Equivalence fun left right => program.sameType left right = true) ∧
    (program.HasClosedTypes → ∀ after, ReflTransGen program.Addition program after →
      ∀ left right : TypeId, left.index < program.types.size → right.index < program.types.size →
        after.sameType left right = program.sameType left right) := by
  refine ⟨fun type => ?_, ?_, ?_⟩
  · have stops := acyclic.stops type
    have again : program.stripTypedefs (program.stripTypedefs type) = program.stripTypedefs type :=
      followTypedefs_of_eq_none _ stops
    obtain ⟨noTypedef, untyped⟩ := aliased?_eq_none.mp stops
    refine ⟨noTypedef, untyped, leads_stripTypedefs type, again, .of_stripTypedefs_eq again, ?_⟩
    intro outer leads
    have same := acyclic.stripTypedefs_eq_of_leads leads
    exact ⟨same, .of_stripTypedefs_eq same, sameType_iff.mpr (.inl same)⟩
  · exact ⟨sameType_refl, sameType_symm, sameType_trans⟩
  · intro closed after additions left right leftBound rightBound
    exact closed.sameType_eq_of_additions acyclic additions leftBound rightBound

end Program

namespace Sample

/-- A class `A`, a typedef symbol `T` for a typedef of its name, and a typedef of the name `T`. -/
def synonyms : Program :=
  let (symbol, program) :=
    ({} : Program).newSymbol ScopeTree.globalContext ScopeTree.global "A" .className
  let (type, program) := program.newType (.classType {})
  let program := program.modifyEntry symbol fun entry => { entry with type := some type }
  let (named, program) := program.newNamedType symbol
  let (synonym, program) := program.newTypedef named
  let (typedefName, program) :=
    program.newSymbol ScopeTree.globalContext ScopeTree.global "T" .typedefName
  let program := program.modifyEntry typedefName fun entry => { entry with type := some synonym }
  let (name, program) := program.newNamedType typedefName
  (program.newTypedef name).2

def oneMoreSynonym : Program :=
  (synonyms.newTypedef ⟨4⟩).2

theorem synonyms_hasClosedTypes : synonyms.HasClosedTypes where
  typedefOf := by
    rintro ⟨_ | _ | _ | _ | _ | index⟩ inner isTypedef <;> cases isTypedef <;> decide
  named := by
    rintro ⟨_ | _ | _ | _ | _ | index⟩ symbol isName <;> cases isName <;> decide
  entryType := by
    rintro ⟨_ | _ | index⟩ type hasType <;> cases hasType <;> decide

/-- The last typedef leads over both ways of writing a typedef to the name of the class. -/
theorem synonyms_transparent :
    synonyms.HasAcyclicTypedefs ∧
    synonyms.stripTypedefs ⟨4⟩ = ⟨1⟩ ∧
    synonyms.AnswersAlike ⟨4⟩ ⟨1⟩ ∧ synonyms.actualClass? ⟨4⟩ = some ⟨0⟩ ∧
    synonyms.sameType ⟨4⟩ ⟨2⟩ = true ∧
    oneMoreSynonym.sameType ⟨4⟩ ⟨2⟩ = synonyms.sameType ⟨4⟩ ⟨2⟩ := by
  have acyclic : synonyms.HasAcyclicTypedefs := by decide
  obtain ⟨answers, -, lasts⟩ := Program.typedefs_transparent synonyms acyclic
  have written : synonyms.Aliases ⟨4⟩ ⟨3⟩ := rfl
  have byName : synonyms.Aliases ⟨3⟩ ⟨2⟩ := rfl
  have toSynonym : Relation.ReflTransGen synonyms.Aliases ⟨4⟩ ⟨2⟩ := .head written (.single byName)
  have toName : Relation.ReflTransGen synonyms.Aliases ⟨4⟩ ⟨1⟩ := toSynonym.tail rfl
  obtain ⟨-, -, -, -, -, ofName⟩ := answers ⟨1⟩
  obtain ⟨-, -, -, -, -, ofSynonym⟩ := answers ⟨2⟩
  obtain ⟨same, alike, -⟩ := ofName ⟨4⟩ toName
  refine ⟨acyclic, same, alike, alike.actualClass, (ofSynonym ⟨4⟩ toSynonym).2.2, ?_⟩
  exact lasts synonyms_hasClosedTypes oneMoreSynonym (.single (.type _ _)) ⟨4⟩ ⟨2⟩
    (by decide) (by decide)

end Sample

end CppTemplates
