import CppTemplates.Proofs.Program.Completion
import CppTemplates.Proofs.Program.Extension

/-!
# Classes that are opened out of sight

A program that gets a context for the members of one of its classes answers more than before: a path
through the class now leads somewhere.  As long as nothing is declared in there but the names of
such classes, all that a path can come to is one of these names.  So the program has seen no new
constant.
-/

namespace CppTemplates

namespace Program

variable {before after next : Program} {tree : SyntaxTree} {type : TypeId} {scope : ScopeId}
variable {symbol : SymbolId}

def IsUnopened (program : Program) (type : TypeId) : Prop :=
  program.IsClass type ∧ program.innerContext? type = none

theorem IsUnfilled.isUnopened {program : Program} (unfilled : program.IsUnfilled type) :
    program.IsUnopened type := by
  obtain ⟨data, isClass, -, noInner⟩ := unfilled
  exact ⟨⟨data, isClass⟩, (innerContext?_eq isClass).trans noInner⟩

/-- The inside of a class that has been opened since. -/
def OpenedSince (before after : Program) (scope : ScopeId) : Prop :=
  ∃ type inner, before.IsUnopened type ∧ after.innerContext? type = some inner ∧
    inner.currentScope = scope

/-- The name of a class that had no context for its members. -/
def NamesUnopened (before after : Program) (symbol : SymbolId) : Prop :=
  (after.entry symbol).kind = .className ∧
    ∃ type, (after.entry symbol).type = some type ∧ before.IsUnopened type

/-- A program has been added to, and what has been opened since is new and declares nothing but the
names of classes that had no context for their members. -/
structure Secludes (before after : Program) : Prop extends Preserves before after where
  isNew : ∀ scope, OpenedSince before after scope → before.scopes.scopes.size ≤ scope.index
  inTree : ∀ scope, OpenedSince before after scope → scope.index < after.scopes.scopes.size
  listed : ∀ scope, OpenedSince before after scope →
    ∀ name, ∀ symbol ∈ after.scopes.lookupLocal scope name, NamesUnopened before after symbol

theorem IsClass.index_lt {program : Program} (isClass : program.IsClass type) :
    type.index < program.types.size := by
  obtain ⟨data, isClass⟩ := isClass
  apply index_lt_of_type_ne_default
  rw [isClass]
  intro same
  cases same

theorem IsClass.classData?_eq {program : Program} (isClass : program.IsClass type) :
    ∃ data, program.classData? type = some data ∧
      program.innerContext? type = data.innerContext := by
  obtain ⟨data, isClass⟩ := isClass
  exact ⟨data, classData?_eq_self isClass, innerContext?_eq isClass⟩

/-- A context that a class has, it had before or has got since. -/
theorem KeepsEntities.innerContext?_cases (keeps : before.KeepsEntities after)
    (bound : type.index < before.types.size) {inner : DeclContext}
    (hasInner : after.innerContext? type = some inner) :
    before.innerContext? type = some inner ∨ OpenedSince before after inner.currentScope := by
  cases atType : after.type type with
  | classType data =>
      rw [innerContext?_eq atType] at hasInner
      obtain ⟨original, isClass, keepsInner⟩ := keeps.classType_of_lt bound atType
      have same := innerContext?_eq isClass
      cases atInner : original.innerContext with
      | none =>
          exact .inr ⟨type, inner, ⟨⟨original, isClass⟩, same.trans atInner⟩,
            (innerContext?_eq atType).trans hasInner, rfl⟩
      | some context =>
          rw [keepsInner context atInner] at hasInner
          exact .inl (same.trans (atInner.trans hasInner))
  | _ =>
      rw [innerContext?, atType] at hasInner
      cases hasInner

/-- The name of a class that had no context opens what the class has got since. -/
theorem NamesUnopened.openedSince (names : NamesUnopened before after symbol)
    (keeps : before.KeepsEntities after) (opens : after.openedScope? symbol = some scope) :
    OpenedSince before after scope := by
  obtain ⟨ofKind, type, typed, unopened⟩ := names
  have isClass := (Retains.of_keepsEntities keeps).isClass unopened.1
  obtain ⟨data, ofData, sameInner⟩ := isClass.classData?_eq
  simp only [openedScope?, ofKind, typed, Option.bind_eq_bind, Option.bind_some, ofData] at opens
  obtain ⟨inner, atInner, same⟩ := Option.bind_eq_some_iff.mp opens
  cases same
  exact ⟨type, inner, unopened, sameInner.trans atInner, rfl⟩

theorem KeepsEntities.openedScope?_cases (keeps : before.KeepsEntities after)
    (closed : before.IsClosed tree) (bound : symbol.index < before.symbols.size)
    (opens : after.openedScope? symbol = some scope) :
    before.openedScope? symbol = some scope ∨ OpenedSince before after scope := by
  obtain ⟨defined, _, same⟩ := keeps.entry symbol bound
  have ofClass : ∀ type, (before.entry symbol).type = some type →
      (after.classData? type).bind
        (fun data => data.innerContext.bind fun inner => some inner.currentScope) = some scope →
      (before.classData? type).bind
        (fun data => data.innerContext.bind fun inner => some inner.currentScope) = some scope ∨
        OpenedSince before after scope := by
    intro type typed opens
    obtain ⟨data, ofData, opens⟩ := Option.bind_eq_some_iff.mp opens
    obtain ⟨inner, atInner, current⟩ := Option.bind_eq_some_iff.mp opens
    cases current
    obtain ⟨actual, isActual, atActual⟩ := classData?_eq_some_iff.mp ofData
    rw [keeps.actualClass?_eq_of_lt closed (closed.entryType symbol type typed)] at isActual
    obtain ⟨isClass, -⟩ := Program.directClass?_eq_some.mp isActual
    have isClass : before.IsClass actual := isClass
    have hasInner := (innerContext?_eq atActual).trans atInner
    refine (keeps.innerContext?_cases isClass.index_lt hasInner).imp_left fun hadInner => ?_
    obtain ⟨original, isClass⟩ := isClass
    rw [classData?_eq_some_iff.mpr ⟨actual, isActual, isClass⟩, Option.bind_some,
      ← innerContext?_eq isClass, hadInner, Option.bind_some]
  -- A namespace opens what it opened before; only classes can have got an inside.
  unfold openedScope? at opens ⊢
  rw [same] at opens
  dsimp only at opens ⊢
  split at opens
  case h_1 => exact .inl opens
  case h_4 => cases opens
  all_goals
    cases hasType : (before.entry symbol).type with
    | none =>
        rw [hasType] at opens
        cases opens
    | some type =>
        rw [hasType] at opens
        exact ofClass type hasType opens

/-- A template that an old type names, it named before. -/
theorem KeepsEntities.namedTemplate?_eq_some_of_lt (keeps : before.KeepsEntities after)
    (closed : before.IsClosed tree) (bound : type.index < before.types.size) {template : TypeId}
    (named : after.namedTemplate? type = some template) :
    before.namedTemplate? type = some template := by
  obtain ⟨name, isSymbol, isTemplate⟩ := Option.bind_eq_some_iff.mp named
  let last := before.followTypedefs after.types.size type
  have lastBound : last.index < before.types.size := closed.index_lt_followTypedefs bound _
  have sameLast : after.stripTypedefs type = last := keeps.followTypedefs_eq_of_lt closed bound _
  have isName : before.type last = .named name := by
    apply keeps.named_eq_of_lt lastBound
    rw [← sameLast]
    unfold namedSymbol? at isSymbol
    split at isSymbol
    · cases isSymbol
      assumption
    · cases isSymbol
  have nameBound := closed.named last name isName
  obtain ⟨defined, _, same⟩ := keeps.entry name nameBound
  rw [same] at isTemplate
  have ofKind : (before.entry name).kind = .templateName := by
    cases atKind : (before.entry name).kind <;> simp [atKind] at isTemplate
    rfl
  -- A chain of typedefs that returned to itself would not come to a template name.
  have ends : before.StripsTo last last := by
    refine .here lastBound (fun other isOther => ?_) ?_
    · exact closed.named last other isOther
    · simp [aliased?, isName, ofKind]
  simp only [namedTemplate?, namedSymbol?, stripTypedefs_eq_of_stripsTo ends.of_followTypedefs,
    isName, Option.bind_eq_bind, Option.bind_some]
  exact isTemplate

theorem NamesUnopened.later (names : NamesUnopened before after symbol)
    (keeps : after.KeepsEntities next) : NamesUnopened before next symbol := by
  obtain ⟨ofKind, type, typed, unopened⟩ := names
  exact ⟨(keeps.kind_eq (index_lt_of_entryType typed)).trans ofKind, type,
    keeps.entryType_eq typed, unopened⟩

/-- If all classes but one are left alone, what has been opened since was open already or is the
inside of that class. -/
theorem OpenedSince.earlier (opened : OpenedSince before next scope)
    (keeps : before.KeepsEntities after)
    (leaves : ∀ other, other ≠ type → Leaves other after next) :
    OpenedSince before after scope ∨
      ∃ inner, next.innerContext? type = some inner ∧ inner.currentScope = scope := by
  obtain ⟨own, inner, unopened, hasInner, current⟩ := opened
  by_cases same : own = type
  · subst same
    exact .inr ⟨inner, hasInner, current⟩
  · have isClass := (Retains.of_keepsEntities keeps).isClass unopened.1
    rw [(leaves own same).innerContext?_eq isClass] at hasInner
    exact .inl ⟨own, inner, unopened, hasInner, current⟩

theorem OpenedSince.of_leaves (opened : OpenedSince before next scope)
    (keeps : before.KeepsEntities after) (leaves : ∀ other, Leaves other after next) :
    OpenedSince before after scope := by
  obtain ⟨own, inner, unopened, hasInner, current⟩ := opened
  have isClass := (Retains.of_keepsEntities keeps).isClass unopened.1
  rw [(leaves own).innerContext?_eq isClass] at hasInner
  exact ⟨own, inner, unopened, hasInner, current⟩

namespace Secludes

theorem refl (program : Program) : program.Secludes program := by
  have nothing : ∀ scope, ¬OpenedSince program program scope := by
    rintro scope ⟨type, inner, ⟨-, noInner⟩, hasInner, -⟩
    rw [noInner] at hasInner
    cases hasInner
  exact ⟨.refl program, fun scope opened => absurd opened (nothing scope),
    fun scope opened => absurd opened (nothing scope),
    fun scope opened => absurd opened (nothing scope)⟩

/-- A step keeps a program secluded if every inside of a class stays as it is, or is new and lists
class names only. -/
theorem step (secludes : before.Secludes after) (preserves : before.Preserves next)
    (keeps : after.KeepsEntities next)
    (size_le : after.scopes.scopes.size ≤ next.scopes.scopes.size)
    (inside : ∀ scope, OpenedSince before next scope →
      (OpenedSince before after scope ∧ next.scopes.scope scope = after.scopes.scope scope) ∨
        (before.scopes.scopes.size ≤ scope.index ∧ scope.index < next.scopes.scopes.size ∧
          ∀ name, ∀ symbol ∈ next.scopes.lookupLocal scope name,
            NamesUnopened before next symbol)) : before.Secludes next where
  toPreserves := preserves
  isNew scope opened := by
    rcases inside scope opened with ⟨wasOpen, -⟩ | ⟨isNew, -⟩
    · exact secludes.isNew scope wasOpen
    · exact isNew
  inTree scope opened := by
    rcases inside scope opened with ⟨wasOpen, -⟩ | ⟨-, bound, -⟩
    · exact Nat.lt_of_lt_of_le (secludes.inTree scope wasOpen) size_le
    · exact bound
  listed scope opened name symbol isListed := by
    rcases inside scope opened with ⟨wasOpen, unchanged⟩ | ⟨-, -, listed⟩
    · rw [ScopeTree.lookupLocal, unchanged] at isListed
      exact (secludes.listed scope wasOpen name symbol isListed).later keeps
    · exact listed name symbol isListed

end Secludes

end Program

end CppTemplates
