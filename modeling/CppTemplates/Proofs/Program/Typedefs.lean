import Mathlib.Data.List.Nodup
import Mathlib.Data.List.Perm.Subperm
import CppTemplates.Program.Typedef

/-!
# Chains of typedefs

A chain of typedefs that ends meets every type at most once.  So the number of types bounds its
length, and `stripTypedefs` reaches its end.
-/

namespace CppTemplates

namespace Program

/-- A chain of typedefs leads from a type to one that is no typedef.  All types and symbols on the
way are in the program. -/
inductive StripsTo (program : Program) : TypeId → TypeId → Prop where
  | here {type : TypeId} (bound : type.index < program.types.size)
      (names : ∀ symbol, program.type type = .named symbol → symbol.index < program.symbols.size)
      (stops : program.aliased? type = none) : StripsTo program type type
  | step {type next target : TypeId} (aliases : program.aliased? type = some next)
      (rest : StripsTo program next target) : StripsTo program type target

variable {program : Program}

@[simp]
theorem followTypedefs_zero (type : TypeId) : program.followTypedefs 0 type = type := rfl

theorem followTypedefs_succ (steps : Nat) {type next : TypeId}
    (aliases : program.aliased? type = some next) :
    program.followTypedefs (steps + 1) type = program.followTypedefs steps next := by
  simp [followTypedefs, aliases]

theorem followTypedefs_of_eq_none (steps : Nat) {type : TypeId}
    (stops : program.aliased? type = none) : program.followTypedefs steps type = type := by
  cases steps with
  | zero => rfl
  | succ steps => simp [followTypedefs, stops]

theorem followTypedefs_add (first second : Nat) (type : TypeId) :
    program.followTypedefs (first + second) type =
      program.followTypedefs second (program.followTypedefs first type) := by
  induction first generalizing type with
  | zero => rw [Nat.zero_add, followTypedefs_zero]
  | succ first ih =>
      cases atType : program.aliased? type with
      | none => simp only [followTypedefs_of_eq_none _ atType]
      | some next =>
          rw [Nat.add_right_comm, followTypedefs_succ _ atType, followTypedefs_succ _ atType]
          exact ih next

/-- A typedef is written as one or names a typedef symbol. -/
theorem aliased?_eq_some {type next : TypeId} :
    program.aliased? type = some next ↔
      program.type type = .typedefOf next ∨
        ∃ symbol, program.type type = .named symbol ∧
          (program.entry symbol).kind = .typedefName ∧ (program.entry symbol).type = some next := by
  cases atType : program.type type with
  | named symbol => cases ofKind : (program.entry symbol).kind <;> simp [aliased?, atType, ofKind]
  | _ => simp [aliased?, atType]

theorem index_lt_of_aliased?_eq_some {type next : TypeId}
    (aliases : program.aliased? type = some next) : type.index < program.types.size := by
  apply index_lt_of_type_ne_default
  intro isDefault
  rw [aliased?, isDefault] at aliases
  cases aliases

/-- The end of a chain is reached after some number of steps, and not before. -/
theorem StripsTo.exists_steps {type target : TypeId} (strips : program.StripsTo type target) :
    ∃ steps, program.followTypedefs steps type = target ∧
      ∀ fewer < steps, program.aliased? (program.followTypedefs fewer type) ≠ none := by
  induction strips with
  | here _ _ _ => exact ⟨0, rfl, fun fewer bound => absurd bound (Nat.not_lt_zero fewer)⟩
  | step aliases _ ih =>
      obtain ⟨steps, reaches, before⟩ := ih
      refine ⟨steps + 1, by rw [followTypedefs_succ steps aliases, reaches], ?_⟩
      intro fewer bound
      cases fewer with
      | zero => simp [aliases]
      | succ fewer =>
          rw [followTypedefs_succ fewer aliases]
          exact before fewer (Nat.lt_of_succ_lt_succ bound)

theorem StripsTo.stops {type target : TypeId} (strips : program.StripsTo type target) :
    target.index < program.types.size ∧ program.aliased? target = none := by
  induction strips with
  | here bound _ stops => exact ⟨bound, stops⟩
  | step _ _ ih => exact ih

/-- A chain that ends meets no type twice, so it is no longer than there are types. -/
theorem stripTypedefs_eq_of_stripsTo {type target : TypeId}
    (strips : program.StripsTo type target) : program.stripTypedefs type = target := by
  obtain ⟨steps, reaches, before⟩ := strips.exists_steps
  obtain ⟨targetBound, stops⟩ := strips.stops
  let visited := (List.range (steps + 1)).map fun index =>
    (program.followTypedefs index type).index
  have distinct : visited.Nodup := by
    refine List.Nodup.map_on ?_ List.nodup_range
    intro first firstBound second secondBound same
    have firstLe : first ≤ steps := by simpa [Nat.lt_succ_iff] using firstBound
    have secondLe : second ≤ steps := by simpa [Nat.lt_succ_iff] using secondBound
    -- If two positions showed one type, the end would show up too early.
    have early : ∀ {low high : Nat}, low < high → high ≤ steps →
        (program.followTypedefs low type).index ≠ (program.followTypedefs high type).index := by
      intro low high less bound same
      have sameType : program.followTypedefs low type = program.followTypedefs high type := by
        cases atLow : program.followTypedefs low type
        cases atHigh : program.followTypedefs high type
        simp_all
      apply before (low + (steps - high)) (by omega)
      rw [followTypedefs_add, sameType, ← followTypedefs_add, Nat.add_sub_of_le bound, reaches]
      exact stops
    rcases Nat.lt_trichotomy first second with less | equal | greater
    · exact absurd same (early less secondLe)
    · exact equal
    · exact absurd same.symm (early greater firstLe)
  have bounded : visited ⊆ List.range program.types.size := by
    intro index member
    obtain ⟨position, positionBound, rfl⟩ := List.mem_map.mp member
    rw [List.mem_range] at positionBound ⊢
    rcases Nat.lt_or_eq_of_le (Nat.le_of_lt_succ positionBound) with less | rfl
    · obtain ⟨next, aliases⟩ := Option.ne_none_iff_exists'.mp (before position less)
      exact index_lt_of_aliased?_eq_some aliases
    · rw [reaches]
      exact targetBound
  have stepsLt : steps < program.types.size := by
    have := (List.subperm_of_subset distinct bounded).length_le
    simpa [visited, Nat.succ_le_iff] using this
  calc
    program.stripTypedefs type =
        program.followTypedefs (steps + (program.types.size - steps)) type := by
      rw [Nat.add_sub_of_le (Nat.le_of_lt stepsLt)]
      rfl
    _ = program.followTypedefs (program.types.size - steps) target := by
      rw [followTypedefs_add, reaches]
    _ = target := followTypedefs_of_eq_none _ stops

/-- The class that a type is or names without any typedef between. -/
def directClass? (program : Program) (type : TypeId) : Option TypeId := do
  let candidate ←
    match program.type type with
    | .named symbol => (program.entry symbol).type
    | _ => some type
  match program.type candidate with
  | .classType _ => some candidate
  | _ => none

theorem actualClass?_eq_directClass? (type : TypeId) :
    program.actualClass? type = program.directClass? (program.stripTypedefs type) := rfl

theorem classCandidate_eq_some {candidate found : TypeId} :
    (match program.type candidate with
      | .classType _ => some candidate
      | _ => none) = some found ↔
    (∃ data, program.type found = .classType data) ∧ found = candidate := by
  constructor
  · intro chosen
    split at chosen
    case h_1 data isClass =>
      cases chosen
      exact ⟨⟨data, isClass⟩, rfl⟩
    case h_2 => cases chosen
  · rintro ⟨⟨data, isClass⟩, rfl⟩
    simp [isClass]

theorem directClass?_of_named {type found : TypeId} {symbol : SymbolId}
    (isName : program.type type = .named symbol) :
    program.directClass? type = some found ↔
      (∃ data, program.type found = .classType data) ∧
        (program.entry symbol).type = some found := by
  simp only [directClass?, isName, Option.bind_eq_bind, Option.bind_eq_some_iff,
    classCandidate_eq_some]
  constructor
  · rintro ⟨candidate, typed, isClass, rfl⟩
    exact ⟨isClass, typed⟩
  · rintro ⟨isClass, typed⟩
    exact ⟨found, typed, isClass, rfl⟩

theorem directClass?_of_not_named {type found : TypeId}
    (notName : ∀ symbol, program.type type ≠ .named symbol) :
    program.directClass? type = some found ↔
      (∃ data, program.type found = .classType data) ∧ found = type := by
  rw [← classCandidate_eq_some, directClass?]
  split
  case h_1 symbol isName => exact absurd isName (notName symbol)
  case h_2 => rfl

theorem directClass?_eq_some {type found : TypeId} :
    program.directClass? type = some found ↔
      (∃ data, program.type found = .classType data) ∧
        (found = type ∨ ∃ symbol, program.type type = .named symbol ∧
          (program.entry symbol).type = some found) := by
  by_cases named : ∃ symbol, program.type type = .named symbol
  · obtain ⟨symbol, isName⟩ := named
    rw [directClass?_of_named isName]
    constructor
    · rintro ⟨isClass, typed⟩
      exact ⟨isClass, .inr ⟨symbol, isName, typed⟩⟩
    · rintro ⟨⟨data, isClass⟩, rfl | ⟨other, isNameToo, typed⟩⟩
      · cases isName.symm.trans isClass
      · cases isName.symm.trans isNameToo
        exact ⟨⟨data, isClass⟩, typed⟩
  · have notName := not_exists.mp named
    rw [directClass?_of_not_named notName]
    constructor
    · rintro ⟨isClass, same⟩
      exact ⟨isClass, .inl same⟩
    · rintro ⟨isClass, same | ⟨symbol, isName, -⟩⟩
      · exact ⟨isClass, same⟩
      · exact absurd isName (notName symbol)

/-- Seeing through typedefs does not lose the class. -/
theorem directClass?_followTypedefs {type found : TypeId}
    (direct : program.directClass? type = some found) (steps : Nat) :
    program.directClass? (program.followTypedefs steps type) = some found := by
  induction steps generalizing type with
  | zero => exact direct
  | succ steps ih =>
      cases aliases : program.aliased? type with
      | none =>
          rw [followTypedefs_of_eq_none _ aliases]
          exact direct
      | some next =>
          rw [followTypedefs_succ steps aliases]
          apply ih
          obtain ⟨⟨data, isClass⟩, rfl | ⟨symbol, isName, named⟩⟩ := directClass?_eq_some.mp direct
          · simp [aliased?, isClass] at aliases
          · rcases aliased?_eq_some.mp aliases with isTypedef | ⟨other, isName', _, typed⟩
            · rw [isName] at isTypedef
              cases isTypedef
            · rw [isName] at isName'
              cases isName'
              rw [named] at typed
              cases typed
              exact directClass?_eq_some.mpr ⟨⟨data, isClass⟩, .inl rfl⟩

theorem actualClass?_eq_self {type : TypeId} {data : ClassType}
    (isClass : program.type type = .classType data) : program.actualClass? type = some type := by
  rw [actualClass?_eq_directClass?]
  apply directClass?_followTypedefs
  exact directClass?_eq_some.mpr ⟨⟨data, isClass⟩, .inl rfl⟩

theorem classData?_eq_some_iff {type : TypeId} {data : ClassType} :
    program.classData? type = some data ↔
      ∃ actual, program.actualClass? type = some actual ∧
        program.type actual = .classType data := by
  cases isActual : program.actualClass? type with
  | none => simp [classData?, isActual]
  | some actual => cases atActual : program.type actual <;> simp [classData?, isActual, atActual]

theorem classData?_eq_self {type : TypeId} {data : ClassType}
    (isClass : program.type type = .classType data) : program.classData? type = some data :=
  classData?_eq_some_iff.mpr ⟨type, actualClass?_eq_self isClass, isClass⟩

theorem StripsTo.of_followTypedefs {type target : TypeId} {steps : Nat}
    (strips : program.StripsTo (program.followTypedefs steps type) target) :
    program.StripsTo type target := by
  induction steps generalizing type with
  | zero => exact strips
  | succ steps ih =>
      cases aliases : program.aliased? type with
      | none => rwa [followTypedefs_of_eq_none _ aliases] at strips
      | some next =>
          rw [followTypedefs_succ steps aliases] at strips
          exact .step aliases (ih strips)

/-- What is or names a class is no typedef or a typedef of that class. -/
theorem exists_stripsTo_of_directClass? {type found : TypeId}
    (direct : program.directClass? type = some found) :
    ∃ target, program.StripsTo type target ∧ program.directClass? target = some found := by
  obtain ⟨⟨data, isClass⟩, isOrNames⟩ := directClass?_eq_some.mp direct
  have foundItself : program.StripsTo found found := by
    refine .here (index_lt_of_type_ne_default ?_) ?_ ?_
    · rw [isClass]
      intro same
      cases same
    · intro symbol isName
      rw [isClass] at isName
      cases isName
    · rw [aliased?, isClass]
  rcases isOrNames with rfl | ⟨symbol, isName, named⟩
  · exact ⟨found, foundItself, direct⟩
  · cases aliases : program.aliased? type with
    | none =>
        refine ⟨type, .here (index_lt_of_type_ne_default ?_) ?_ aliases, direct⟩
        · rw [isName]
          intro same
          cases same
        · intro other isName'
          rw [isName] at isName'
          cases isName'
          apply Nat.lt_of_not_le
          intro outside
          simp [entry, Array.getElem?_eq_none outside, show (default : SymbolEntry).type = none
            from rfl] at named
    | some next =>
        have sameClass : next = found := by
          rcases aliased?_eq_some.mp aliases with isTypedef | ⟨other, isName', -, typed⟩
          · rw [isName] at isTypedef
            cases isTypedef
          · rw [isName] at isName'
            cases isName'
            exact Option.some.inj (typed.symm.trans named)
        subst sameClass
        have isDirect := directClass?_eq_some.mpr ⟨⟨data, isClass⟩, .inl rfl⟩
        exact ⟨next, .step aliases foundItself, isDirect⟩

/-- Following more typedefs than there are types finds no other class. -/
theorem directClass?_followTypedefs_eq_actualClass? {steps : Nat}
    (enough : program.types.size ≤ steps) (type : TypeId) :
    program.directClass? (program.followTypedefs steps type) = program.actualClass? type := by
  apply Option.ext
  intro found
  constructor
  · intro direct
    obtain ⟨target, strips, atTarget⟩ := exists_stripsTo_of_directClass? direct
    rw [actualClass?_eq_directClass?, stripTypedefs_eq_of_stripsTo strips.of_followTypedefs]
    exact atTarget
  · intro direct
    obtain ⟨more, rfl⟩ := Nat.exists_eq_add_of_le enough
    rw [followTypedefs_add]
    exact directClass?_followTypedefs direct more

section Later

variable {before after : Program} {type found : TypeId} {steps more : Nat}

theorem followTypedefs_eq_of_aliased?
    (aliased : ∀ type next, before.aliased? type = some next → after.aliased? type = some next)
    (le : steps ≤ more) (stops : after.aliased? (before.followTypedefs steps type) = none) :
    after.followTypedefs more type = before.followTypedefs steps type := by
  induction steps generalizing type more with
  | zero => exact followTypedefs_of_eq_none more stops
  | succ steps ih =>
      cases aliases : before.aliased? type with
      | none =>
          rw [followTypedefs_of_eq_none _ aliases] at stops ⊢
          exact followTypedefs_of_eq_none more stops
      | some next =>
          obtain ⟨more, rfl⟩ := Nat.exists_eq_add_of_le' (Nat.le_trans (Nat.le_add_left 1 steps) le)
          rw [followTypedefs_succ _ aliases] at stops ⊢
          rw [followTypedefs_succ _ (aliased type next aliases)]
          exact ih (Nat.le_of_succ_le_succ le) stops

/-- If moreover classes stay classes, what is found behind some typedefs is found behind more of
them, as far as there are more. -/
theorem directClass?_followTypedefs_of_aliased?
    (aliased : ∀ type next, before.aliased? type = some next → after.aliased? type = some next)
    (direct : ∀ type found, before.directClass? type = some found →
      after.directClass? type = some found)
    (le : steps ≤ more)
    (atEnd : before.directClass? (before.followTypedefs steps type) = some found) :
    after.directClass? (after.followTypedefs more type) = some found := by
  induction steps generalizing type more with
  | zero => exact directClass?_followTypedefs (direct type found atEnd) more
  | succ steps ih =>
      cases aliases : before.aliased? type with
      | none =>
          rw [followTypedefs_of_eq_none _ aliases] at atEnd
          exact directClass?_followTypedefs (direct type found atEnd) more
      | some next =>
          obtain ⟨more, rfl⟩ := Nat.exists_eq_add_of_le' (Nat.le_trans (Nat.le_add_left 1 steps) le)
          rw [followTypedefs_succ _ aliases] at atEnd
          rw [followTypedefs_succ _ (aliased type next aliases)]
          exact ih (Nat.le_of_succ_le_succ le) atEnd

end Later

end Program

end CppTemplates
