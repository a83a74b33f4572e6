import CppTemplates.Program.TemplateInstance
import CppTemplates.Proofs.Program.ClassTemplates
import CppTemplates.Proofs.Program.Lookup

/-!
# The symbol table

Scopes list symbols and symbols name their scope, and both must agree.  A symbol is listed at the
moment of its creation or never: then it is younger than everything listed before, so lists of
candidates grow in the order of creation.  The generic definitions, specializations and instances
of templates are created without being listed, and lookup does not find them.

`OrderlySince` is the invariant.  It also says that what was unlisted at an earlier point still is,
so one lemma for each operation covers both.
-/

namespace CppTemplates

namespace ScopeEntries

variable {entries : ScopeEntries} {name : String} {symbol : SymbolId}

theorem mem_insert {declared : String × List SymbolId}
    (member : declared ∈ insert name symbol entries) :
    declared ∈ entries ∨ ∃ symbols, declared = (name, symbols ++ [symbol]) ∧
      ((name, symbols) ∈ entries ∨ symbols = []) := by
  induction entries with
  | nil =>
      cases List.mem_singleton.mp member
      exact .inr ⟨[], rfl, .inr rfl⟩
  | cons entry rest ih =>
      obtain ⟨other, symbols⟩ := entry
      by_cases same : other = name
      · subst same
        simp only [insert, if_true] at member
        rcases List.mem_cons.mp member with rfl | inRest
        · exact .inr ⟨symbols, rfl, .inl List.mem_cons_self⟩
        · exact .inl (List.mem_cons_of_mem _ inRest)
      · simp only [insert, same, if_false] at member
        rcases List.mem_cons.mp member with rfl | inRest
        · exact .inl List.mem_cons_self
        · rcases ih inRest with old | ⟨symbols, isNew, before⟩
          · exact .inl (List.mem_cons_of_mem _ old)
          · exact .inr ⟨symbols, isNew, before.imp_left (List.mem_cons_of_mem _)⟩

theorem map_fst_insert : (insert name symbol entries).map (·.1) =
    if name ∈ entries.map (·.1) then entries.map (·.1) else entries.map (·.1) ++ [name] := by
  induction entries with
  | nil => rfl
  | cons entry rest ih =>
      obtain ⟨other, symbols⟩ := entry
      by_cases same : other = name
      · simp [insert, same]
      · have different : name ≠ other := fun equal => same equal.symm
        simp only [insert, same, if_false, List.map_cons, ih, List.mem_cons, different, false_or]
        split <;> simp

theorem nodup_insert (distinct : (entries.map (·.1)).Nodup) :
    ((insert name symbol entries).map (·.1)).Nodup := by
  rw [map_fst_insert]
  split
  · exact distinct
  · next isNew =>
    rw [List.nodup_append]
    exact ⟨distinct, List.nodup_singleton name, by rintro _ member _ single rfl; simp_all⟩

theorem mem_of_mem_candidates (listed : symbol ∈ entries.candidates name) :
    (name, entries.candidates name) ∈ entries := by
  induction entries with
  | nil => cases listed
  | cons entry rest ih =>
      obtain ⟨other, symbols⟩ := entry
      rw [candidates_cons] at listed ⊢
      by_cases same : name = other
      · simp [same]
      · rw [if_neg same] at listed ⊢
        exact List.mem_cons_of_mem _ (ih listed)

/-- If every name is declared once, the candidates of a declared name are those of its entry. -/
theorem candidates_eq_of_mem (distinct : (entries.map (·.1)).Nodup) {symbols : List SymbolId}
    (member : (name, symbols) ∈ entries) : entries.candidates name = symbols := by
  induction entries with
  | nil => cases member
  | cons entry rest ih =>
      obtain ⟨other, first⟩ := entry
      rw [List.map_cons, List.nodup_cons] at distinct
      rw [candidates_cons]
      rcases List.mem_cons.mp member with same | inRest
      · cases same
        rw [if_pos rfl]
      · have different : name ≠ other := by
          rintro rfl
          exact distinct.1 (List.mem_map.mpr ⟨(name, symbols), inRest, rfl⟩)
        rw [if_neg different]
        exact ih distinct.2 inRest

end ScopeEntries

theorem ScopeTree.entries_insert (tree : ScopeTree) (target scope : ScopeId) (name : String)
    (symbol : SymbolId) : ((tree.insert target name symbol).scope scope).entries =
      if scope = target ∧ target.index < tree.scopes.size then
        (tree.scope scope).entries.insert name symbol
      else (tree.scope scope).entries := by
  by_cases same : scope = target
  · subst same
    by_cases bound : scope.index < tree.scopes.size
    · rw [scope_insert_self bound, if_pos ⟨rfl, bound⟩]
    · rw [if_neg fun both => bound both.2]
      simp [ScopeTree.scope, ScopeTree.insert, Array.getElem?_modify,
        Array.getElem?_eq_none (Nat.le_of_not_lt bound)]
  · rw [scope_insert_of_ne same, if_neg fun both => same both.1]

theorem ScopeTree.entries_createChild (tree : ScopeTree) (scope parent : ScopeId)
    (kind : ScopeKind) (owner : Option SymbolId) :
    ((tree.createChild parent kind owner).2.scope scope).entries = (tree.scope scope).entries := by
  rcases Nat.lt_trichotomy scope.index tree.scopes.size with less | equal | greater
  · rw [scope_createChild_of_lt less]
  · simp [ScopeTree.scope, createChild, equal]
    rfl
  · have outside : (tree.createChild parent kind owner).2.scopes.size ≤ scope.index := by
      rw [size_createChild]
      exact greater
    simp only [ScopeTree.scope, Array.getElem?_eq_none outside,
      Array.getElem?_eq_none (Nat.le_of_lt greater)]

/-- The generic definition, the specializations and the instances of a template. -/
def TemplateType.symbols (data : TemplateType) : List SymbolId :=
  data.primary :: (data.specializations ++ data.instances)

namespace TemplateType

variable {data : TemplateType} {symbol added : SymbolId}

theorem mem_symbols_addSpecialization
    (member : symbol ∈ symbols { data with specializations := data.specializations ++ [added] }) :
    symbol ∈ data.symbols ∨ symbol = added := by
  simp only [symbols, List.mem_cons, List.mem_append, List.not_mem_nil, or_false] at member ⊢
  tauto

theorem mem_symbols_addInstance
    (member : symbol ∈ symbols { data with instances := data.instances ++ [added] }) :
    symbol ∈ data.symbols ∨ symbol = added := by
  simp only [symbols, List.mem_cons, List.mem_append, List.not_mem_nil, or_false] at member ⊢
  tauto

end TemplateType

namespace Program

/-- Whether no scope lists a symbol. -/
def IsUnlisted (program : Program) (symbol : SymbolId) : Prop :=
  ∀ scope, ∀ declared ∈ (program.scopes.scope scope).entries, symbol ∉ declared.2

/-- Whether a list of candidates is as it should be for its scope and name. -/
structure IsCandidateList (program : Program) (scope : ScopeId) (name : String)
    (candidates : List SymbolId) : Prop where
  ne_nil : candidates ≠ []
  increasing : candidates.Pairwise fun first second => first.index < second.index
  declared : ∀ symbol ∈ candidates, symbol.index < program.symbols.size ∧
    (program.entry symbol).name = name ∧ (program.entry symbol).scope = scope

/-- The scopes and the symbols of a program agree, and what belongs to templates is not listed. -/
structure IsOrderly (program : Program) : Prop where
  names : ∀ scope, ((program.scopes.scope scope).entries.map (·.1)).Nodup
  candidates : ∀ scope, ∀ declared ∈ (program.scopes.scope scope).entries,
    program.IsCandidateList scope declared.1 declared.2
  templates : ∀ type data, program.type type = .templateType data → ∀ symbol ∈ data.symbols,
    symbol.index < program.symbols.size ∧ program.IsUnlisted symbol

/-- A program is orderly, and what was not listed at an earlier point is still not listed. -/
structure OrderlySince (program start : Program) : Prop extends IsOrderly program where
  symbols_le : start.symbols.size ≤ program.symbols.size
  unlisted : ∀ symbol : SymbolId, symbol.index < start.symbols.size → start.IsUnlisted symbol →
    program.IsUnlisted symbol

theorem isOrderly_empty : ({} : Program).IsOrderly where
  names := by
    rintro ⟨_ | index⟩
    · exact List.nodup_nil
    · exact List.nodup_nil
  candidates := by
    rintro ⟨_ | index⟩ declared member
    · cases member
    · cases member
  templates := by
    intro type data isTemplate
    cases isTemplate

theorem IsOrderly.since {program : Program} (orderly : program.IsOrderly) :
    program.OrderlySince program :=
  { orderly with symbols_le := Nat.le_refl _, unlisted := fun _ _ unlisted => unlisted }

section Lists

variable {program after : Program} {scope : ScopeId} {name : String} {symbol : SymbolId}
variable {candidates : List SymbolId}

/-- A list of candidates stays one while its symbols keep their names and scopes. -/
theorem IsCandidateList.mono (isList : program.IsCandidateList scope name candidates)
    (symbols_le : program.symbols.size ≤ after.symbols.size)
    (entry : ∀ symbol : SymbolId, symbol.index < program.symbols.size →
      (after.entry symbol).name = (program.entry symbol).name ∧
        (after.entry symbol).scope = (program.entry symbol).scope) :
    after.IsCandidateList scope name candidates where
  ne_nil := isList.ne_nil
  increasing := isList.increasing
  declared symbol listed := by
    obtain ⟨bound, isNamed, inScope⟩ := isList.declared symbol listed
    obtain ⟨sameName, sameScope⟩ := entry symbol bound
    exact ⟨Nat.lt_of_lt_of_le bound symbols_le, sameName.trans isNamed, sameScope.trans inScope⟩

/-- A symbol that is younger than the candidates may follow them. -/
theorem IsCandidateList.snoc
    (before : program.IsCandidateList scope name candidates ∨ candidates = [])
    (younger : ∀ listed ∈ candidates, listed.index < symbol.index)
    (bound : symbol.index < program.symbols.size) (isNamed : (program.entry symbol).name = name)
    (inScope : (program.entry symbol).scope = scope) :
    program.IsCandidateList scope name (candidates ++ [symbol]) where
  ne_nil := by simp
  increasing := by
    rw [List.pairwise_append]
    refine ⟨?_, List.pairwise_singleton _ _, ?_⟩
    · rcases before with isList | rfl
      · exact isList.increasing
      · exact List.Pairwise.nil
    · intro first listed second single
      cases List.mem_singleton.mp single
      exact younger first listed
  declared id listed := by
    rcases List.mem_append.mp listed with old | single
    · rcases before with isList | rfl
      · exact isList.declared id old
      · cases old
    · cases List.mem_singleton.mp single
      exact ⟨bound, isNamed, inScope⟩

theorem mem_entries_signIn {target : ScopeId} {declared : String × List SymbolId}
    (member : declared ∈ ((program.signIn target name symbol).scopes.scope scope).entries) :
    declared ∈ (program.scopes.scope scope).entries ∨
      scope = target ∧ ∃ symbols, declared = (name, symbols ++ [symbol]) ∧
        ((name, symbols) ∈ (program.scopes.scope scope).entries ∨ symbols = []) := by
  change declared ∈ ((program.scopes.insert target name symbol).scope scope).entries at member
  rw [ScopeTree.entries_insert] at member
  split at member
  case isFalse => exact .inl member
  case isTrue inScope =>
    exact (ScopeEntries.mem_insert member).imp_right fun found => ⟨inScope.1, found⟩

theorem IsUnlisted.signIn {target : ScopeId} {id : SymbolId} (unlisted : program.IsUnlisted id)
    (other : id ≠ symbol) : (program.signIn target name symbol).IsUnlisted id := by
  intro scope declared member listed
  rcases mem_entries_signIn member with old | ⟨rfl, symbols, rfl, before⟩
  · exact unlisted scope declared old listed
  · rcases List.mem_append.mp listed with inSymbols | single
    · rcases before with old | rfl
      · exact unlisted _ _ old inSymbols
      · cases inSymbols
    · exact other (List.mem_singleton.mp single)

end Lists

theorem IsOrderly.isUnlisted_of_le {program : Program} (orderly : program.IsOrderly)
    {symbol : SymbolId} (isNew : program.symbols.size ≤ symbol.index) :
    program.IsUnlisted symbol := by
  intro scope declared member listed
  have older := ((orderly.candidates scope declared member).declared symbol listed).1
  omega

/-- A symbol that is created without a scope is not listed. -/
theorem IsOrderly.isUnlisted_newUnscopedSymbol {program : Program} (orderly : program.IsOrderly)
    (context : DeclContext) (name : String) (kind : SymbolKind) :
    (program.newUnscopedSymbol context name kind).1.index <
        (program.newUnscopedSymbol context name kind).2.symbols.size ∧
      (program.newUnscopedSymbol context name kind).2.IsUnlisted
        (program.newUnscopedSymbol context name kind).1 :=
  ⟨by simp [newUnscopedSymbol, addEntry], orderly.isUnlisted_of_le (Nat.le_refl _)⟩

theorem type_modifyType (program : Program) (type id : TypeId) (change : Ty → Ty) :
    (program.modifyType type change).type id =
      if id = type ∧ type.index < program.types.size then change (program.type id)
      else program.type id := by
  by_cases same : id = type
  · subst same
    by_cases bound : id.index < program.types.size
    · rw [type_modifyType_self bound, if_pos ⟨rfl, bound⟩]
    · rw [if_neg fun both => bound both.2]
      simp [Program.type, modifyType, Array.getElem?_modify,
        Array.getElem?_eq_none (Nat.le_of_not_lt bound)]
  · rw [type_modifyType_of_ne same, if_neg fun both => same both.1]

namespace OrderlySince

variable {program after start : Program}

/-- Whatever leaves the scopes and the names and scopes of symbols alone keeps the order, as long as
new types make no template of listed symbols. -/
theorem of_sameScopes (orderly : program.OrderlySince start)
    (scopes : after.scopes = program.scopes)
    (symbols_le : program.symbols.size ≤ after.symbols.size)
    (entry : ∀ symbol : SymbolId, symbol.index < program.symbols.size →
      (after.entry symbol).name = (program.entry symbol).name ∧
        (after.entry symbol).scope = (program.entry symbol).scope)
    (templates : ∀ type data, after.type type = .templateType data → ∀ symbol ∈ data.symbols,
      symbol.index < after.symbols.size ∧ program.IsUnlisted symbol) :
    after.OrderlySince start where
  names := by
    rw [scopes]
    exact orderly.names
  candidates := by
    rw [scopes]
    exact fun scope declared member =>
      (orderly.candidates scope declared member).mono symbols_le entry
  templates := by
    unfold IsUnlisted
    rw [scopes]
    exact templates
  symbols_le := Nat.le_trans orderly.symbols_le symbols_le
  unlisted := by
    unfold IsUnlisted
    rw [scopes]
    exact orderly.unlisted

/-- If moreover every template is still the same, that is enough. -/
theorem of_sameTemplates (orderly : program.OrderlySince start)
    (scopes : after.scopes = program.scopes)
    (symbols_le : program.symbols.size ≤ after.symbols.size)
    (entry : ∀ symbol : SymbolId, symbol.index < program.symbols.size →
      (after.entry symbol).name = (program.entry symbol).name ∧
        (after.entry symbol).scope = (program.entry symbol).scope)
    (templates : ∀ type data, after.type type = .templateType data →
      program.type type = .templateType data) : after.OrderlySince start := by
  refine orderly.of_sameScopes scopes symbols_le entry fun type data isTemplate symbol member => ?_
  obtain ⟨bound, unlisted⟩ := orderly.templates type data (templates type data isTemplate) symbol
    member
  exact ⟨Nat.lt_of_lt_of_le bound symbols_le, unlisted⟩

theorem addEntry (orderly : program.OrderlySince start) (added : SymbolEntry) :
    (program.addEntry added).2.OrderlySince start := by
  refine orderly.of_sameTemplates rfl (by simp) ?_ fun _ _ isTemplate => isTemplate
  intro symbol bound
  rw [entry_addEntry_of_lt bound]
  exact ⟨rfl, rfl⟩

theorem modifyEntry (orderly : program.OrderlySince start) (symbol : SymbolId)
    {change : SymbolEntry → SymbolEntry} (name : ∀ entry, (change entry).name = entry.name)
    (scope : ∀ entry, (change entry).scope = entry.scope) :
    (program.modifyEntry symbol change).OrderlySince start := by
  refine orderly.of_sameTemplates rfl (by simp) ?_ fun _ _ isTemplate => isTemplate
  intro id bound
  by_cases same : id = symbol
  · subst same
    rw [entry_modifyEntry_self bound]
    exact ⟨name _, scope _⟩
  · rw [entry_modifyEntry_of_ne same]
    exact ⟨rfl, rfl⟩

theorem newType (orderly : program.OrderlySince start) (type : Ty)
    (templates : ∀ data, type = .templateType data → ∀ symbol ∈ data.symbols,
      symbol.index < program.symbols.size ∧ program.IsUnlisted symbol) :
    (program.newType type).2.OrderlySince start := by
  refine orderly.of_sameScopes rfl (Nat.le_refl _) (fun _ _ => ⟨rfl, rfl⟩) ?_
  intro id data isTemplate symbol member
  by_cases isNew : id = (program.newType type).1
  · subst isNew
    rw [type_newType_self] at isTemplate
    exact templates data isTemplate symbol member
  · refine orderly.templates id data ?_ symbol member
    have bound : id.index < (program.newType type).2.types.size := by
      apply index_lt_of_type_ne_default
      rw [isTemplate]
      intro same
      cases same
    have notLast : id.index ≠ program.types.size := by
      rintro same
      exact isNew (by cases id; simp_all [Program.newType])
    have older : id.index < program.types.size := by
      simp only [Program.newType, Array.size_push] at bound
      omega
    rwa [type_newType_of_lt older] at isTemplate

theorem newPlainType (orderly : program.OrderlySince start) {type : Ty}
    (notTemplate : ∀ data, type ≠ .templateType data) :
    (program.newType type).2.OrderlySince start :=
  orderly.newType type fun data isTemplate => absurd isTemplate (notTemplate data)

theorem modifyTemplate (orderly : program.OrderlySince start) (type : TypeId)
    {change : TemplateType → TemplateType}
    (adds : ∀ data, ∀ symbol ∈ (change data).symbols, symbol ∈ data.symbols ∨
      symbol.index < program.symbols.size ∧ program.IsUnlisted symbol) :
    (program.modifyTemplate type change).OrderlySince start := by
  refine orderly.of_sameScopes rfl (Nat.le_refl _) (fun _ _ => ⟨rfl, rfl⟩) ?_
  intro id data isTemplate symbol member
  rw [Program.modifyTemplate, type_modifyType] at isTemplate
  split at isTemplate
  case isFalse => exact orderly.templates id data isTemplate symbol member
  case isTrue =>
    cases before : program.type id with
    | templateType original =>
        simp only [before, Ty.templateType.injEq] at isTemplate
        subst isTemplate
        rcases adds original symbol member with old | isNew
        · exact orderly.templates id original before symbol old
        · exact isNew
    | _ => simp [before] at isTemplate

theorem modifyClass (orderly : program.OrderlySince start) (type : TypeId)
    (change : ClassType → ClassType) : (program.modifyClass type change).OrderlySince start := by
  unfold Program.modifyClass
  split
  case h_2 => exact orderly
  case h_1 actual _ =>
    refine orderly.of_sameTemplates rfl (Nat.le_refl _) (fun _ _ => ⟨rfl, rfl⟩) ?_
    intro id data isTemplate
    rw [type_modifyType] at isTemplate
    split at isTemplate
    · cases before : program.type id <;> simp_all
    · exact isTemplate

theorem createChild (orderly : program.OrderlySince start) (parent : ScopeId) (kind : ScopeKind)
    (owner : Option SymbolId) :
    { program with scopes := (program.scopes.createChild parent kind owner).2 }
      |>.OrderlySince start where
  names scope := by
    rw [ScopeTree.entries_createChild]
    exact orderly.names scope
  candidates scope declared member := by
    rw [ScopeTree.entries_createChild] at member
    have before := orderly.candidates scope declared member
    exact ⟨before.ne_nil, before.increasing, before.declared⟩
  templates type data isTemplate symbol member := by
    obtain ⟨bound, unlisted⟩ := orderly.templates type data isTemplate symbol member
    refine ⟨bound, fun scope declared listed => ?_⟩
    rw [ScopeTree.entries_createChild] at listed
    exact unlisted scope declared listed
  symbols_le := orderly.symbols_le
  unlisted symbol bound unlisted := by
    intro scope declared listed
    rw [ScopeTree.entries_createChild] at listed
    exact orderly.unlisted symbol bound unlisted scope declared listed

/-- A symbol that is listed when it is created, under its name and in its scope, comes last among
the candidates. -/
theorem addListed (orderly : program.OrderlySince start) (added : SymbolEntry) :
    ((program.addEntry added).2.signIn added.scope added.name
      (program.addEntry added).1).OrderlySince start := by
  have grown := orderly.addEntry added
  have unlisted : ∀ id : SymbolId, id.index < program.symbols.size → program.IsUnlisted id →
      ((program.addEntry added).2.signIn added.scope added.name
        (program.addEntry added).1).IsUnlisted id := by
    intro id bound unlisted
    apply IsUnlisted.signIn unlisted
    rintro rfl
    exact Nat.lt_irrefl _ bound
  constructor
  constructor
  case names =>
    intro scope
    change (((program.scopes.insert added.scope added.name _).scope scope).entries.map (·.1)).Nodup
    rw [ScopeTree.entries_insert]
    split
    · exact ScopeEntries.nodup_insert (orderly.names scope)
    · exact orderly.names scope
  case candidates =>
    intro scope declared member
    rcases mem_entries_signIn member with old | ⟨rfl, symbols, rfl, before⟩
    · exact (grown.candidates scope declared old).mono (Nat.le_refl _) fun _ _ => ⟨rfl, rfl⟩
    -- The list that the symbol was added to: its earlier members are older than the symbol.
    · have younger : ∀ listed ∈ symbols, listed.index < program.symbols.size := by
        rcases before with old | rfl
        · exact fun listed inSymbols =>
            ((orderly.candidates _ _ old).declared listed inSymbols).1
        · simp
      have isAdded : (program.addEntry added).2.entry (program.addEntry added).1 = added :=
        entry_addEntry_self added
      have isList : (program.addEntry added).2.IsCandidateList added.scope added.name
          (symbols ++ [(program.addEntry added).1]) :=
        .snoc (before.imp_left (grown.candidates _ _)) younger (by simp [Program.addEntry])
          (by rw [isAdded]) (by rw [isAdded])
      exact isList.mono (Nat.le_refl _) fun _ _ => ⟨rfl, rfl⟩
  case templates =>
    intro type data isTemplate id member
    have bound := (grown.templates type data isTemplate id member).1
    obtain ⟨wasBound, wasUnlisted⟩ := orderly.templates type data isTemplate id member
    exact ⟨bound, unlisted id wasBound wasUnlisted⟩
  case symbols_le => exact grown.symbols_le
  case unlisted =>
    intro id bound wasUnlisted
    exact unlisted id (Nat.lt_of_lt_of_le bound orderly.symbols_le)
      (orderly.unlisted id bound wasUnlisted)

theorem newSymbol (orderly : program.OrderlySince start) (context : DeclContext) (scope : ScopeId)
    (name : String) (kind : SymbolKind) :
    (program.newSymbol context scope name kind).2.OrderlySince start :=
  orderly.addListed _

theorem newUnscopedSymbol (orderly : program.OrderlySince start) (context : DeclContext)
    (name : String) (kind : SymbolKind) :
    (program.newUnscopedSymbol context name kind).2.OrderlySince start :=
  orderly.addEntry _

theorem copySymbolInto (orderly : program.OrderlySince start) (source : SymbolId)
    (scope : ScopeId) : (program.copySymbolInto source scope).2.OrderlySince start :=
  orderly.addListed { program.entry source with scope }

theorem declareVariable (orderly : program.OrderlySince start) (context : DeclContext)
    (name : String) (type : TypeId) (initializer : Option NodeId) :
    (program.declareVariable context name type initializer).2.OrderlySince start :=
  (orderly.newSymbol context context.currentScope name .variableName).modifyEntry _
    (fun _ => rfl) fun _ => rfl

theorem declareEnumerator (orderly : program.OrderlySince start) (context : DeclContext)
    (name : String) (type : TypeId) (value : NodeId) :
    (program.declareEnumerator context name type value).2.OrderlySince start :=
  (orderly.newSymbol context context.currentScope name .enumerator).modifyEntry _
    (fun _ => rfl) fun _ => rfl

theorem declareNamespace (orderly : program.OrderlySince start) (context : DeclContext)
    (name : String) : (program.declareNamespace context name).2.OrderlySince start :=
  ((orderly.newSymbol context context.currentScope name .namespaceName).createChild _ _ _
    ).modifyEntry _ (fun _ => rfl) fun _ => rfl

theorem declareParameter (orderly : program.OrderlySince start) (context : DeclContext)
    (position : Nat) (declaration : ParameterDeclaration) :
    (program.declareParameter context position declaration).2.OrderlySince start :=
  (orderly.newSymbol context context.currentScope declaration.name declaration.symbolKind
    ).modifyEntry _ (fun _ => rfl) fun _ => rfl

theorem declareParametersFrom (orderly : program.OrderlySince start) (context : DeclContext)
    (position : Nat) (declarations : List ParameterDeclaration) :
    (declareParametersFrom context position declarations program).2.OrderlySince start := by
  induction declarations generalizing position program with
  | nil => exact orderly
  | cons declaration rest ih =>
      exact ih (orderly.declareParameter context position declaration) (position + 1)

theorem declareTemplateParameters (orderly : program.OrderlySince start) (context : DeclContext)
    (declarations : List ParameterDeclaration) :
    (program.declareTemplateParameters context declarations).2.OrderlySince start :=
  (orderly.createChild _ _ _).declareParametersFrom _ 0 declarations

theorem declareTemplate (orderly : program.OrderlySince start) (context : DeclContext)
    (name : String) (declarations : List ParameterDeclaration) (kind : SymbolKind)
    {genericType : Specialization → Ty} (defined : Bool)
    (notTemplate : ∀ specialization data, genericType specialization ≠ .templateType data) :
    (program.declareTemplate context name declarations kind genericType defined).2.OrderlySince
      start := by
  have named := (orderly.declareTemplateParameters context declarations).newSymbol context
    context.currentScope name .templateName
  refine modifyEntry (newPlainType (modifyEntry (newType (named.newUnscopedSymbol _ name kind) _ ?_)
    _ ?_ ?_) (notTemplate _)) _ ?_ ?_
  -- The generic definition is younger than all that is listed.
  · rintro _ ⟨⟩ symbol member
    cases List.mem_singleton.mp member
    exact named.isUnlisted_newUnscopedSymbol
      (program.declareTemplateParameters context declarations).1.1 name kind
  all_goals exact fun _ => rfl

theorem declareClassSpecialization? (orderly : program.OrderlySince start)
    {template entry : SymbolId} {declarations : List ParameterDeclaration}
    {arguments : List TemplateArgument} {trees : InstantiationTrees}
    (declares : program.declareClassSpecialization? template declarations arguments trees =
      some (entry, after)) :
    after.OrderlySince start ∧ entry.index < after.symbols.size ∧ after.IsUnlisted entry := by
  unfold Program.declareClassSpecialization? at declares
  obtain ⟨templateType, _, declares⟩ := Option.bind_eq_some_iff.mp declares
  cases declares
  let outer :=
    if declarations.isEmpty then
      { (program.entry template).declContext with
        flags :=
          { (program.entry template).declContext.flags with explicitSpecialization := true } }
    else
      (program.entry template).declContext
  have parameters := orderly.declareTemplateParameters outer declarations
  obtain ⟨bound, unlisted⟩ := parameters.isUnlisted_newUnscopedSymbol
    (program.declareTemplateParameters outer declarations).1.1
    ((program.declareTemplateParameters outer declarations).2.symbolName template) .className
  refine ⟨modifyTemplate (modifyEntry (newPlainType (parameters.newUnscopedSymbol _ _ .className)
    ?_) _ ?_ ?_) _ fun data symbol member => ?_,
      Nat.lt_of_lt_of_eq bound (size_modifyEntry _ _).symm, unlisted⟩
  · rintro _ ⟨⟩
  · exact fun _ => rfl
  · exact fun _ => rfl
  · apply (TemplateType.mem_symbols_addSpecialization member).imp_right
    rintro rfl
    exact ⟨Nat.lt_of_lt_of_eq bound (size_modifyEntry _ _).symm, unlisted⟩

/-- So is an instance, and one that exists already changes nothing. -/
theorem templateInstance? (orderly : program.OrderlySince start) {template entry : SymbolId}
    {arguments : List TemplateArgument} {kind : SymbolKind} {instanceType : Specialization → Ty}
    (notTemplate : ∀ specialization data, instanceType specialization ≠ .templateType data)
    (creates : program.templateInstance? template arguments kind instanceType =
      some (entry, after)) :
    after.OrderlySince start ∧ entry.index < after.symbols.size ∧ after.IsUnlisted entry := by
  obtain ⟨templateType, data, -, hasData, ⟨found, rfl⟩ | ⟨parameters, created⟩⟩ :=
    templateInstance?_cases creates
  · refine ⟨orderly, ?_⟩
    unfold templateData? at hasData
    split at hasData
    · next isTemplate =>
      cases hasData
      apply orderly.templates _ _ isTemplate
      apply List.mem_cons_of_mem
      exact List.mem_append_right _ (List.mem_of_find?_eq_some found)
    · cases hasData
  · cases created
    obtain ⟨bound, unlisted⟩ := orderly.isUnlisted_newUnscopedSymbol
      (program.entry template).declContext (program.symbolName template) kind
    refine ⟨modifyTemplate (modifyEntry (newPlainType (orderly.newUnscopedSymbol _ _ kind)
      (notTemplate _)) _ ?_ ?_) _ fun data symbol member => ?_,
        Nat.lt_of_lt_of_eq bound (size_modifyEntry _ _).symm, unlisted⟩
    · exact fun _ => rfl
    · exact fun _ => rfl
    · apply (TemplateType.mem_symbols_addInstance member).imp_right
      rintro rfl
      exact ⟨Nat.lt_of_lt_of_eq bound (size_modifyEntry _ _).symm, unlisted⟩

end OrderlySince

end Program

end CppTemplates
