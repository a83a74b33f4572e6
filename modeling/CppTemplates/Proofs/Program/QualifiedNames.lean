import CppTemplates.Program.Declare
import CppTemplates.Proofs.Program.ScopeChains
import CppTemplates.Proofs.Program.Typedefs

/-!
# Qualified names

The components of a qualified name are looked up from left to right, each but the first in the
scope that the one before it opens.  A component is passed if it is an identifier, has a candidate,
and the first candidate opens a scope.  The first component that is not passed decides what the
whole name finds or why it finds nothing, and the components behind it do not count.  The last
component opens nothing, so it always decides.

A component is looked up behind a qualifier or without one.  Behind a qualifier only what its scope
itself declares is found; without one the walk leads outwards from the current scope.
-/

namespace CppTemplates

namespace SyntaxTree

/-- The components of a qualified id, with the scope that a leading `::` puts before the first of
them. -/
inductive IsPath (tree : SyntaxTree) (context : DeclContext) (id : NodeId) :
    Option ScopeId → List NodeId → Prop where
  | relative {components : List NodeId} (children : (tree.node id).children = components)
      (notGlobal : ∀ first ∈ components.head?, (tree.node first).kind ≠ .globalScope) :
      IsPath tree context id none components
  | absolute {root : NodeId} {components : List NodeId}
      (children : (tree.node id).children = root :: components)
      (isGlobal : (tree.node root).kind = .globalScope) :
      IsPath tree context id (some context.globalScope) components

/-- A component is an identifier that spells a name. -/
structure SpellsName (tree : SyntaxTree) (component : NodeId) (name : String) : Prop where
  kind : (tree.node component).kind = .symbol
  text : (tree.node component).text = some name

theorem componentName_eq_ok_iff {tree : SyntaxTree} {component : NodeId} {name : String} :
    tree.componentName component = .ok name ↔ tree.SpellsName component name := by
  unfold componentName
  constructor
  · intro named
    split at named
    · next isSymbol =>
      split at named
      · next hasText =>
        cases named
        exact ⟨isSymbol, hasText⟩
      · cases named
    · cases named
  · intro spells
    rw [spells.kind, spells.text]

theorem componentName_eq_error_iff {tree : SyntaxTree} {component : NodeId} {cause : LookupError} :
    tree.componentName component = .error cause ↔
      (tree.node component).kind ≠ .symbol ∧ cause = .notAName (tree.node component).kind ∨
      (tree.node component).kind = .symbol ∧ (tree.node component).text = none ∧
        cause = .missingText := by
  unfold componentName
  split
  · next isSymbol =>
    cases (tree.node component).text <;> simp [isSymbol, @eq_comm _ cause]
  · next notSymbol =>
    have other : (tree.node component).kind ≠ .symbol := notSymbol
    simp [other, @eq_comm _ cause]

end SyntaxTree

namespace Program

/-- A type is a class, names one, or is a typedef of such a type. -/
inductive DenotesClass (program : Program) : TypeId → ClassType → Prop where
  | itself {type : TypeId} {data : ClassType} (isClass : program.type type = .classType data) :
      DenotesClass program type data
  | name {type named : TypeId} {symbol : SymbolId} {data : ClassType}
      (isName : program.type type = .named symbol)
      (hasType : (program.entry symbol).type = some named)
      (isClass : program.type named = .classType data) : DenotesClass program type data
  | typedef {type next : TypeId} {data : ClassType} (aliases : program.aliased? type = some next)
      (denotes : DenotesClass program next data) : DenotesClass program type data

/-- A symbol opens a scope for the names behind it: a namespace that has one its related scope, a
class that has an inner context the scope of its members, and a typedef what the class opens. -/
inductive OpensScope (program : Program) (symbol : SymbolId) : ScopeId → Prop where
  | ofNamespace {scope : ScopeId} (isNamespace : (program.entry symbol).kind = .namespaceName)
      (related : (program.entry symbol).relatedScope = some scope) : OpensScope program symbol scope
  | ofClass {type : TypeId} {data : ClassType} {inner : DeclContext}
      (isClass : (program.entry symbol).kind = .className ∨
        (program.entry symbol).kind = .typedefName)
      (hasType : (program.entry symbol).type = some type)
      (denotes : program.DenotesClass type data) (filled : data.innerContext = some inner) :
      OpensScope program symbol inner.currentScope

/-- The candidates of a name: without a qualifier those of the nearest scope outwards, behind a
qualifier those that its scope itself declares. -/
inductive Finds (program : Program) (context : DeclContext) (name : String) :
    Option ScopeId → List SymbolId → Prop where
  | outwards : Finds program context name none
      (program.scopes.lookup context.currentScope name)
  | inside (scope : ScopeId) : Finds program context name (some scope)
      (program.scopes.lookupLocal scope name)

/-- Components are passed from one qualifier to the next: each is an identifier whose first
candidate opens a scope. -/
inductive Passes (program : Program) (tree : SyntaxTree) (context : DeclContext) :
    Option ScopeId → List NodeId → Option ScopeId → Prop where
  | nil (qualifier : Option ScopeId) : Passes program tree context qualifier [] qualifier
  | cons {qualifier final : Option ScopeId} {component : NodeId} {path : List NodeId}
      {name : String} {first : SymbolId} {others : List SymbolId} {scope : ScopeId}
      (spells : tree.SpellsName component name)
      (finds : program.Finds context name qualifier (first :: others))
      (opens : program.OpensScope first scope)
      (passes : Passes program tree context (some scope) path final) :
      Passes program tree context qualifier (component :: path) final

/-- A component behind a qualifier, with more components to follow or none, decides the lookup. -/
inductive Decides (program : Program) (tree : SyntaxTree) (context : DeclContext)
    (qualifier : Option ScopeId) (component : NodeId) (rest : List NodeId) :
    Except LookupError (List SymbolId) → Prop where
  | notAName (notSymbol : (tree.node component).kind ≠ .symbol) :
      Decides program tree context qualifier component rest
        (.error (.notAName (tree.node component).kind))
  | missingText (isSymbol : (tree.node component).kind = .symbol)
      (noText : (tree.node component).text = none) :
      Decides program tree context qualifier component rest (.error .missingText)
  | undeclared {name : String} (spells : tree.SpellsName component name) (notLast : rest ≠ [])
      (finds : program.Finds context name qualifier []) :
      Decides program tree context qualifier component rest (.ok [])
  | notAScope {name : String} {first : SymbolId} {others : List SymbolId}
      (spells : tree.SpellsName component name) (notLast : rest ≠ [])
      (finds : program.Finds context name qualifier (first :: others))
      (opensNone : ∀ scope, ¬ program.OpensScope first scope) :
      Decides program tree context qualifier component rest (.error (.notAScope name))
  | last {name : String} {found : List SymbolId} (spells : tree.SpellsName component name)
      (isLast : rest = []) (finds : program.Finds context name qualifier found) :
      Decides program tree context qualifier component rest (.ok found)

variable {program : Program} {tree : SyntaxTree} {context : DeclContext}

theorem actualClass?_eq_of_aliased? {type next : TypeId}
    (aliases : program.aliased? type = some next) :
    program.actualClass? type = program.actualClass? next := by
  rw [← directClass?_followTypedefs_eq_actualClass? (Nat.le_succ _) type,
    followTypedefs_succ _ aliases]
  rfl

theorem DenotesClass.of_followTypedefs {type : TypeId} {data : ClassType} {steps : Nat}
    (denotes : program.DenotesClass (program.followTypedefs steps type) data) :
    program.DenotesClass type data := by
  induction steps generalizing type with
  | zero => exact denotes
  | succ steps ih =>
      cases aliases : program.aliased? type with
      | none => rwa [followTypedefs_of_eq_none _ aliases] at denotes
      | some next =>
          rw [followTypedefs_succ steps aliases] at denotes
          exact .typedef aliases (ih denotes)

theorem classData?_eq_some_iff_denotesClass {type : TypeId} {data : ClassType} :
    program.classData? type = some data ↔ program.DenotesClass type data := by
  constructor
  · intro hasData
    obtain ⟨actual, isActual, isClass⟩ := classData?_eq_some_iff.mp hasData
    rw [actualClass?_eq_directClass?] at isActual
    have atEnd : program.DenotesClass (program.stripTypedefs type) data := by
      obtain ⟨-, rfl | ⟨symbol, isName, hasType⟩⟩ := directClass?_eq_some.mp isActual
      · exact .itself isClass
      · exact .name isName hasType isClass
    exact atEnd.of_followTypedefs
  · intro denotes
    induction denotes with
    | itself isClass => exact classData?_eq_self isClass
    | @name type named symbol data isName hasType isClass =>
        have direct : program.directClass? type = some named :=
          directClass?_eq_some.mpr ⟨⟨data, isClass⟩, .inr ⟨symbol, isName, hasType⟩⟩
        refine classData?_eq_some_iff.mpr ⟨named, ?_, isClass⟩
        rw [actualClass?_eq_directClass?]
        exact directClass?_followTypedefs direct _
    | typedef aliases _ ih =>
        rwa [classData?, actualClass?_eq_of_aliased? aliases]

theorem openedScope?_eq_some_iff {symbol : SymbolId} {scope : ScopeId} :
    program.openedScope? symbol = some scope ↔ program.OpensScope symbol scope := by
  -- a class and a typedef are asked for the same thing
  have ofMembers (isClass : (program.entry symbol).kind = .className ∨
        (program.entry symbol).kind = .typedefName)
      (opened : ((program.entry symbol).type.bind fun type =>
        (program.classData? type).bind fun data =>
          data.innerContext.bind fun inner => some inner.currentScope) = some scope) :
      program.OpensScope symbol scope := by
    obtain ⟨type, hasType, opened⟩ := Option.bind_eq_some_iff.mp opened
    obtain ⟨data, hasData, opened⟩ := Option.bind_eq_some_iff.mp opened
    obtain ⟨inner, filled, same⟩ := Option.bind_eq_some_iff.mp opened
    rw [← Option.some.inj same]
    exact .ofClass isClass hasType (classData?_eq_some_iff_denotesClass.mp hasData) filled
  constructor
  · intro opened
    unfold openedScope? at opened
    cases kind : (program.entry symbol).kind with
    | namespaceName =>
        simp only [kind] at opened
        exact .ofNamespace kind opened
    | className =>
        simp only [kind] at opened
        exact ofMembers (.inl kind) opened
    | typedefName =>
        simp only [kind] at opened
        exact ofMembers (.inr kind) opened
    | _ => simp [kind] at opened
  · intro opens
    unfold openedScope?
    cases opens with
    | ofNamespace isNamespace related => simp [isNamespace, related]
    | ofClass isClass hasType denotes filled =>
        have hasData := classData?_eq_some_iff_denotesClass.mpr denotes
        rcases isClass with kind | kind <;> simp [kind, hasType, hasData, filled]

theorem openedScope?_eq_none_iff {symbol : SymbolId} :
    program.openedScope? symbol = none ↔ ∀ scope, ¬ program.OpensScope symbol scope := by
  simp only [Option.eq_none_iff_forall_ne_some, ne_eq, openedScope?_eq_some_iff]

theorem finds_iff {name : String} {qualifier : Option ScopeId} {found : List SymbolId} :
    program.Finds context name qualifier found ↔
      program.candidates context qualifier name = found := by
  constructor
  · intro finds
    cases finds with
    | outwards => rfl
    | inside scope => rfl
  · rintro rfl
    cases qualifier with
    | none => exact .outwards
    | some scope => exact .inside scope

/-- The component that decides says what the lookup of it and the components behind it ends with. -/
theorem Decides.resolvePath_eq {qualifier : Option ScopeId} {component : NodeId}
    {rest : List NodeId} {result : Except LookupError (List SymbolId)}
    (decides : program.Decides tree context qualifier component rest result) :
    program.resolvePath tree context qualifier (component :: rest) = result := by
  cases decides with
  | notAName notSymbol =>
      exact resolvePath_of_error
        (SyntaxTree.componentName_eq_error_iff.mpr (.inl ⟨notSymbol, rfl⟩)) rest
  | missingText isSymbol noText =>
      exact resolvePath_of_error
        (SyntaxTree.componentName_eq_error_iff.mpr (.inr ⟨isSymbol, noText, rfl⟩)) rest
  | undeclared spells notLast finds =>
      rw [resolvePath_of_ok (SyntaxTree.componentName_eq_ok_iff.mpr spells) notLast,
        finds_iff.mp finds]
  | notAScope spells notLast finds opensNone =>
      rw [resolvePath_of_ok (SyntaxTree.componentName_eq_ok_iff.mpr spells) notLast,
        finds_iff.mp finds]
      simp only [openedScope?_eq_none_iff.mpr opensNone]
  | last spells isLast finds =>
      subst isLast
      rw [resolvePath_last (SyntaxTree.componentName_eq_ok_iff.mpr spells), finds_iff.mp finds]

/-- Components that are passed leave the rest to be looked up behind the last qualifier. -/
theorem Passes.resolvePath_append {qualifier final : Option ScopeId} {path rest : List NodeId}
    (passes : program.Passes tree context qualifier path final) (notLast : rest ≠ []) :
    program.resolvePath tree context qualifier (path ++ rest) =
      program.resolvePath tree context final rest := by
  induction passes with
  | nil qualifier => rfl
  | cons spells finds opens _ ih =>
      rw [List.cons_append, resolvePath_of_ok (SyntaxTree.componentName_eq_ok_iff.mpr spells)
        (List.append_ne_nil_of_right_ne_nil _ notLast), finds_iff.mp finds]
      simp only [openedScope?_eq_some_iff.mpr opens]
      exact ih

theorem decides_of_componentName_error {component : NodeId} {cause : LookupError}
    (failed : tree.componentName component = .error cause) (qualifier : Option ScopeId)
    (rest : List NodeId) :
    program.Decides tree context qualifier component rest (.error cause) := by
  rcases SyntaxTree.componentName_eq_error_iff.mp failed with
    ⟨notSymbol, rfl⟩ | ⟨isSymbol, noText, rfl⟩
  · exact .notAName notSymbol
  · exact .missingText isSymbol noText

/-- Some component decides, after all before it have been passed. -/
theorem exists_decides (program : Program) (tree : SyntaxTree) (context : DeclContext)
    (qualifier : Option ScopeId) {components : List NodeId} (nonempty : components ≠ []) :
    ∃ path component rest final, components = path ++ component :: rest ∧
      program.Passes tree context qualifier path final ∧
      program.Decides tree context final component rest
        (program.resolvePath tree context qualifier components) := by
  induction components generalizing qualifier with
  | nil => exact absurd rfl nonempty
  | cons component rest ih =>
      have atFirst {result : Except LookupError (List SymbolId)}
          (decides : program.Decides tree context qualifier component rest result) :
          ∃ path deciding others final, component :: rest = path ++ deciding :: others ∧
            program.Passes tree context qualifier path final ∧
            program.Decides tree context final deciding others
              (program.resolvePath tree context qualifier (component :: rest)) := by
        rw [decides.resolvePath_eq]
        exact ⟨[], component, rest, qualifier, rfl, .nil qualifier, decides⟩
      cases named : tree.componentName component with
      | error cause => exact atFirst (decides_of_componentName_error named qualifier rest)
      | ok name =>
          have spells := SyntaxTree.componentName_eq_ok_iff.mp named
          by_cases isLast : rest = []
          · exact atFirst (.last spells isLast (finds_iff.mpr rfl))
          cases found : program.candidates context qualifier name with
          | nil => exact atFirst (.undeclared spells isLast (finds_iff.mpr found))
          | cons first others =>
              cases opened : program.openedScope? first with
              | none =>
                  exact atFirst (.notAScope spells isLast (finds_iff.mpr found)
                    (openedScope?_eq_none_iff.mp opened))
              | some scope =>
                  obtain ⟨path, deciding, behind, final, split, passes, decides⟩ :=
                    ih (some scope) isLast
                  have opens := openedScope?_eq_some_iff.mp opened
                  refine ⟨component :: path, deciding, behind, final, by rw [split]; rfl,
                    .cons spells (finds_iff.mpr found) opens passes, ?_⟩
                  rw [resolvePath_of_ok named isLast, found]
                  simp only [opened]
                  exact decides

/-- A qualified id is resolved along its path. -/
theorem queryIdExpression_eq_resolvePath {id : NodeId} {start : Option ScopeId}
    {components : List NodeId} (isQualified : (tree.node id).kind = .qualifiedId)
    (isPath : tree.IsPath context id start components) :
    program.queryIdExpression tree context id =
      program.resolvePath tree context start components := by
  have query : program.queryIdExpression tree context id =
      program.resolveQualified tree context (tree.node id).children := by
    rw [queryIdExpression, isQualified]
  rw [query]
  cases isPath with
  | relative children notGlobal =>
      rw [children]
      cases components with
      | nil => rfl
      | cons first rest =>
          simp only [resolveQualified]
          split
          · next isGlobal => exact absurd isGlobal (notGlobal first rfl)
          · rfl
  | absolute children isGlobal =>
      rw [children]
      simp only [resolveQualified, isGlobal]

/-- Qualified lookup resolves from left to right.  Let a qualified id consist of some components
after an optional leading `::`.  If there are none, it is no name.  Otherwise the result is what the
first component gives that decides, all components before it having been passed: an error if it is
no identifier or has no text, or if others follow it and its first candidate opens no scope; nothing
if others follow it and it has no candidates; and its candidates if it is the last.  The candidates
of the first component of a relative name are those of the nearest scope on the chain outwards from
the current scope.

A candidate that is a typedef opens the scope of the class behind it.  If its typedefs lead back to
themselves there is no such class: following them does not terminate, lookup has no result, and what
is said here about a component of that name is void. -/
theorem qualified_lookup_resolves_left_to_right (program : Program) (tree : SyntaxTree)
    (context : DeclContext) (id : NodeId) (isQualified : (tree.node id).kind = .qualifiedId)
    (start : Option ScopeId) (components : List NodeId)
    (isPath : tree.IsPath context id start components) :
    (components = [] →
      program.queryIdExpression tree context id = .error (.notAName .qualifiedId)) ∧
    (components ≠ [] → ∀ result, program.queryIdExpression tree context id = result ↔
      ∃ path component rest qualifier, components = path ++ component :: rest ∧
        program.Passes tree context start path qualifier ∧
        program.Decides tree context qualifier component rest result) ∧
    (program.scopes.IsNested → ∀ name,
      program.scopes.FindsNearest name context.currentScope) := by
  rw [queryIdExpression_eq_resolvePath isQualified isPath]
  refine ⟨?_, fun nonempty result => ⟨?_, ?_⟩, fun nested name => ?_⟩
  · rintro rfl
    rfl
  · rintro rfl
    exact exists_decides program tree context start nonempty
  · rintro ⟨path, component, rest, qualifier, rfl, passes, decides⟩
    rw [passes.resolvePath_append (List.cons_ne_nil component rest), decides.resolvePath_eq]
  · exact nested.findsNearest name context.currentScope

end Program

namespace Sample

/-- A namespace `n` with a class `A`, which has a member `K`, and with a typedef `T` of it. -/
def aliasedClass : Program :=
  let ((_, inside), program) := ({} : Program).declareNamespace ScopeTree.globalContext "n"
  let (symbol, program) := program.newSymbol inside inside.currentScope "A" .className
  let (members, scopes) := program.scopes.newClassContext inside symbol
  let (type, program) := { program with scopes }.newType
    (.classType { innerContext := some members })
  let program := program.modifyEntry symbol fun entry => { entry with type := some type }
  let (named, program) := program.newNamedType symbol
  let (synonym, program) := program.newTypedef named
  let (typedefName, program) := program.newSymbol inside inside.currentScope "T" .typedefName
  let program := program.modifyEntry typedefName fun entry => { entry with type := some synonym }
  (program.declareVariable members "K" type none).2

/-- The nodes of `::n::T::K`. -/
def pathThroughTypedef : SyntaxTree :=
  let tree := (SyntaxTree.empty.addLeaf .globalScope "::").2
  let tree := (((tree.addIdentifier "n").2.addIdentifier "T").2.addIdentifier "K").2
  (tree.addInterior .qualifiedId [⟨0⟩, ⟨1⟩, ⟨2⟩, ⟨3⟩]).2

/-- The namespace is found in the global scope, the typedef in the namespace and opens the class,
and the member is found in the class. -/
theorem member_found_through_typedef :
    (pathThroughTypedef.node ⟨4⟩).kind = .qualifiedId ∧
    pathThroughTypedef.IsPath ScopeTree.globalContext ⟨4⟩ (some ScopeTree.global)
      [⟨1⟩, ⟨2⟩, ⟨3⟩] ∧
    aliasedClass.queryIdExpression pathThroughTypedef ScopeTree.globalContext ⟨4⟩ =
      .ok [⟨3⟩] := by
  have isPath : pathThroughTypedef.IsPath ScopeTree.globalContext ⟨4⟩ (some ScopeTree.global)
      [⟨1⟩, ⟨2⟩, ⟨3⟩] := .absolute rfl rfl
  have isNamespace : aliasedClass.OpensScope ⟨0⟩ ⟨1⟩ := .ofNamespace rfl rfl
  have isAlias : aliasedClass.OpensScope ⟨2⟩ ⟨2⟩ := by
    have isClass : aliasedClass.type ⟨0⟩ =
        .classType ((aliasedClass.classData? ⟨0⟩).getD default) := rfl
    have denotes : aliasedClass.DenotesClass ⟨2⟩ _ := .typedef rfl (.name rfl rfl isClass)
    exact .ofClass (.inr rfl) rfl denotes rfl
  have passes : aliasedClass.Passes pathThroughTypedef ScopeTree.globalContext
      (some ScopeTree.global) [⟨1⟩, ⟨2⟩] (some ⟨2⟩) :=
    .cons ⟨rfl, rfl⟩ (.inside _) isNamespace (.cons ⟨rfl, rfl⟩ (.inside _) isAlias (.nil _))
  have resolves := Program.qualified_lookup_resolves_left_to_right aliasedClass pathThroughTypedef
    ScopeTree.globalContext ⟨4⟩ rfl _ _ isPath
  refine ⟨rfl, isPath, (resolves.2.1 (List.cons_ne_nil _ _) _).mpr ?_⟩
  exact ⟨_, _, _, _, rfl, passes, .last ⟨rfl, rfl⟩ rfl (.inside _)⟩

end Sample

end CppTemplates
