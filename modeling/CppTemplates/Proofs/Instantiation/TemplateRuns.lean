import CppTemplates.Proofs.Instantiation.Discipline
import CppTemplates.Proofs.Instantiation.SymbolTableRuns
import CppTemplates.Proofs.Program.Matching
import CppTemplates.Proofs.Program.Templates

/-!
# Templates in a running compilation

Programs come about by declarations and instantiations in any order, also by instantiations that
stop halfway.  Instantiation edits the very class types that lead back to a template and declares
names in the scopes around its parameters.  The links of a template survive all of it, so a request
for an instance fails only where there is no template.
-/

namespace CppTemplates

namespace Program

/-- An operation that takes back nothing that is declared. -/
structure Declaration (before after : Program) : Prop where
  operation : before.Operation after
  retains : before.Retains after

/-- A step of a compilation: a declaration, or an instantiation that ends with or without an error.
The analyzer may make all declarations and request further instantiations. -/
inductive DeclarationStep : Program → Program → Prop
  | declaration {program after : Program} (declares : program.Declaration after) :
      DeclarationStep program after
  | instantiation {σ : Type} {analyzer : Analyzer σ}
      (updates : analyzer.Updates (Relation.ReflTransGen Declaration)) (request : Request)
      (before : Compilation σ) :
      DeclarationStep before.session.program
        ((Activity.perform analyzer request).final before).session.program

/-- What the engine does by itself: it takes back nothing that is declared, changes no template and
turns no typedef to another type. -/
structure FillsIn (before after : Program) : Prop
    extends before.KeepsTemplates after, before.KeepsTypedefs after

namespace FillsIn

variable (program : Program)

theorem refl : program.FillsIn program :=
  ⟨.refl program, (KeepsTypedefs.refl program).typedefs⟩

theorem trans {first second third : Program} (earlier : first.FillsIn second)
    (later : second.FillsIn third) : first.FillsIn third :=
  ⟨earlier.toKeepsTemplates.trans later.toKeepsTemplates,
    (earlier.toKeepsTypedefs.trans later.toKeepsTypedefs).typedefs⟩

theorem of_keepsSymbols {before after : Program} (keeps : before.KeepsTemplates after)
    (symbols : before.KeepsSymbols after) : before.FillsIn after :=
  ⟨keeps, (KeepsTypedefs.of_keepsSymbols keeps.toRetains symbols).typedefs⟩

theorem newTypedef (type : TypeId) : program.FillsIn (program.newTypedef type).2 :=
  .of_keepsSymbols (.newType fun _ isTemplate => nomatch isTemplate)
    ((KeepsSymbols.refl program).newType _)

theorem createChild (parent : ScopeId) (kind : ScopeKind) (owner : Option SymbolId) :
    program.FillsIn { program with scopes := (program.scopes.createChild parent kind owner).2 } :=
  .of_keepsSymbols (.createChild program parent kind owner) (.withScopes (.refl program) _)

theorem declareArgument (context : DeclContext) (name : String) (kind : SymbolKind)
    (type : TypeId) (value : Option NodeId) :
    program.FillsIn (program.declareArgument context name kind type value).2 :=
  .of_keepsSymbols
    (.of_sameTypes (retains_declareArgument program context name kind type value)
      (.insert _ _ _ _) rfl)
    (keepsSymbols_declareArgument program context name kind type value)

theorem openInstance (entry : SymbolId) (classType : TypeId) :
    program.FillsIn (program.openInstance entry classType).2 :=
  .of_keepsSymbols
    (((KeepsTemplates.createChild program _ _ _).trans (.createChild _ _ _ _)).trans
      (.modifyClass ((Retains.refl _).modifyClass classType fun _ => ⟨rfl, rfl⟩)))
    (keepsSymbols_openInstance program entry classType)

theorem completeInstance (entry : SymbolId) (classType : TypeId) (inner : DeclContext) :
    program.FillsIn (program.completeInstance entry classType inner) := by
  have copied := ((KeepsEntities.refl program).addEntry
    { program.entry entry with scope := inner.currentScope }).withScopes
      (program.scopes.insert inner.currentScope (program.symbolName entry)
        ⟨program.symbols.size⟩)
  have injected : program.KeepsTemplates
      ((program.copySymbolInto entry inner.currentScope).2.modifyEntry ⟨program.symbols.size⟩ _) :=
    .of_sameTypes (.of_keepsEntities (copied.modifyEntry_new (Nat.le_refl _) fun copy =>
      { copy with hidden := true, isInjectedClassName := true, refersTo := some entry }))
      (.insert _ _ _ _) rfl
  exact .of_keepsSymbols
    (injected.trans (.modifyClass ((Retains.refl _).modifyClass classType fun _ => ⟨rfl, rfl⟩)))
    (keepsSymbols_completeInstance program entry classType inner)

theorem define (session : Session) (entry : SymbolId) :
    session.program.FillsIn (session.define entry).program := by
  have keeps := (KeepsEntities.refl session.program).modifyEntry_defined entry
  refine ⟨.of_sameTypes (.of_keepsEntities keeps) (.refl _) rfl, fun symbol bound _ => ?_⟩
  obtain ⟨defined, _, same⟩ := keeps.entry symbol bound
  exact (congrArg SymbolEntry.type same :)

end FillsIn

end Program

section Engine

variable {holds : Program → Prop}
  (kept : ∀ before after, before.FillsIn after → holds before → holds after)
include kept

theorem Session.upkeep_of_fillsIn :
    Session.Upkeep (fun session => holds session.program) fun _ => True where
  same _ _ sameProgram _ held := sameProgram ▸ held
  opened _ _ _ _ := trivial
  grows _ _ _ held := held
  typedefs _ type := kept _ _ (.newTypedef _ type)
  declares _ context name kind type value _ :=
    kept _ _ (.declareArgument _ context name kind type value)

theorem Session.classUpkeep_of_fillsIn (entry : SymbolId) (classType : TypeId) :
    Session.ClassUpkeep (fun session => holds session.program) (fun _ => True) entry classType :=
  { Session.upkeep_of_fillsIn kept with
    opens := fun _ => kept _ _ (.openInstance _ entry classType)
    completes := fun _ inner _ => kept _ _ (.completeInstance _ entry classType inner)
    defines := fun _ => kept _ _ (.define _ entry) }

theorem Session.functionUpkeep_of_fillsIn (entry : SymbolId) :
    Session.FunctionUpkeep (fun session => holds session.program) (fun _ => True) entry :=
  { Session.upkeep_of_fillsIn kept with
    opens := fun _ _ => kept _ _ (.createChild _ _ _ _)
    defines := fun _ => kept _ _ (.define _ entry) }

/-- However an instantiation ends, it keeps what filling in and the changes of the analyzer keep. -/
theorem Activity.holds_of_perform {σ : Type} {analyzer : Analyzer σ}
    {allowed : Program → Program → Prop} (updates : analyzer.Updates allowed)
    (allows : ∀ before after, allowed before after → holds before → holds after)
    (request : Request) (before : Compilation σ) (held : holds before.session.program) :
    holds ((Activity.perform analyzer request).final before).session.program := by
  have keeps := Activity.keeps_perform (Session.classUpkeep_of_fillsIn kept)
    (Session.functionUpkeep_of_fillsIn kept) (fun _ _ => allows _ _) updates request
  obtain ⟨-, heldAfter⟩ := Activity.exists_of_satisfies (keeps before held)
  exact heldAfter

end Engine

theorem Session.fillsIn_of_injectArgument {session after : Session} {context : DeclContext}
    {name : String} {kind : ParameterKind} {argument : TemplateArgument} {symbol : SymbolId}
    (injects : session.injectArgument context name kind argument = .ok (symbol, after)) :
    session.program.FillsIn after.program :=
  (Session.upkeep_of_fillsIn fun _ _ fills before => before.trans fills).injects trivial injects
    (.refl session.program)

namespace Program

variable {program after : Program}

/-- The operations that declare a template or add to one. -/
inductive ChangesTemplate (program : Program) : Program → Prop
  | declares (context : DeclContext) (name : String) (declarations : List ParameterDeclaration)
      (kind : SymbolKind) {genericType : Specialization → Ty}
      (links : ∀ specialization, (genericType specialization).specialization? =
        some specialization) (defined : Bool) :
      program.ChangesTemplate
        (program.declareTemplate context name declarations kind genericType defined).2
  | specializes {after : Program} {template symbol : SymbolId}
      {declarations : List ParameterDeclaration} {arguments : List TemplateArgument}
      {trees : InstantiationTrees}
      (declares : program.declareClassSpecialization? template declarations arguments trees =
        some (symbol, after)) : program.ChangesTemplate after
  | namesClass {after : Program} {template symbol : SymbolId} {arguments : List TemplateArgument}
      (names : program.classInstance? template arguments = some (symbol, after)) :
      program.ChangesTemplate after
  | namesFunction {after : Program} {template symbol : SymbolId}
      {arguments : List TemplateArgument}
      (names : program.functionInstance? template arguments = some (symbol, after)) :
      program.ChangesTemplate after

/-- Every other declaration leaves all templates as they are. -/
theorem Declaration.keeps_or_changes (declares : program.Declaration after) :
    program.KeepsTemplates after ∨ program.ChangesTemplate after := by
  obtain ⟨operation, retains⟩ := declares
  cases operation with
  | ofSymbol context scope name kind => exact .inl (.newSymbol program context scope name kind)
  | ofUnscopedSymbol context name kind => exact .inl (.addEntry program _)
  | ofCopy source scope => exact .inl (.of_sameTypes retains (.insert _ _ _ _) rfl)
  | ofScope parent kind owner => exact .inl (.createChild program parent kind owner)
  | ofType notTemplate => exact .inl (.newType notTemplate)
  | ofVariable context name type initializer =>
      exact .inl (.of_sameTypes retains (.insert _ _ _ _) rfl)
  | ofEnumerator context name type value =>
      exact .inl (.of_sameTypes retains (.insert _ _ _ _) rfl)
  | ofNamespace context name =>
      exact .inl (.of_sameTypes retains ((ScopeTree.Lists.insert _ _ _ _).trans
        (.createChild _ _ _ _)) rfl)
  | ofTemplateParameters context declarations =>
      exact .inl (.declareTemplateParameters program context declarations)
  | ofClassTemplate context name declarations trees =>
      exact .inr (.declares context name declarations .className (fun _ => rfl) true)
  | ofFunctionTemplate context name declarations definition =>
      exact .inr (.declares context name declarations .function (fun _ => rfl) _)
  | ofSpecialization declares => exact .inr (.specializes declares)
  | ofClassInstance names => exact .inr (.namesClass names)
  | ofFunctionInstance names => exact .inr (.namesFunction names)
  | ofArgument injects => exact .inl (Session.fillsIn_of_injectArgument injects).toKeepsTemplates
  | ofClassEdit type change => exact .inl (.modifyClass retains)
  | ofSymbolEdit symbol name scope => exact .inl (.of_sameTypes retains (.refl _) rfl)

namespace HasTemplates

/-- Every declaration keeps templates together. -/
theorem declaration (has : program.HasTemplates) (declares : program.Declaration after) :
    after.HasTemplates := by
  rcases declares.keeps_or_changes with keeps | changes
  · exact has.kept keeps
  · cases changes with
    | declares context name declarations kind links defined =>
        exact has.declareTemplate context name declarations kind links defined
    | specializes declares => exact has.declareClassSpecialization? declares
    | namesClass names => exact has.templateInstance? (fun _ => rfl) names
    | namesFunction names => exact has.templateInstance? (fun _ => rfl) names

theorem declarations (has : program.HasTemplates)
    (declares : Relation.ReflTransGen Declaration program after) : after.HasTemplates := by
  induction declares with
  | refl => exact has
  | tail _ last ih => exact ih.declaration last

theorem declarationStep (has : program.HasTemplates) (step : program.DeclarationStep after) :
    after.HasTemplates := by
  cases step with
  | declaration declares => exact has.declaration declares
  | instantiation updates request before =>
      exact Activity.holds_of_perform (fun _ _ fills has => has.kept fills.toKeepsTemplates) updates
        (fun _ _ declares has => has.declarations declares) request before has

theorem of_reached (reached : Relation.ReflTransGen DeclarationStep {} program) :
    program.HasTemplates := by
  induction reached with
  | refl => exact hasTemplates_empty
  | tail _ last ih => exact ih.declarationStep last

end HasTemplates

/-- In every program that declarations and instantiations lead to, the type of a template, its name,
its generic definition, its specializations and its instances lead to each other.  The parameters of
the generic definition stand in its template scope at their positions, and the instances have them
too.  So there is no instance only where the type of a symbol is no template. -/
theorem templates_hold_together {program : Program}
    (reached : Relation.ReflTransGen DeclarationStep {} program) :
    (∀ templateType data, program.type templateType = .templateType data →
      (program.entry data.name).kind = .templateName ∧
      (program.entry data.name).type = some templateType ∧
      (∃ parameters,
        program.HasSpecialization data.primary { template := templateType, parameters } ∧
        (∃ scope nesting,
          (program.entry data.primary).declContext.templateScope = some scope ∧
          ∀ (position : Nat) (parameter : TemplateParameter),
            parameters[position]? = some parameter →
              parameter.entry ∈
                program.scopes.lookupLocal scope (program.symbolName parameter.entry) ∧
              (program.entry parameter.entry).position = position ∧
              (program.entry parameter.entry).nesting = nesting ∧
              (program.entry parameter.entry).kind = parameter.kind.symbolKind) ∧
        ∀ symbol ∈ data.instances, ∃ arguments,
          program.HasSpecialization symbol { template := templateType, parameters, arguments }) ∧
      (∀ symbol ∈ data.specializations, ∃ specialization,
        program.HasSpecialization symbol specialization ∧
          specialization.template = templateType) ∧
      data.instances.Nodup) ∧
    ∀ symbol arguments,
      (program.classInstance? symbol arguments = none ↔
        ∀ type, (program.entry symbol).type = some type →
          ∀ data, program.type type ≠ .templateType data) ∧
      (program.functionInstance? symbol arguments = none ↔
        ∀ type, (program.entry symbol).type = some type →
          ∀ data, program.type type ≠ .templateType data) := by
  have has := HasTemplates.of_reached reached
  refine ⟨fun templateType data isTemplate => ?_, fun symbol arguments =>
    ⟨has.templateInstance?_eq_none_iff symbol arguments _ _,
      has.templateInstance?_eq_none_iff symbol arguments _ _⟩⟩
  obtain ⟨parameters, held⟩ := has templateType data isTemplate
  obtain ⟨scope, nesting, inScope, areParameters⟩ := held.scope
  refine ⟨held.nameKind, held.named, ⟨parameters, held.primary.hasSpecialization,
    ⟨scope, nesting, inScope, fun position parameter isNth => ?_⟩, fun symbol member => ?_⟩,
    fun symbol member => ?_, held.nodup⟩
  · have isParameter := areParameters position parameter isNth
    exact ⟨isParameter.listed, isParameter.position_eq, isParameter.nesting_eq,
      isParameter.kind_eq⟩
  · obtain ⟨arguments, specializes⟩ := held.instances symbol member
    exact ⟨arguments, specializes.hasSpecialization⟩
  · obtain ⟨specialization, specializes, ofTemplate⟩ := held.specializations symbol member
    exact ⟨specialization, specializes.hasSpecialization, ofTemplate⟩

end Program

namespace Sample

/-- The program with the members of the class for `int` declared, as far as the limit on nested
instantiations permits. -/
def halfway : Program :=
  ((Activity.perform nesting (requestFor .classTemplate classOfInt.1)).final bounded
    ).session.program

theorem halfway_reached : Relation.ReflTransGen Program.DeclarationStep {} halfway := by
  have withBuiltin : ∀ (program : Program) (type : BuiltinType),
      program.DeclarationStep (program.newType (.builtin type)).2 := fun program type =>
    .declaration ⟨.ofType (fun _ isTemplate => nomatch isTemplate),
      (Program.Enlarges.ofType (.builtin type)).retains⟩
  have withTypes : Relation.ReflTransGen Program.DeclarationStep {} char.2 :=
    (Relation.ReflTransGen.single (withBuiltin {} .int)).tail (withBuiltin start .char)
  have withClass := withTypes.tail (.declaration
    ⟨.ofClassTemplate ScopeTree.globalContext "A" [.type "T"] { members := some ⟨0⟩ },
      (Program.Enlarges.ofTemplate _ _ _ _ _ _).retains⟩)
  have withFunction := withClass.tail (.declaration
    ⟨.ofFunctionTemplate ScopeTree.globalContext "f" [.type "T"] (some ⟨1⟩),
      (Program.Enlarges.ofTemplate _ _ _ _ _ _).retains⟩)
  have classNamed : functionTemplate.2.classInstance? classTemplate.1 [.type int] =
      some (classOfInt.1, classOfInt.2) := by rfl
  have intNamed : classOfInt.2.functionInstance? functionTemplate.1 [.type int] =
      some (functionOfInt.1, functionOfInt.2) := by rfl
  have charNamed : functionOfInt.2.functionInstance? functionTemplate.1 [.type char.1] =
      some (functionOfChar.1, functionOfChar.2) := by rfl
  have withInstances := ((withFunction.tail (.declaration
    ⟨.ofClassInstance classNamed, Program.retains_of_templateInstance? classNamed⟩)).tail
      (.declaration
        ⟨.ofFunctionInstance intNamed, Program.retains_of_templateInstance? intNamed⟩)).tail
      (.declaration
        ⟨.ofFunctionInstance charNamed, Program.retains_of_templateInstance? charNamed⟩)
  exact withInstances.tail
    (.instantiation (nesting_updates _) (requestFor .classTemplate classOfInt.1) bounded)

set_option maxRecDepth 100000 in
/-- The instantiation of the class for `int` has failed in the middle.  `A` and the class still lead
to each other, the class has the parameters of `A`, and there are no instances of the class. -/
theorem class_of_int_holds_together :
    Relation.ReflTransGen Program.DeclarationStep {} halfway ∧
    halfway.type ⟨2⟩ =
      .templateType { name := classTemplate.1, primary := ⟨2⟩, instances := [classOfInt.1] } ∧
    (∃ parameters arguments,
      halfway.HasSpecialization ⟨2⟩ { template := ⟨2⟩, parameters } ∧
      halfway.HasSpecialization classOfInt.1 { template := ⟨2⟩, parameters, arguments }) ∧
    ∀ arguments, halfway.classInstance? classOfInt.1 arguments = none := by
  have isTemplate : halfway.type ⟨2⟩ =
      .templateType { name := classTemplate.1, primary := ⟨2⟩, instances := [classOfInt.1] } := by
    decide +kernel
  have isClass : (halfway.entry classOfInt.1).type = some ⟨6⟩ := by decide +kernel
  have notTemplate : (halfway.type ⟨6⟩).specialization?.isSome = true := by decide +kernel
  obtain ⟨templates, noInstance⟩ := Program.templates_hold_together halfway_reached
  obtain ⟨-, -, ⟨parameters, ofPrimary, -, ofInstances⟩, -⟩ := templates _ _ isTemplate
  obtain ⟨arguments, ofInstance⟩ := ofInstances classOfInt.1 (List.mem_singleton_self _)
  refine ⟨halfway_reached, isTemplate, ⟨parameters, arguments, ofPrimary, ofInstance⟩,
    fun given => (noInstance classOfInt.1 given).1.mpr fun type typed data => ?_⟩
  rw [isClass, Option.some.injEq] at typed
  subst typed
  obtain ⟨specialization, links⟩ := Option.isSome_iff_exists.mp notTemplate
  exact Ty.not_templateType_of_specialization? links data

end Sample

end CppTemplates
