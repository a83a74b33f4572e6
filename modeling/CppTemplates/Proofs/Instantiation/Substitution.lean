import CppTemplates.Proofs.Evaluation.Substitution
import CppTemplates.Proofs.Instantiation.ArgumentBinding

/-!
# Folding arguments is substituting them

A non-type argument is folded once, when it is injected, and from then on its parameter stands for
the literal of its value.  So an expression has the same value, or the same error, in an
instantiated class as it has with the literals written in place of the parameter names.  Only in the
report of an unknown name can the literals be seen.
-/

namespace CppTemplates

/-- Values that exist for bindings of distinct names are the values of a function of the name. -/
theorem exists_values {describes : Binding → Option Value → Prop} {bindings : List Binding}
    (distinct : (bindings.map (·.name)).Nodup)
    (each : ∀ binding ∈ bindings, ∃ folded, describes binding folded) :
    ∃ values : String → Option Value,
      (∀ binding ∈ bindings, describes binding (values binding.name)) ∧
        ∀ other, other ∉ bindings.map (·.name) → values other = none := by
  induction bindings with
  | nil => exact ⟨fun _ => none, by simp, fun _ _ => rfl⟩
  | cons head rest ih =>
      obtain ⟨headNew, distinctRest⟩ := List.nodup_cons.mp distinct
      obtain ⟨folded, described⟩ := each head List.mem_cons_self
      obtain ⟨values, describedRest, noneElse⟩ := ih distinctRest fun binding member =>
        each binding (List.mem_cons_of_mem head member)
      refine ⟨fun name => if name = head.name then folded else values name, ?_, ?_⟩
      · intro binding member
        rcases List.mem_cons.mp member with rfl | inRest
        · simpa using described
        · have different : binding.name ≠ head.name := by
            intro same
            exact headNew (List.mem_map.mpr ⟨binding, inRest, same⟩)
          simpa [different] using describedRest binding inRest
      · intro other notName
        simp only [List.map_cons, List.mem_cons, not_or] at notName
        simp only [notName.1, if_false]
        exact noneElse other notName.2

/-- What an argument was folded to: a non-type argument had the value at the moment of its
injection, and its parameter is initialized by the literal of the value.  Other arguments are not
folded. -/
def Session.FoldsTo (before after : Session) (inner : DeclContext) (name : String)
    (argument : TemplateArgument) (folded : Option Value) : Prop :=
  match argument with
  | .nonType _ expression context =>
      ∃ (value : Value) (moment : Session) (symbol : SymbolId) (literal : NodeId),
        folded = some value ∧ before.Grows moment ∧
          evaluate moment.tree moment.program context expression = .ok value ∧
          after.program.candidates inner none name = [symbol] ∧
          (after.program.entry symbol).kind = .variableName ∧
          (after.program.entry symbol).value = some literal ∧
          after.tree.node literal = value.literalLeaf
  | _ => folded = none

theorem Session.IsBound.exists_foldsTo {before after : Session} {symbol : SymbolId}
    {argument : TemplateArgument} {inner : DeclContext} {name : String}
    (isBound : IsBound before after symbol argument)
    (found : after.program.candidates inner none name = [symbol]) :
    ∃ folded, FoldsTo before after inner name argument folded := by
  cases argument with
  | nonType type expression context =>
      obtain ⟨_, _, ofKind, _, _, moment, grown, value, literal, folded, initialized, _, spelt⟩ :=
        isBound
      exact ⟨some value, value, moment, symbol, literal, rfl, grown, folded, found, ofKind,
        initialized, spelt⟩
  | _ => exact ⟨none, rfl⟩

/-- Among the members of an instance whose parameters are bound, each name has the value that its
argument was folded to. -/
theorem Session.BoundInstance.exists_foldsTo {before after : Session} {entry : SymbolId}
    {name : String} {bindings : List Binding} {inner : DeclContext} {scope : ScopeId}
    {symbols : List SymbolId}
    (bound : BoundInstance before after entry name bindings inner scope symbols)
    (distinct : (bindings.map (·.name)).Nodup)
    (notClassName : ∀ binding ∈ bindings, binding.name ≠ name) :
    ∃ values : String → Option Value,
      (∀ binding ∈ bindings,
        FoldsTo before after inner binding.name binding.argument (values binding.name)) ∧
        ∀ other, other ∉ bindings.map (·.name) → values other = none := by
  refine exists_values distinct fun binding member => ?_
  obtain ⟨index, isAt⟩ := List.getElem?_of_mem member
  obtain ⟨symbol, found, isBound⟩ :=
    bound.exists_isBound distinct isAt (notClassName binding member)
  exact isBound.exists_foldsTo found

theorem Session.spells_of_foldsTo {before after : Session} {inner : DeclContext}
    {bindings : List Binding} {values : String → Option Value} {tree : SyntaxTree}
    (folds : ∀ binding ∈ bindings,
      FoldsTo before after inner binding.name binding.argument (values binding.name))
    (noneElse : ∀ other, other ∉ bindings.map (·.name) → values other = none)
    (grows : after.tree.Extends tree) : after.program.Spells tree inner values := by
  intro parameter value hasValue
  have inNames : parameter ∈ bindings.map (·.name) := by
    apply Decidable.byContradiction
    intro notName
    rw [noneElse parameter notName] at hasValue
    cases hasValue
  obtain ⟨⟨name, kind, argument⟩, member, rfl⟩ := List.mem_map.mp inNames
  have ofBinding := folds _ member
  cases argument with
  | nonType type expression context =>
      obtain ⟨found, _, symbol, literal, isFound, _, _, visible, ofKind, initialized, spelt⟩ :=
        ofBinding
      rw [hasValue] at isFound
      cases isFound
      refine ⟨symbol, [], literal, visible, ?_, initialized, ?_⟩
      · simp [SymbolEntry.isConstantCandidate, ofKind]
      · rw [grows.node_eq literal (index_lt_of_literalLeaf spelt)]
        exact spelt
  | _ =>
      simp only [FoldsTo] at ofBinding
      rw [ofBinding] at hasValue
      cases hasValue

/-- An argument is folded to the value that it had before, if it had one. -/
theorem Session.FoldsTo.eq_of_evaluate {before after : Session} {inner context : DeclContext}
    {name : String} {type : TypeId} {expression : NodeId} {folded : Option Value} {value : Value}
    (folds : FoldsTo before after inner name (.nonType type expression context) folded)
    (evaluates : evaluate before.tree before.program context expression = .ok value) :
    folded = some value := by
  obtain ⟨found, moment, _, _, rfl, grown, evaluatesThen, _⟩ := folds
  have stays := evaluate_eq_ok_of_preserves grown.tree grown.program evaluates
  rw [evaluatesThen] at stays
  cases stays
  rfl

namespace Activity

variable {σ : Type} {analyzer : Analyzer σ} {name : String}
variable {declarations : List ParameterDeclaration} {arguments : List TemplateArgument}
variable {request : Request} {before : Compilation σ}

/-- In an instantiated class, an expression gives the same value, or the same error, as the
expression in which each non-type parameter is replaced by the literal of the value that its
argument was folded to.  Only a qualified id that nothing declares is quoted as it is written, with
the literals in the template arguments inside it.  If all qualified ids are spelled as before there
is no difference at all. -/
theorem folding_is_substitution (reserved : analyzer.IsReserved)
    (isClass : request.kind = .classTemplate)
    (fresh : Program.FreshInstance name declarations arguments before.session.program
      request.entry)
    (distinct : (declarations.map (·.name)).Nodup)
    (notClassName : ∀ declaration ∈ declarations, declaration.name ≠ name) {after : Compilation σ}
    (returns : perform analyzer request before = .ok () after) :
    ∃ (inner : DeclContext) (values : String → Option Value),
      after.session.program.recordedContext? request.entry = some inner ∧
      (∀ (index : Nat) (declaration : ParameterDeclaration) (argument : TemplateArgument),
        declarations[index]? = some declaration → arguments[index]? = some argument →
        before.session.FoldsTo after.session inner declaration.name argument
          (values declaration.name)) ∧
      (∀ other, other ∉ declarations.map (·.name) → values other = none) ∧
      ((∀ parameter value, values parameter = some value → value ≠ .character 92) →
        ∀ tree, after.session.tree.Extends tree → ∀ id, id.index < tree.size →
          let copy := (tree.substitute values id).1
          let grown := (tree.substitute values id).2
          SameButForSpelling grown after.session.program inner id copy
              (evaluate grown after.session.program inner id)
              (evaluate grown after.session.program inner copy) ∧
            ((∀ path name nameCopy, grown.follow? id path = some name →
                grown.follow? copy path = some nameCopy →
                (grown.node name).kind = .qualifiedId →
                  grown.display nameCopy = grown.display name) →
              evaluate grown after.session.program inner copy =
                evaluate grown after.session.program inner id)) := by
  obtain ⟨declaredLength, inner, scope, symbols, bound⟩ :=
    boundInstance_of_perform reserved isClass fresh distinct returns
  have sameNames := map_name_bindingsFor declaredLength
  have distinctNames : ((bindingsFor declarations arguments).map (·.name)).Nodup := by
    rw [sameNames]
    exact distinct
  have notBoundName : ∀ binding ∈ bindingsFor declarations arguments, binding.name ≠ name := by
    intro binding member
    have inNames : binding.name ∈ declarations.map (·.name) := by
      rw [← sameNames]
      exact List.mem_map_of_mem member
    obtain ⟨declaration, declared, same⟩ := List.mem_map.mp inNames
    rw [← same]
    exact notClassName declaration declared
  obtain ⟨values, described, noneElse⟩ := bound.exists_foldsTo distinctNames notBoundName
  refine ⟨inner, values, bound.recorded, ?_, by rw [← sameNames]; exact noneElse, ?_⟩
  · intro index declaration argument declaredAt givenAt
    exact described _ (List.mem_of_getElem? (getElem?_bindingsFor declaredAt givenAt))
  · intro notBackslash tree grows id inTree copy grown
    obtain ⟨extended, isSubstitute⟩ := SyntaxTree.isSubstitute_substitute values inTree
    have spells := Session.spells_of_foldsTo described noneElse (grows.trans extended)
    have same := Program.evaluate_substitute spells notBackslash isSubstitute
    exact ⟨same, same.eq_of_display_eq⟩

end Activity

namespace Sample

/-- In the members of the instance, replacing `N` by `42` changes no result but the text of errors
about unknown names. -/
theorem substitution :
    ∃ (after : Compilation Unit) (inner : DeclContext) (values : String → Option Value),
      Activity.perform (Analyzer.idle Unit) request compilation = .ok () after ∧
      after.session.program.recordedContext? request.entry = some inner ∧
      values "N" = some (.signedInt 42) ∧ (∀ other, other ≠ "N" → values other = none) ∧
      ∀ tree, after.session.tree.Extends tree → ∀ id, id.index < tree.size →
        SameButForSpelling (tree.substitute values id).2 after.session.program inner id
          (tree.substitute values id).1
          (evaluate (tree.substitute values id).2 after.session.program inner id)
          (evaluate (tree.substitute values id).2 after.session.program inner
            (tree.substitute values id).1) := by
  obtain ⟨after, returns⟩ := Activity.exists_perform_ok (Analyzer.idle_isPassive Unit) rfl fresh rfl
    (Activity.injectable_bindingsFor rfl templates_named values_known) (by decide)
  obtain ⟨inner, values, recorded, folds, noneElse, same⟩ :=
    Activity.folding_is_substitution (Analyzer.idle_isPassive Unit).isReserved rfl fresh (by decide)
      (by decide) returns
  have atN : values "N" = some (.signedInt 42) :=
    (folds 2 _ _ rfl rfl).eq_of_evaluate evaluate_literal
  have atOther : ∀ other, other ≠ "N" → values other = none := by
    intro other different
    by_cases isType : other = "T"
    · subst isType
      exact folds 0 _ _ rfl rfl
    by_cases isTemplate : other = "C"
    · subst isTemplate
      exact folds 1 _ _ rfl rfl
    exact noneElse other (by simp [parameters, ParameterDeclaration.name, isType, isTemplate,
      different])
  have notBackslash : ∀ parameter value, values parameter = some value →
      value ≠ .character 92 := by
    intro parameter value hasValue
    by_cases isN : parameter = "N"
    · subst isN
      rw [atN] at hasValue
      cases hasValue
      simp
    · rw [atOther parameter isN] at hasValue
      cases hasValue
  exact ⟨after, inner, values, returns, recorded, atN, atOther,
    fun tree grows id inTree => (same notBackslash tree grows id inTree).1⟩

/-- The nodes of `42` and of `u::A<N>::value`. -/
def unknownMember : SyntaxTree :=
  let tree := ((literal.2.addIdentifier "u").2.addIdentifier "A").2
  let tree := ((tree.addIdentifier "N").2.addIdentifier "value").2
  let tree := (tree.addInterior .templateId [⟨2⟩, ⟨3⟩]).2
  (tree.addInterior .qualifiedId [⟨1⟩, ⟨5⟩, ⟨4⟩]).2

def quoting : Compilation Unit where
  session := { program := requested.2, tree := unknownMember }
  analyzerState := ()

/-- Among the members of the instance. -/
def amongMembers : DeclContext :=
  { ScopeTree.globalContext with
    currentScope := ⟨3⟩, templateScope := some ⟨2⟩, classScope := some ⟨3⟩ }

def onlyN (name : String) : Option Value := if name = "N" then some (.signedInt 42) else none

/-- The expression with `42` in place of `N`. -/
def withoutN (session : Session) : NodeId × SyntaxTree := session.tree.substitute onlyN ⟨6⟩

/-- The context of the members, and what `N`, the expression and its substitute stand for. -/
def observeNames (session : Session) :=
  let named (id : NodeId) :=
    (((withoutN session).2.node id).kind,
      session.program.namedConstant (withoutN session).2 amongMembers id)
  (session.program.recordedContext? request.entry, named ⟨3⟩, named ⟨6⟩,
    named (withoutN session).1, (withoutN session).2.node ⟨7⟩)

set_option maxRecDepth 100000 in
/-- An unknown name is quoted with the literal that was put in place of a parameter. -/
theorem quotes_folded_argument :
    (Analyzer.idle Unit).IsReserved ∧ request.kind = .classTemplate ∧
    Program.FreshInstance "A" parameters arguments quoting.session.program request.entry ∧
    (parameters.map (·.name)).Nodup ∧
    (∀ declaration ∈ parameters, declaration.name ≠ "A") ∧
    ∃ after, Activity.perform (Analyzer.idle Unit) request quoting = .ok () after ∧
      after.session.program.recordedContext? request.entry = some amongMembers ∧
      evaluate (withoutN after.session).2 after.session.program amongMembers ⟨3⟩ =
        .ok (.signedInt 42) ∧
      evaluate (withoutN after.session).2 after.session.program amongMembers ⟨6⟩ =
        .error (.unknownSymbol "u::A<N>::value" {}) ∧
      evaluate (withoutN after.session).2 after.session.program amongMembers
          (withoutN after.session).1 =
        .error (.unknownSymbol "u::A<42>::value" {}) ∧
      evaluate (withoutN after.session).2 after.session.program amongMembers
          (withoutN after.session).1 ≠
        evaluate (withoutN after.session).2 after.session.program amongMembers ⟨6⟩ := by
  have fills : (match Activity.perform (Analyzer.idle Unit) request quoting with
      | .ok _ after => some (observeNames after.session)
      | .error _ _ => none) =
      some (some amongMembers, (.symbol, .ok (⟨8⟩, ⟨7⟩)),
        (.qualifiedId, .error (.unknownSymbol "u::A<N>::value" {})),
        (.qualifiedId, .error (.unknownSymbol "u::A<42>::value" {})),
        (Value.signedInt 42).literalLeaf) := by
    cbv
  refine ⟨(Analyzer.idle_isPassive Unit).isReserved, rfl, fresh, by decide, by decide, ?_⟩
  split at fills
  case h_2 => cases fills
  case h_1 after returns =>
    simp only [observeNames, Option.some.injEq, Prod.mk.injEq] at fills
    obtain ⟨recorded, ⟨isSymbol, ofN⟩, ⟨isQualified, unknown⟩, ⟨isQualifiedCopy, unknownCopy⟩,
      spelt⟩ := fills
    have evaluatesN : evaluate (withoutN after.session).2 after.session.program amongMembers ⟨3⟩ =
        .ok (.signedInt 42) := by
      rw [Program.evaluate_of_name (.inl isSymbol), ofN]
      exact eval_eq_ok_of_literalLeaf spelt (by decide) _ _ _
    have quoted : evaluate (withoutN after.session).2 after.session.program amongMembers ⟨6⟩ =
        .error (.unknownSymbol "u::A<N>::value" {}) := by
      rw [Program.evaluate_of_name (.inr isQualified), unknown]
    have quotedCopy : evaluate (withoutN after.session).2 after.session.program amongMembers
        (withoutN after.session).1 = .error (.unknownSymbol "u::A<42>::value" {}) := by
      rw [Program.evaluate_of_name (.inr isQualifiedCopy), unknownCopy]
    refine ⟨after, returns, recorded, evaluatesN, quoted, quotedCopy, ?_⟩
    rw [quoted, quotedCopy]
    simp

end Sample

end CppTemplates
