import CppTemplates.Proofs.Instantiation.Discipline
import CppTemplates.Proofs.Program.TypedefTransparency

/-!
# Requests through typedefs

A typedef that leads to a class may be requested in place of the class.  The engine looks at the
requested symbol once, to find the class that it stands for, and from then on at the class.  So a
request through a typedef is the request for the class: with the same callbacks, the same outcome
and the same session afterwards, be it carried out or refused.
-/

namespace CppTemplates

namespace Program

open Relation

variable {program : Program} {type next : TypeId} {synonym target : SymbolId}

/-- A symbol is a typedef, and its type leads over typedefs to the name of a class. -/
structure IsSynonymOf (program : Program) (synonym target : SymbolId) : Prop where
  isTypedef : (program.entry synonym).kind = .typedefName
  leads : ∃ type named, (program.entry synonym).type = some type ∧
    ReflTransGen program.Aliases type named ∧ program.type named = .named target
  isClass : (program.entry target).kind = .className

/-- The name of a class is no typedef, so chains of typedefs end there. -/
theorem stripsTo_of_namesClass (isName : program.type type = .named target)
    (isClass : (program.entry target).kind = .className) : program.StripsTo type type := by
  refine .here (index_lt_of_type_ne_default ?_) ?_ ?_
  · rw [isName]
    intro same
    cases same
  · intro symbol isName'
    cases isName.symm.trans isName'
    apply index_lt_of_entry_ne_default
    intro isDefault
    rw [isDefault] at isClass
    cases isClass
  · simp [aliased?, isName, isClass]

/-- A chain that goes on to the end of another ends there. -/
theorem StripsTo.of_leads (leads : ReflTransGen program.Aliases type next) {last : TypeId}
    (strips : program.StripsTo next last) : program.StripsTo type last := by
  induction leads using ReflTransGen.head_induction_on with
  | refl => exact strips
  | head aliases _ ih => exact .step aliases ih

theorem IsSynonymOf.bind_namedSymbol? (synonymous : program.IsSynonymOf synonym target) :
    (program.entry synonym).type.bind program.namedSymbol? = some target := by
  obtain ⟨type, named, hasType, leads, isName⟩ := synonymous.leads
  have strips := (stripsTo_of_namesClass isName synonymous.isClass).of_leads leads
  rw [hasType, Option.bind_some, namedSymbol?, stripTypedefs_eq_of_stripsTo strips, isName]

end Program

namespace Session

variable {session : Session} {synonym target : SymbolId}

theorem resolveClassEntry_synonym (synonymous : session.program.IsSynonymOf synonym target) :
    session.resolveClassEntry synonym = session.resolveClassEntry target := by
  simp only [resolveClassEntry, synonymous.isTypedef, synonymous.isClass,
    synonymous.bind_namedSymbol?]

end Session

/-- The request for a class. -/
def Request.forClass (entry : SymbolId) (context : DeclContext) (location : Location) :
    Request where
  kind := .classTemplate
  entry
  context
  location

section Synonym

variable {σ : Type} {synonym target : SymbolId} (context : DeclContext) (location : Location)

theorem Session.firstTurn_synonym {asked : Session}
    (synonymous : asked.program.IsSynonymOf synonym target) :
    asked.firstTurn (.forClass synonym context location) =
      asked.firstTurn (.forClass target context location) := by
  have sameTarget : asked.classTarget (.forClass synonym context location) =
      asked.classTarget (.forClass target context location) := by
    simp only [classTarget, Request.forClass, resolveClassEntry_synonym synonymous]
  simp only [firstTurn, Request.forClass] at sameTarget ⊢
  rw [sameTarget]
  rfl

/-- Having found the class, the engine looks no more at what was requested. -/
theorem Stage.nextTurn_forClass (other : SymbolId) (stage : Stage) (reply : Reply)
    (ended : Session) :
    stage.nextTurn (.forClass synonym context location) reply ended =
      stage.nextTurn (.forClass other context location) reply ended := by
  cases reply with
  | error cause => rfl
  | ok solution => cases stage <;> rfl

theorem Dialogue.of_sameFirst {asked : Session} {first second : SymbolId}
    (sameFirst : asked.firstTurn (.forClass first context location) =
      asked.firstTurn (.forClass second context location)) {calls : List Call} {turn : Turn}
    (dialogue : Dialogue (.forClass first context location) asked calls turn) :
    Dialogue (.forClass second context location) asked calls turn := by
  induction dialogue with
  | first =>
      rw [sameFirst]
      exact .first
  | next _ reply ended ih =>
      rw [Stage.nextTurn_forClass context location second]
      exact .next ih reply ended

namespace Activity

/-- However further requests are carried out. -/
theorem performWith_synonym (analyzer : Analyzer σ) (further : Request → Activity σ Unit)
    {before : Compilation σ} (synonymous : before.session.program.IsSynonymOf synonym target) :
    performWith analyzer further (.forClass synonym context location) before =
      performWith analyzer further (.forClass target context location) before := by
  change
    ((ofExcept (before.session.resolveClassEntry synonym) : Activity σ SymbolId) >>= _) before = _
  rw [Session.resolveClassEntry_synonym synonymous]
  rfl

theorem performIn_synonym (analyzer : Analyzer σ) (room : Nat) {before : Compilation σ}
    (synonymous : before.session.program.IsSynonymOf synonym target) :
    performIn analyzer room (.forClass synonym context location) before =
      performIn analyzer room (.forClass target context location) before := by
  rw [performIn_eq_handler]
  exact performWith_synonym context location analyzer _ synonymous

theorem perform_synonym (analyzer : Analyzer σ) {before : Compilation σ}
    (synonymous : before.session.program.IsSynonymOf synonym target) :
    perform analyzer (.forClass synonym context location) before =
      perform analyzer (.forClass target context location) before :=
  performIn_synonym context location analyzer _ synonymous

/-- A class may be requested through any typedef that leads to it.  Whatever the analyzer does, the
request ends with the same outcome in the same compilation as the request for the class, also where
it is itself nested and only some room is left.  An analyzer that keeps a history writes down the
same callbacks, and whatever is replied to them, the engine takes the same turns. -/
theorem class_requested_through_typedef (analyzer : Analyzer σ) (before : Compilation σ)
    (synonymous : before.session.program.IsSynonymOf synonym target) (context : DeclContext)
    (location : Location) :
    perform analyzer (.forClass synonym context location) before =
      perform analyzer (.forClass target context location) before ∧
    (∀ room, performIn analyzer room (.forClass synonym context location) before =
      performIn analyzer room (.forClass target context location) before) ∧
    (∀ history : History,
      perform analyzer.recorded (.forClass synonym context location)
          (before.withHistory history) =
        perform analyzer.recorded (.forClass target context location)
          (before.withHistory history)) ∧
    ∀ calls turn,
      Dialogue (.forClass synonym context location) before.session calls turn ↔
        Dialogue (.forClass target context location) before.session calls turn := by
  have sameFirst := Session.firstTurn_synonym context location synonymous
  refine ⟨perform_synonym context location analyzer synonymous,
    fun room => performIn_synonym context location analyzer room synonymous,
    fun history => perform_synonym context location analyzer.recorded synonymous,
    fun calls turn => ⟨.of_sameFirst context location sameFirst,
      .of_sameFirst context location sameFirst.symm⟩⟩

end Activity

end Synonym

namespace Sample

/-- Declares `B` for a typedef of the name of the instance and `C` for a typedef of the name `B`. -/
def renamedTwice : SymbolId × Program :=
  let (named, program) := functionOfChar.2.newNamedType classOfInt.1
  let (inner, program) := program.newTypedef named
  let (first, program) :=
    program.newSymbol ScopeTree.globalContext ScopeTree.global "B" .typedefName
  let program := program.modifyEntry first fun entry => { entry with type := some inner }
  let (name, program) := program.newNamedType first
  let (outer, program) := program.newTypedef name
  let (second, program) :=
    program.newSymbol ScopeTree.globalContext ScopeTree.global "C" .typedefName
  (second, program.modifyEntry second fun entry => { entry with type := some outer })

def withNames : Compilation Unit :=
  { bounded with session := { bounded.session with program := renamedTwice.2 } }

theorem renamedTwice_isSynonym :
    withNames.session.program.IsSynonymOf renamedTwice.1 classOfInt.1 where
  isTypedef := rfl
  leads := by
    have outer : renamedTwice.2.Aliases ⟨12⟩ ⟨11⟩ := rfl
    have byName : renamedTwice.2.Aliases ⟨11⟩ ⟨10⟩ := rfl
    have inner : renamedTwice.2.Aliases ⟨10⟩ ⟨9⟩ := rfl
    exact ⟨⟨12⟩, ⟨9⟩, rfl, .head outer (.head byName (.single inner)), rfl⟩
  isClass := rfl

set_option maxRecDepth 100000 in
/-- A request for `C` fills in the instance. -/
theorem instantiation_through_two_names :
    withNames.session.program.IsSynonymOf renamedTwice.1 classOfInt.1 ∧
    (Activity.perform (Analyzer.idle Unit)
        (.forClass renamedTwice.1 ScopeTree.globalContext .builtin) withNames =
      Activity.perform (Analyzer.idle Unit)
        (.forClass classOfInt.1 ScopeTree.globalContext .builtin) withNames) ∧
    (((Activity.perform (Analyzer.idle Unit)
        (.forClass renamedTwice.1 ScopeTree.globalContext .builtin)).final
          withNames).session.program.entry classOfInt.1).defined = true := by
  refine ⟨renamedTwice_isSynonym, ?_, by cbv⟩
  exact (Activity.class_requested_through_typedef (Analyzer.idle Unit) withNames
    renamedTwice_isSynonym ScopeTree.globalContext .builtin).1

end Sample

end CppTemplates
