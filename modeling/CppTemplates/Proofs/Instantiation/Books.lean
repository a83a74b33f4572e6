import CppTemplates.Proofs.Instantiation.ArgumentBinding
import CppTemplates.Proofs.Instantiation.HistorySteps

/-!
# The books of an instantiation

A session keeps books: how many instantiations are in progress, of how many that may be, and how
the two switches stand.  An instantiation changes them in a known way when it is entered, and puts
them back when it is left, whether it was carried out or not.
-/

namespace CppTemplates

namespace Session

/-- The books of two sessions agree. -/
structure SameBooks (before after : Session) : Prop extends before.SameLevel after where
  checkingAmbiguity : after.checkingAmbiguity = before.checkingAmbiguity
  testExpression : after.testExpression = before.testExpression

theorem SameBooks.refl (session : Session) : session.SameBooks session :=
  ⟨.refl session, rfl, rfl⟩

theorem SameBooks.trans {first second third : Session} (earlier : first.SameBooks second)
    (later : second.SameBooks third) : first.SameBooks third :=
  ⟨earlier.toSameLevel.trans later.toSameLevel,
    later.checkingAmbiguity.trans earlier.checkingAmbiguity,
    later.testExpression.trans earlier.testExpression⟩

theorem Works.sameBooks {before after : Session} (works : before.Works after) :
    before.SameBooks after := by
  rw [works.books]
  exact ⟨⟨rfl, rfl⟩, rfl, rfl⟩

theorem Works.active_eq {before after : Session} (works : before.Works after) :
    after.active = before.active := by
  rw [works.books]

theorem retains_define (session : Session) (entry : SymbolId) :
    session.program.Retains (session.define entry).program :=
  .of_keepsEntities ((Program.KeepsEntities.refl _).modifyEntry_defined entry)

theorem sameBooks_define (session : Session) (entry : SymbolId) :
    session.SameBooks (session.define entry) :=
  ⟨⟨rfl, rfl⟩, rfl, rfl⟩

@[simp]
theorem active_record (session : Session) (entity : SymbolId) (location : Location) :
    (session.record entity location).active = session.active := by
  unfold record
  split <;> rfl

theorem sameBooks_record (session : Session) (entity : SymbolId) (location : Location) :
    session.SameBooks (session.record entity location) := by
  unfold record
  split <;> exact ⟨⟨rfl, rfl⟩, rfl, rfl⟩

/-- The class or function that a request is for. -/
def subject (session : Session) (request : Request) : SymbolId :=
  match request.kind with
  | .classTemplate =>
      match session.classTarget request with
      | .ok target => target.entry
      | .error _ => request.entry
  | .functionTemplate => request.entry

theorem subject_of_function {session : Session} {request : Request}
    (isFunction : request.kind = .functionTemplate) :
    session.subject request = request.entry := by
  unfold subject
  rw [isFunction]

/-- A request gets as far as entering the instantiation. -/
def Admits (session : Session) (request : Request) : Prop :=
  match request.kind with
  | .classTemplate => ∃ target, session.classTarget request = .ok target
  | .functionTemplate => ∃ primary, session.functionTarget request.entry = .ok (some primary)

def inside (session : Session) (kind : RequestKind) : Session :=
  match kind with
  | .classTemplate => { session with depth := session.depth + 1 }
  | .functionTemplate => { session with depth := session.depth + 1, testExpression := false }

variable {session : Session} {request : Request} {entry primary : SymbolId}

theorem reasonToSkip?_eq_none_iff :
    session.reasonToSkip? entry primary = none ↔
      (session.program.entry primary).defined = true ∧
        (session.program.entry entry).defined = false ∧ entry ∉ session.active := by
  unfold reasonToSkip? isActive
  cases (session.program.entry primary).defined <;>
    cases (session.program.entry entry).defined <;> simp

/-- A function is built unless there is a reason not to. -/
theorem functionTarget_eq_some_iff :
    session.functionTarget entry = .ok (some primary) ↔
      session.checkingAmbiguity = false ∧ (session.program.entry entry).kind = .function ∧
        session.primaryFunction? entry = some primary ∧
          session.reasonToSkip? entry primary = none := by
  constructor
  · intro builds
    unfold functionTarget at builds
    split at builds
    case isTrue => cases builds
    case isFalse unchecked =>
      split at builds
      case isTrue => cases builds
      case isFalse ofKind =>
        split at builds
        case h_1 => cases builds
        case h_2 isPrimary =>
          split at builds
          case h_1 => cases builds
          case h_2 noReason =>
            cases builds
            exact ⟨by simpa using unchecked, by simpa using ofKind, isPrimary, noReason⟩
  · rintro ⟨unchecked, ofKind, isPrimary, noReason⟩
    simp [functionTarget, unchecked, ofKind, isPrimary, noReason]

/-- Exactly the instances of function templates have a primary template. -/
theorem primaryFunction?_eq_some_iff :
    session.primaryFunction? entry = some primary ↔ session.program.Instantiates entry primary := by
  constructor
  · intro isPrimary
    obtain ⟨specialization, special, isPrimary⟩ := Option.bind_eq_some_iff.mp isPrimary
    obtain ⟨template, isTemplate, isPrimary⟩ := Option.bind_eq_some_iff.mp isPrimary
    obtain ⟨type, typed, special⟩ := Option.bind_eq_some_iff.mp special
    obtain ⟨data, isFunction, special⟩ := Option.bind_eq_some_iff.mp special
    exact ⟨type, data, specialization, template, typed, isFunction, special, isTemplate,
      Option.some.inj isPrimary⟩
  · rintro ⟨type, data, specialization, template, typed, isFunction, special, isTemplate, rfl⟩
    simp [primaryFunction?, functionSpecialization?, typed, isFunction, special, isTemplate]

theorem eligibleClass?_of_classTarget {target : ClassTarget}
    (resolves : session.classTarget request = .ok target) :
    session.eligibleClass? target.entry = some (target.type, target.template) := by
  unfold classTarget at resolves
  split at resolves
  case h_1 => cases resolves
  case h_2 found _ =>
    split at resolves
    case h_2 => cases resolves
    case h_1 type template eligible =>
      cases resolves
      exact eligible

theorem namesClass_of_classTarget {target : ClassTarget}
    (resolves : session.classTarget request = .ok target) :
    session.program.NamesClass target.entry := by
  obtain ⟨own, typed, eligible⟩ :=
    Option.bind_eq_some_iff.mp (eligibleClass?_of_classTarget resolves)
  obtain ⟨actual, isClass, -⟩ := Option.bind_eq_some_iff.mp eligible
  exact ⟨own, actual, typed, isClass⟩

namespace Covers

variable {stage : Stage}

theorem admits (covers : session.Covers request stage) : session.Admits request := by
  unfold Admits
  cases covers with
  | classTemplate isClass resolves _ _ => rw [isClass]; exact ⟨_, resolves⟩
  | functionTemplate isFunction resolves _ _ => rw [isFunction]; exact ⟨_, resolves⟩

theorem subject_eq (covers : session.Covers request stage) :
    session.subject request = stage.entry := by
  unfold subject
  cases covers with
  | classTemplate isClass resolves _ ofTarget =>
      rw [isClass, Stage.entry_of_target? ofTarget]
      simp only [resolves]
  | functionTemplate isFunction _ _ _ => rw [isFunction]; rfl

theorem enter_eq_ok (covers : session.Covers request stage) :
    ∃ entered, session.enter (session.subject request) request.location = .ok entered := by
  unfold subject
  cases covers with
  | classTemplate isClass resolves enters _ =>
      rw [isClass]
      simp only [resolves]
      exact ⟨_, enters⟩
  | functionTemplate isFunction _ enters _ => rw [isFunction]; exact ⟨_, enters⟩

end Covers

/-- The functions that can be entered are those that could be built and are not being built. -/
theorem admits_function_iff (isFunction : request.kind = .functionTemplate) :
    session.Admits request ↔
      session.checkingAmbiguity = false ∧
        (∃ primary, session.program.Awaits request.entry primary) ∧
          request.entry ∉ session.active := by
  unfold Admits
  rw [isFunction]
  simp only [functionTarget_eq_some_iff, reasonToSkip?_eq_none_iff, primaryFunction?_eq_some_iff]
  constructor
  · rintro ⟨primary, unchecked, ofKind, instantiates, isDefined, undefined, idle⟩
    exact ⟨unchecked, ⟨primary, ofKind, instantiates, isDefined, undefined⟩, idle⟩
  · rintro ⟨unchecked, ⟨primary, ofKind, instantiates, isDefined, undefined⟩, idle⟩
    exact ⟨primary, unchecked, ofKind, instantiates, isDefined, undefined, idle⟩

theorem Admits.class (admits : session.Admits request) (isClass : request.kind = .classTemplate) :
    session.program.NamesClass (session.subject request) := by
  unfold Admits at admits
  unfold subject
  rw [isClass] at admits ⊢
  obtain ⟨target, resolves⟩ := admits
  simp only [resolves]
  exact namesClass_of_classTarget resolves

variable {asked ended after entered middle untested : Session}

theorem sameBooks_enter {entity : SymbolId} {location : Location}
    (enters : asked.enter entity location = .ok entered) :
    (asked.inside .classTemplate).SameBooks entered := by
  obtain ⟨-, rfl⟩ := enter_eq_ok enters
  exact ⟨⟨rfl, rfl⟩, rfl, rfl⟩

theorem sameBooks_leave (books : (asked.inside .classTemplate).SameBooks ended)
    (entity : SymbolId) : asked.SameBooks (ended.leave entity) :=
  ⟨⟨books.limits, congrArg (· - 1) books.depth⟩, books.checkingAmbiguity, books.testExpression⟩

theorem sameBooks_putBack (books : (asked.inside .functionTemplate).SameBooks ended)
    (same : untested.testExpression = asked.testExpression) :
    (asked.inside .classTemplate).SameBooks (ended.putBack untested .testExpression) :=
  ⟨⟨books.limits, books.depth⟩, books.checkingAmbiguity, same⟩

theorem Starts.changes {callback : Callback} {called : Session} {stage : Stage}
    (starts : asked.Starts request callback called stage) :
    (asked.inside request.kind).SameBooks called ∧ asked.program.Retains called.program ∧
      called.active = asked.active.insert (asked.subject request) := by
  have subject := starts.covers.subject_eq
  cases starts with
  | classTemplate isClass resolves enters =>
      rw [isClass]
      refine ⟨sameBooks_enter enters, ?_, ?_⟩
      · rw [(Activity.program_of_enter enters).1]
        exact .refl _
      · obtain ⟨-, rfl⟩ := enter_eq_ok enters
        rw [subject]
        rfl
  | functionTemplate isFunction resolves enters works =>
      rw [isFunction]
      have books := (sameBooks_enter enters).trans works.sameBooks
      refine ⟨⟨⟨books.limits, books.depth⟩, books.checkingAmbiguity, rfl⟩, ?_, ?_⟩
      · have retains := works.retains
        rw [(Activity.program_of_enter enters).1] at retains
        exact retains
      · rw [subject]
        refine works.active_eq.trans ?_
        obtain ⟨-, rfl⟩ := enter_eq_ok enters
        rfl

theorem Declines.changes {outcome : Except InstantiationError Unit}
    (declines : asked.Declines request outcome after) :
    asked.SameBooks after ∧ asked.program.Retains after.program ∧ after.active = asked.active := by
  cases declines with
  | refused cause => exact ⟨.refl _, .refl _, rfl⟩
  | skipped _ _ => exact ⟨.refl _, .refl _, rfl⟩
  | spoilt isFunction resolves enters works cause =>
      obtain ⟨-, -, -, noReason⟩ := functionTarget_eq_some_iff.mp resolves
      have idle := (reasonToSkip?_eq_none_iff.mp noReason).2.2
      have retains := works.retains
      rw [(Activity.program_of_enter enters).1] at retains
      refine ⟨sameBooks_leave ((sameBooks_enter enters).trans works.sameBooks) _, retains, ?_⟩
      obtain ⟨-, rfl⟩ := enter_eq_ok enters
      simp only [leave, works.active_eq, List.insert_of_not_mem idle]
      rw [List.filter_cons_of_neg (by simp), List.filter_eq_self]
      rintro other isActive
      simp only [ne_eq, decide_not, Bool.not_eq_true', decide_eq_false_iff_not]
      rintro rfl
      exact idle isActive

end Session

namespace Stage

open Session

variable {request : Request} {asked ended after : Session}

theorem Closes.changes {stage : Stage} {reply : Reply} {outcome : Except InstantiationError Unit}
    (covers : asked.Covers request stage)
    (closes : Closes request ended stage reply outcome after)
    (books : (asked.inside request.kind).SameBooks ended) :
    asked.SameBooks after ∧ ended.program.Retains after.program ∧
      after.active = ended.active.filter (· ≠ asked.subject request) := by
  rw [covers.subject_eq]
  cases closes with
  | rejected cause =>
      cases covers with
      | classTemplate isClass _ _ ofTarget =>
          rw [isClass] at books
          cases stage <;> cases ofTarget <;> exact ⟨sameBooks_leave books _, .refl _, rfl⟩
      | functionTemplate isFunction _ enters works =>
          rw [isFunction] at books
          -- A function is left with the switch for test expressions put back first.
          have untested := ((sameBooks_enter enters).trans works.sameBooks).testExpression
          exact ⟨sameBooks_leave (sameBooks_putBack books untested) _, .refl _, rfl⟩
  | unprepared solution cause works =>
      cases covers with
      | classTemplate isClass _ _ ofTarget =>
          rw [isClass] at books
          refine ⟨sameBooks_leave (books.trans works.sameBooks) _, works.retains, ?_⟩
          exact congrArg (List.filter _) works.active_eq
  | finished solution =>
      cases covers with
      | classTemplate isClass _ _ ofTarget =>
          rw [isClass] at books
          refine ⟨sameBooks_leave (books.trans (sameBooks_record _ _ _)) _, ?_, ?_⟩
          · change ended.program.Retains (ended.record _ _).program
            rw [(program_record _ _ _).1]
            exact .refl _
          · simp only [leave, active_record]
            rfl
  | defined solution =>
      cases covers with
      | classTemplate _ _ _ ofTarget => cases ofTarget
      | functionTemplate isFunction _ enters works =>
          rw [isFunction] at books
          have untested := ((sameBooks_enter enters).trans works.sameBooks).testExpression
          have books := (sameBooks_putBack books untested).trans (sameBooks_define _ request.entry)
          refine ⟨sameBooks_leave (books.trans (sameBooks_record _ _ _)) _, ?_, ?_⟩
          · change ended.program.Retains (Session.record _ _ _).program
            rw [(program_record _ _ _).1]
            exact retains_define _ _
          · simp only [leave, active_record]
            rfl

end Stage

end CppTemplates
