import CppTemplates.Proofs.Instantiation.Maturity
import CppTemplates.Proofs.Instantiation.OlderScopes
import CppTemplates.Proofs.Program.CandidateLists

/-!
# Members that are declared in time

The members of a class are to be declared when the class is complete and its own name stands among
them, not before.  If the analyzer keeps to that, nothing comes between, for other requests have
their own scopes.  So a callback leaves the scope of the members as it was while the class is
incomplete, and then only adds to it.
-/

namespace CppTemplates

/-- A class is left as it is, and if its members have one of the scopes below a number, nothing is
declared there while the class is incomplete, and once it is complete only behind what is declared
already. -/
structure Session.DeclaresMembers (bound : Nat) (type : TypeId) (before after : Session) : Prop
    extends before.Spares type after where
  noneEarly : ∀ inner, before.program.ClassIs type .incompleteIndependent (some inner) →
    inner.currentScope.index < bound → ∀ name,
      after.program.scopes.lookupLocal inner.currentScope name =
        before.program.scopes.lookupLocal inner.currentScope name
  behind : ∀ inner, before.program.ClassIs type .completeIndependent (some inner) →
    inner.currentScope.index < bound → ∀ name,
      before.program.scopes.lookupLocal inner.currentScope name <+:
        after.program.scopes.lookupLocal inner.currentScope name

/-- The same with all scopes that there are. -/
abbrev Session.DeclaresOnlyMembers (type : TypeId) (before after : Session) : Prop :=
  Session.DeclaresMembers before.program.scopes.scopes.size type before after

namespace Session.DeclaresMembers

variable {bound : Nat} {type : TypeId} {before after : Session}

theorem of_keepsScopes (spares : before.Spares type after)
    (keeps : before.KeepsScopes bound after) : before.DeclaresMembers bound type after where
  toSpares := spares
  noneEarly _ _ below := keeps.lookupLocal below
  behind _ _ below name := by
    rw [keeps.lookupLocal below name]

theorem refl (session : Session) : session.DeclaresMembers bound type session :=
  .of_keepsScopes (.refl session) (.refl session)

theorem trans {first second third : Session} (earlier : first.DeclaresMembers bound type second)
    (later : second.DeclaresMembers bound type third) :
    first.DeclaresMembers bound type third where
  toSpares := earlier.toSpares.trans later.toSpares
  noneEarly inner classIs below name := by
    rw [later.noneEarly inner (earlier.classIs _ _ classIs) below name]
    exact earlier.noneEarly inner classIs below name
  behind inner classIs below name :=
    (earlier.behind inner classIs below name).trans
      (later.behind inner (earlier.classIs _ _ classIs) below name)

theorem mono {fewer : Nat} (declares : before.DeclaresMembers bound type after)
    (le : fewer ≤ bound) : before.DeclaresMembers fewer type after where
  toSpares := declares.toSpares
  noneEarly inner classIs below := declares.noneEarly inner classIs (Nat.lt_of_lt_of_le below le)
  behind inner classIs below := declares.behind inner classIs (Nat.lt_of_lt_of_le below le)

theorem of_same (sameProgram : after.program = before.program)
    (sameTree : after.tree = before.tree) : before.DeclaresMembers bound type after :=
  .of_keepsScopes (.of_same sameProgram sameTree) (.of_sameScopes (by rw [sameProgram]))

/-- An analyzer that only adds to the program, and does so when the class is complete, may declare
whatever it likes. -/
theorem of_enlarges {inner : Option DeclContext} {program : Program} {tree : SyntaxTree}
    (complete : before.program.ClassIs type .completeIndependent inner)
    (enlarges : before.program.Enlarges program) (grows : before.tree.Extends tree) :
    before.DeclaresMembers bound type { before with program, tree } where
  retains := enlarges.retains
  scopes_le := enlarges.appends.size_le
  tree := grows
  classIs := by
    rintro completeness recorded ⟨data, isClass, isSo, isInner⟩
    obtain ⟨later, isClassLater, sameCompleteness, sameInner⟩ := enlarges.marks isClass
    exact ⟨later, isClassLater, sameCompleteness.trans isSo, sameInner.trans isInner⟩
  noneEarly recorded := by
    rintro ⟨data, isClass, incomplete, -⟩
    obtain ⟨completed, isClassToo, isComplete, -⟩ := complete
    rw [isClass, Ty.classType.injEq] at isClassToo
    rw [isClassToo, isComplete] at incomplete
    cases incomplete
  behind recorded _ _ name := enlarges.appends.candidates recorded.currentScope name

end Session.DeclaresMembers

/-- A turn leads to a session in which at most members of a class have been declared. -/
def Turn.DeclaresMembers (bound : Nat) (type : TypeId) (latest : Session) : Turn → Prop
  | .call _ called _ => latest.DeclaresMembers bound type called
  | .answer _ after => latest.DeclaresMembers bound type after

theorem Pending.declaresMembers_turn {bound : Nat} {type : TypeId} {pending : Pending} {turn : Turn}
    (dialogue : Dialogue pending.request pending.asked pending.calls turn)
    (notRequested : ¬pending.asked.Requests pending.request type)
    (spares : pending.asked.Spares type pending.latest) (hasScopes : pending.HasScopes bound) :
    turn.DeclaresMembers bound type pending.latest := by
  have sparesLater := Pending.spares_turn dialogue notRequested spares
  have keeps := Pending.keepsScopes_turn dialogue hasScopes
  cases turn with
  | call callback called stage => exact .of_keepsScopes sparesLater keeps.1
  | answer outcome after => exact .of_keepsScopes sparesLater keeps

/-- While a class is being instantiated, the analyzer declares members of it only when it is
complete, leaves it alone in other respects, and does not request it once more. -/
structure DeclaresInTime (type : TypeId) (start : Session) (moments : List Moment) : Prop where
  changes : ∀ earlier moment later, moments = earlier ++ moment :: later →
    moment.event = .updated → (∃ frame ∈ moment.stack, frame.IsFor type) →
      (lastSession start earlier).DeclaresOnlyMembers type moment.session
  requests : ∀ moment ∈ moments, ∀ request, moment.event = .asked request →
    moment.session.Requests request type → ∀ frame ∈ moment.stack.tail, ¬frame.IsFor type

theorem DeclaresInTime.leftAlone {type : TypeId} {start : Session} {moments : List Moment}
    (inTime : DeclaresInTime type start moments) : LeftAlone type start moments where
  changes earlier moment later isMoments isUpdate isFor :=
    (inTime.changes earlier moment later isMoments isUpdate isFor).toSpares
  requests := inTime.requests

theorem DeclaresInTime.of_append {type : TypeId} {start : Session} {earlier later : List Moment}
    (inTime : DeclaresInTime type start (earlier ++ later)) :
    DeclaresInTime type start earlier where
  changes before moment after isMoments := by
    apply inTime.changes before moment (after ++ later)
    rw [isMoments, List.append_assoc, List.cons_append]
  requests moment member := inTime.requests moment (List.mem_append_left _ member)

/-- The callbacks for a class have declared nothing but members of it, and those in time. -/
def AllDeclareInTime (type : TypeId) (calls : List Call) : Prop :=
  ∀ call ∈ calls, call.called.DeclaresOnlyMembers type call.ended

theorem AllDeclareInTime.snoc {type : TypeId} {calls : List Call} {call : Call}
    (all : AllDeclareInTime type calls)
    (declares : call.called.DeclaresOnlyMembers type call.ended) :
    AllDeclareInTime type (calls ++ [call]) :=
  List.forall_mem_append.mpr ⟨all, List.forall_mem_singleton.mpr declares⟩

theorem AllDeclareInTime.snoc_inv {type : TypeId} {calls : List Call} {call : Call}
    (all : AllDeclareInTime type (calls ++ [call])) :
    AllDeclareInTime type calls ∧ call.called.DeclaresOnlyMembers type call.ended := by
  obtain ⟨earlier, last⟩ := List.forall_mem_append.mp all
  exact ⟨earlier, last call List.mem_cons_self⟩

/-- So far, the callbacks for a class have declared its members in time.  What has been requested in
the present one has begun with the scopes that there were when it began. -/
structure Pending.InTime (pending : Pending) (type : TypeId) (above : List Frame)
    (session : Session) : Prop where
  ended : AllDeclareInTime type pending.calls
  current : ∀ callback called, pending.current = some (callback, called) →
    called.DeclaresMembers called.program.scopes.scopes.size type session
  nested : ∀ callback called, pending.current = some (callback, called) →
    ∀ other, .request other ∈ above → other.HasScopes called.program.scopes.scopes.size

/-- All requests for a class are in time with its members. -/
def StaysInTime (type : TypeId) (stack : List Frame) (session : Session) : Prop :=
  ∀ above pending below, stack = above ++ .request pending :: below →
    pending.asked.Requests pending.request type → pending.InTime type above session

namespace Pending.InTime

variable {type : TypeId} {pending : Pending} {above : List Frame} {session after : Session}

theorem later (inTime : pending.InTime type above session)
    (declares : ∀ callback called, pending.current = some (callback, called) →
      session.DeclaresMembers called.program.scopes.scopes.size type after) :
    pending.InTime type above after where
  ended := inTime.ended
  current callback called isBusy :=
    (inTime.current callback called isBusy).trans (declares callback called isBusy)
  nested := inTime.nested

theorem drop {frame : Frame} (inTime : pending.InTime type (frame :: above) session) :
    pending.InTime type above session where
  ended := inTime.ended
  current := inTime.current
  nested callback called isBusy other member :=
    inTime.nested callback called isBusy other (List.mem_cons_of_mem _ member)

theorem push {frame : Frame} (inTime : pending.InTime type above session)
    (hasScopes : ∀ callback called, pending.current = some (callback, called) →
      ∀ other, frame = .request other → other.HasScopes called.program.scopes.scopes.size) :
    pending.InTime type (frame :: above) session where
  ended := inTime.ended
  current := inTime.current
  nested callback called isBusy other member := by
    rcases List.mem_cons.mp member with same | old
    · exact hasScopes callback called isBusy other same.symm
    · exact inTime.nested callback called isBusy other old

/-- What the engine does for a request that is made in the callback for a class is in time. -/
theorem of_turn {other : Pending} {turn : Turn}
    (inTime : pending.InTime type above other.latest) (member : .request other ∈ above)
    (leaves : pending.LeavesAlone type above other.latest)
    (dialogue : Dialogue other.request other.asked other.calls turn) :
    (∀ callback called stage, turn = .call callback called stage →
      pending.InTime type above called) ∧
    ∀ outcome after, turn = .answer outcome after → pending.InTime type above after := by
  obtain ⟨notRequested, spares⟩ := leaves.nested other member
  have declares : ∀ callback called, pending.current = some (callback, called) →
      turn.DeclaresMembers called.program.scopes.scopes.size type other.latest :=
    fun callback called isBusy => Pending.declaresMembers_turn dialogue notRequested spares
      (inTime.nested callback called isBusy other member)
  constructor
  · rintro _ _ _ rfl
    exact inTime.later declares
  · rintro _ _ rfl
    exact inTime.later declares

end Pending.InTime

namespace StaysInTime

variable {type : TypeId} {stack later rest : List Frame} {before after : Session} {event : Event}

theorem cons {frame : Frame}
    (top : ∀ pending, frame = .request pending →
      pending.asked.Requests pending.request type → pending.InTime type [] after)
    (others : ∀ above pending below, rest = above ++ .request pending :: below →
      pending.asked.Requests pending.request type → pending.InTime type (frame :: above) after) :
    StaysInTime type (frame :: rest) after :=
  @forall_request_cons (fun above pending =>
    pending.asked.Requests pending.request type → pending.InTime type above after) frame rest
      top others

theorem top {pending : Pending} (inTime : StaysInTime type (.request pending :: rest) before)
    (isFor : pending.asked.Requests pending.request type) : pending.InTime type [] before :=
  inTime [] pending rest rfl isFor

theorem around {frame : Frame} (inTime : StaysInTime type (frame :: rest) before)
    {above below : List Frame} {pending : Pending}
    (isRest : rest = above ++ .request pending :: below)
    (isFor : pending.asked.Requests pending.request type) :
    pending.InTime type (frame :: above) before :=
  inTime (frame :: above) pending below (by rw [isRest]; rfl) isFor

theorem step {allowed : Program → Program → Prop} (inTime : StaysInTime type stack before)
    (alone : StaysAlone type stack before) (step : Step allowed stack before event later after)
    (change : event = .updated → (∃ frame ∈ later, frame.IsFor type) →
      before.DeclaresOnlyMembers type after) : StaysInTime type later after := by
  cases step with
  | updated _ =>
      intro above pending below isStack isFor
      have soFar := inTime above pending below isStack isFor
      have declares := change rfl ⟨.request pending, by simp [isStack], isFor⟩
      exact soFar.later fun callback called isBusy =>
        declares.mono (soFar.current callback called isBusy).scopes_le
  | turned switch =>
      apply cons
      · exact fun _ same => nomatch same
      · intro above pending below isStack isFor
        have soFar := inTime above pending below isStack isFor
        refine (soFar.push ?_).later fun _ _ _ => ?_
        · exact fun _ _ _ _ same => nomatch same
        · cases switch <;> exact .of_same rfl rfl
  | @restored switch saved _ _ =>
      intro above pending below isStack isFor
      refine (inTime.around isStack isFor).drop.later fun _ _ _ => ?_
      cases switch <;> exact .of_same rfl rfl
  | asked asks =>
      apply cons
      · rintro _ ⟨⟩ _
        exact ⟨fun _ member => (nomatch member), fun _ _ isBusy => (nomatch isBusy),
          fun _ _ isBusy => (nomatch isBusy)⟩
      · intro above pending below isStack isFor
        have soFar := inTime above pending below isStack isFor
        refine soFar.push fun callback called isBusy other same => ?_
        cases same
        exact ⟨(soFar.current callback called isBusy).scopes_le, fun _ member => nomatch member⟩
  | @called pending _ _ _ _ isIdle turn =>
      apply cons
      · rintro _ ⟨⟩ isFor
        refine ⟨(inTime.top isFor).ended, ?_, fun _ _ _ _ member => nomatch member⟩
        rintro _ _ ⟨⟩
        exact .refl _
      · intro above outer below isRest isFor
        have soFar := inTime.around isRest isFor
        have leaves := alone (.request pending :: above) outer below (by rw [isRest]; rfl) isFor
        have afterTurn := (soFar.of_turn List.mem_cons_self leaves turn).1 _ _ _ rfl
        refine afterTurn.drop.push fun _ _ isOuter other same => ?_
        cases same
        exact (soFar.nested _ _ isOuter pending List.mem_cons_self).busy _ _
  | @replied pending _ callback called isBusy reply _ =>
      apply cons
      · rintro _ ⟨⟩ isFor
        have soFar := inTime.top isFor
        exact ⟨soFar.ended.snoc (soFar.current callback called isBusy),
          fun _ _ same => (nomatch same), fun _ _ same => (nomatch same)⟩
      · intro above outer below isRest isFor
        have soFar := inTime.around isRest isFor
        refine soFar.drop.push fun _ _ isOuter other same => ?_
        cases same
        have hasScopes := soFar.nested _ _ isOuter pending List.mem_cons_self
        exact hasScopes.idle (soFar.current _ _ isOuter).scopes_le
  | @answered pending _ _ _ isIdle turn =>
      intro above outer below isRest isFor
      have soFar := inTime.around isRest isFor
      have leaves := alone (.request pending :: above) outer below (by rw [isRest]; rfl) isFor
      exact ((soFar.of_turn List.mem_cons_self leaves turn).2 _ _ rfl).drop

end StaysInTime

/-- In a run in which the members of a class are declared in time, the callbacks for it declare them
in time. -/
theorem Path.staysInTime {allowed : Program → Program → Prop} {start session : Session}
    {moments : List Moment} {stack : List Frame} {type : TypeId}
    (path : Path allowed start moments stack session)
    (inTime : DeclaresInTime type start moments) : StaysInTime type stack session := by
  induction path with
  | start =>
      intro above pending below isStack
      simp at isStack
  | @step moments stack later before after event path step ih =>
      obtain ⟨-, alone⟩ := path.staysAlone inTime.of_append.leftAlone
      refine (ih inTime.of_append).step alone step fun isUpdate isFor => ?_
      rw [path.eq_lastSession]
      exact inTime.changes moments ⟨event, later, after⟩ [] rfl isUpdate isFor

end CppTemplates
