import CppTemplates.Proofs.Evaluation.Step

/-!
# The guard against constants that depend on themselves

Evaluation keeps a list of busy constants and refuses a constant that is busy already.  This file
compares it with an evaluator without that guard, which nests its calls up to a bound.  Whenever
the evaluator without the guard finishes, the guarded one gives the same outcome, and the guard
refuses exactly those expressions on which the other one never finishes.

A constant that is asked for a second time while it is being computed would repeat the computation
that asks for it, only with less room.  So the invariant that carries the comparison says of every
busy constant that its expression does not finish in the room that is left.
-/

namespace CppTemplates

/-- The value of a node without regard to busy constants.  Beyond the given number of nested calls
there is no outcome. -/
def evalUnguarded (tree : SyntaxTree) (program : Program) :
    Nat → DeclContext → NodeId → ExceptT EvaluationError Option Value
  | 0, _, _ => ExceptT.mk none
  | room + 1, context, id =>
      (tree.node id).evalStep
        (fun index =>
          match tree.child? id index with
          | some child => evalUnguarded tree program room context child
          | none => throw (.malformedTree (tree.node id).kind (tree.node id).span))
        (fun _ =>
          match program.namedConstant tree context id with
          | .ok (symbol, expression) =>
              evalUnguarded tree program room (program.entry symbol).declContext expression
          | .error cause => throw cause)

/-- Whether an outcome reports a constant that depends on itself. -/
def ReportsCycle (outcome : Except EvaluationError Value) : Prop :=
  ∃ name span, outcome = .error (.cyclicConstant name span)

private theorem run_bind_eq_some {first : ExceptT EvaluationError Option Value}
    {next : Value → ExceptT EvaluationError Option Value} {outcome : Except EvaluationError Value}
    (finished : (first >>= next).run = some outcome) :
    (∃ value, first.run = some (.ok value) ∧ (next value).run = some outcome) ∨
      ∃ cause, first.run = some (.error cause) ∧ outcome = .error cause := by
  rw [ExceptT.run_bind] at finished
  cases ran : first.run with
  | none => simp [ran] at finished
  | some middle =>
      cases middle with
      | error cause =>
          right
          refine ⟨cause, rfl, ?_⟩
          simpa [ran, eq_comm] using finished
      | ok value =>
          left
          refine ⟨value, rfl, ?_⟩
          simpa [ran] using finished

private theorem run_bind_of_ok {first : ExceptT EvaluationError Option Value}
    {next : Value → ExceptT EvaluationError Option Value} {value : Value}
    (ran : first.run = some (.ok value)) : (first >>= next).run = (next value).run := by
  simp [ExceptT.run_bind, ran]

private theorem run_bind_of_error {first : ExceptT EvaluationError Option Value}
    {next : Value → ExceptT EvaluationError Option Value} {cause : EvaluationError}
    (ran : first.run = some (.error cause)) : (first >>= next).run = some (.error cause) := by
  simp [ExceptT.run_bind, ran]

/-- The second computation ends like the first one if that finishes. -/
def finishingAlike :
    OutcomeRelation (ExceptT EvaluationError Option) (ExceptT EvaluationError Option) where
  Related first second := ∀ outcome, first.run = some outcome → second.run = some outcome
  related_pure _ _ finished := finished
  related_throw _ _ _ finished := finished
  related_bind := by
    intro first second firstNext secondNext related relatedNext outcome finished
    rcases run_bind_eq_some finished with ⟨value, ran, rest⟩ | ⟨cause, ran, rfl⟩
    · rw [run_bind_of_ok (related _ ran)]
      exact relatedNext value outcome rest
    · exact run_bind_of_error (related _ ran)

/-- The second computation, which always finishes, ends like the first one if that does. -/
def finishingAs : OutcomeRelation (ExceptT EvaluationError Option) (Except EvaluationError) where
  Related first second := ∀ outcome, first.run = some outcome → second = outcome
  related_pure _ _ finished := Option.some.inj finished
  related_throw _ _ _ finished := Option.some.inj finished
  related_bind := by
    intro first second firstNext secondNext related relatedNext outcome finished
    rcases run_bind_eq_some finished with ⟨value, ran, rest⟩ | ⟨cause, ran, rfl⟩
    · rw [related _ ran]
      exact relatedNext value outcome rest
    · rw [related _ ran]
      rfl

/-- A computation that never reports a cycle of its own accord. -/
def reportingNoCycle :
    OutcomeRelation (ExceptT EvaluationError Option) (ExceptT EvaluationError Option) where
  Related first _ := ∀ outcome, first.run = some outcome → ¬ ReportsCycle outcome
  related_pure _ _ finished := by
    rintro ⟨name, span, rfl⟩
    cases finished
  related_throw _ aboutValues _ finished := by
    rintro ⟨name, span, rfl⟩
    cases finished
    cases aboutValues
  related_bind := by
    intro first second firstNext secondNext related relatedNext outcome finished
    rcases run_bind_eq_some finished with ⟨value, ran, rest⟩ | ⟨cause, ran, rfl⟩
    · exact relatedNext value outcome rest
    · exact related _ ran

/-- The second computation ends like the first one unless that reports a cycle. -/
def unlessCyclic : OutcomeRelation (Except EvaluationError) (ExceptT EvaluationError Option) where
  Related first second := ReportsCycle first ∨ second.run = some first
  related_pure _ := Or.inr rfl
  related_throw _ _ := Or.inr rfl
  related_bind := by
    intro first second firstNext secondNext related relatedNext
    rcases related with ⟨name, span, rfl⟩ | ran
    · exact Or.inl ⟨name, span, rfl⟩
    · cases first with
      | error cause => exact Or.inr (run_bind_of_error ran)
      | ok value =>
          rw [run_bind_of_ok ran]
          exact relatedNext value

section

variable {tree : SyntaxTree} {program : Program}

theorem Program.value_of_namedConstant {context : DeclContext} {id expression : NodeId}
    {symbol : SymbolId} (found : program.namedConstant tree context id = .ok (symbol, expression)) :
    (program.entry symbol).value = some expression := by
  unfold namedConstant at found
  split at found
  case h_1 => cases found
  case h_2 => cases found
  case h_3 =>
    split at found
    case isFalse => cases found
    case isTrue =>
      split at found
      case h_2 => cases found
      case h_1 hasValue =>
        cases found
        exact hasValue

theorem Program.not_reportsCycle_of_namedConstant {context : DeclContext} {id : NodeId}
    {cause : EvaluationError} (failed : program.namedConstant tree context id = .error cause) :
    ¬ ReportsCycle (.error cause) := by
  rintro ⟨name, span, same⟩
  cases same
  unfold namedConstant at failed
  repeat' split at failed
  all_goals cases failed

/-- One more nested call does not change an outcome. -/
theorem evalUnguarded_succ {room : Nat} {context : DeclContext} {id : NodeId}
    {outcome : Except EvaluationError Value}
    (finished : (evalUnguarded tree program room context id).run = some outcome) :
    (evalUnguarded tree program (room + 1) context id).run = some outcome := by
  induction room generalizing context id outcome with
  | zero => cases finished
  | succ room ih =>
      refine finishingAlike.related_evalStep (tree.node id) ?_ ?_ outcome finished
      · intro index outcome finished
        cases found : tree.child? id index with
        | none => simpa [found] using finished
        | some child =>
            simp only [found] at finished
            exact ih finished
      · intro outcome finished
        cases found : program.namedConstant tree context id with
        | error cause => simpa [found] using finished
        | ok constant =>
            simp only [found] at finished
            exact ih finished

theorem evalUnguarded_of_le {room larger : Nat} {context : DeclContext} {id : NodeId}
    {outcome : Except EvaluationError Value} (le : room ≤ larger)
    (finished : (evalUnguarded tree program room context id).run = some outcome) :
    (evalUnguarded tree program larger context id).run = some outcome := by
  induction le with
  | refl => exact finished
  | step _ ih => exact evalUnguarded_succ ih

/-- What does not finish in some room does not finish in less. -/
theorem evalUnguarded_eq_none_of_le {room larger : Nat} {context : DeclContext} {id : NodeId}
    (le : room ≤ larger)
    (unfinished : (evalUnguarded tree program larger context id).run = none) :
    (evalUnguarded tree program room context id).run = none := by
  cases ran : (evalUnguarded tree program room context id).run with
  | none => rfl
  | some outcome => rw [evalUnguarded_of_le le ran] at unfinished; cases unfinished

/-- An outcome needs some least number of nested calls. -/
theorem exists_least_room {room : Nat} {context : DeclContext} {id : NodeId}
    {outcome : Except EvaluationError Value}
    (finished : (evalUnguarded tree program room context id).run = some outcome) :
    ∃ least, least < room ∧
      (evalUnguarded tree program (least + 1) context id).run = some outcome ∧
      (evalUnguarded tree program least context id).run = none := by
  induction room with
  | zero => cases finished
  | succ room ih =>
      cases ran : (evalUnguarded tree program room context id).run with
      | none => exact ⟨room, Nat.lt_succ_self room, finished, ran⟩
      | some earlier =>
          have same : some earlier = some outcome :=
            (evalUnguarded_succ ran).symm.trans finished
          obtain ⟨least, bound, rest⟩ := ih (ran.trans same)
          exact ⟨least, Nat.lt_succ_of_lt bound, rest⟩

/-- The expressions of the busy constants do not finish in the given room. -/
def BusyUnfinished (tree : SyntaxTree) (program : Program) (room : Nat) (busy : List SymbolId) :
    Prop :=
  ∀ symbol ∈ busy, ∀ expression, (program.entry symbol).value = some expression →
    (evalUnguarded tree program room (program.entry symbol).declContext expression).run = none

theorem BusyUnfinished.of_le {room larger : Nat} {busy : List SymbolId}
    (unfinished : BusyUnfinished tree program larger busy) (le : room ≤ larger) :
    BusyUnfinished tree program room busy := by
  intro symbol member expression hasValue
  exact evalUnguarded_eq_none_of_le le (unfinished symbol member expression hasValue)

/-- A constant whose expression does not finish in the given room may become busy. -/
theorem BusyUnfinished.cons {room : Nat} {busy : List SymbolId} {symbol : SymbolId}
    {expression : NodeId} (unfinished : BusyUnfinished tree program room busy)
    (hasValue : (program.entry symbol).value = some expression)
    (itself : (evalUnguarded tree program room (program.entry symbol).declContext
      expression).run = none) :
    BusyUnfinished tree program room (symbol :: busy) := by
  intro other member otherExpression otherValue
  rcases List.mem_cons.mp member with rfl | inBusy
  · rw [hasValue] at otherValue
    cases otherValue
    exact itself
  · exact unfinished other inBusy otherExpression otherValue

/-- The guard keeps every outcome that is reached without it. -/
theorem eval_eq_of_evalUnguarded {room : Nat} {context : DeclContext} {busy : List SymbolId}
    {id : NodeId} {outcome : Except EvaluationError Value}
    (finished : (evalUnguarded tree program (room + 1) context id).run = some outcome)
    (unfinished : BusyUnfinished tree program room busy) :
    eval tree program context busy id = outcome := by
  induction room using Nat.strongRecOn generalizing context busy id outcome with
  | ind room ih =>
      rw [eval_eq_evalStep]
      refine finishingAs.related_evalStep (tree.node id) ?_ ?_ outcome finished
      · intro index outcome finished
        cases found : tree.child? id index with
        | none =>
            simp only [found] at finished ⊢
            exact Option.some.inj finished
        | some child =>
            simp only [found] at finished ⊢
            cases room with
            | zero => cases finished
            | succ room =>
                exact ih room (Nat.lt_succ_self room) finished
                  (unfinished.of_le (Nat.le_succ room))
      · intro outcome finished
        cases found : program.namedConstant tree context id with
        | error cause =>
            simp only [found] at finished ⊢
            exact Option.some.inj finished
        | ok constant =>
            obtain ⟨symbol, expression⟩ := constant
            simp only [found] at finished ⊢
            have hasValue := Program.value_of_namedConstant found
            have isFree : symbol ∉ busy := by
              intro member
              rw [unfinished symbol member expression hasValue] at finished
              cases finished
            rw [if_neg isFree]
            -- With the least room that the constant needs, it does not finish inside itself.
            obtain ⟨least, bound, finishedLeast, itself⟩ := exists_least_room finished
            exact ih least bound finishedLeast
              ((unfinished.of_le (Nat.le_of_lt bound)).cons hasValue itself)

/-- Without the guard no cycle is reported. -/
theorem not_reportsCycle_of_evalUnguarded {room : Nat} {context : DeclContext} {id : NodeId}
    {outcome : Except EvaluationError Value}
    (finished : (evalUnguarded tree program room context id).run = some outcome) :
    ¬ ReportsCycle outcome := by
  induction room generalizing context id outcome with
  | zero => cases finished
  | succ room ih =>
      have silent : reportingNoCycle.Related (evalUnguarded tree program (room + 1) context id)
          (evalUnguarded tree program (room + 1) context id) := by
        refine reportingNoCycle.related_evalStep (tree.node id) ?_ ?_
        · intro index outcome finished
          cases found : tree.child? id index with
          | none =>
              simp only [found] at finished
              cases finished
              rintro ⟨name, span, same⟩
              cases same
          | some child =>
              simp only [found] at finished
              exact ih finished
        · intro outcome finished
          cases found : program.namedConstant tree context id with
          | error cause =>
              simp only [found] at finished
              cases finished
              exact Program.not_reportsCycle_of_namedConstant found
          | ok constant =>
              simp only [found] at finished
              exact ih finished
      exact silent outcome finished

/-- More nested calls than any evaluation with the given busy constants makes below a node. -/
def nestingBound (tree : SyntaxTree) (program : Program) (busy : List SymbolId) (id : NodeId) :
    Nat :=
  program.countOutside busy * (tree.size + 1) + min id.index tree.size

theorem nestingBound_child_lt {busy : List SymbolId} {id child : NodeId} {index : Nat}
    (found : tree.child? id index = some child) :
    nestingBound tree program busy child < nestingBound tree program busy id := by
  have older := SyntaxTree.lt_of_child?_eq_some found
  have inTree : id.index < tree.size := SyntaxTree.lt_size_of_child?_eq_some found
  unfold nestingBound
  omega

theorem nestingBound_constant_lt {busy : List SymbolId} {id expression : NodeId}
    {symbol : SymbolId} (bound : symbol.index < program.symbols.size) (isFree : symbol ∉ busy) :
    nestingBound tree program (symbol :: busy) expression < nestingBound tree program busy id := by
  have fewer := Program.countOutside_cons_lt bound isFree
  have multiplied := Nat.mul_le_mul_right (tree.size + 1) (Nat.succ_le_of_lt fewer)
  rw [Nat.succ_mul] at multiplied
  unfold nestingBound
  omega

/-- What the guard lets pass finishes without it. -/
theorem evalUnguarded_of_eval {room : Nat} {context : DeclContext} {busy : List SymbolId}
    {id : NodeId} (enough : nestingBound tree program busy id < room) :
    ReportsCycle (eval tree program context busy id) ∨
      (evalUnguarded tree program room context id).run =
        some (eval tree program context busy id) := by
  induction context, busy, id using eval_induction tree program generalizing room with
  | step context busy id children constant =>
      obtain ⟨room, rfl⟩ : ∃ smaller, room = smaller + 1 := ⟨room - 1, by omega⟩
      rw [eval_eq_evalStep]
      refine unlessCyclic.related_evalStep (tree.node id) ?_ ?_
      · intro index
        cases found : tree.child? id index with
        | none => exact Or.inr rfl
        | some child =>
            have smaller : nestingBound tree program busy child <
                nestingBound tree program busy id := nestingBound_child_lt found
            exact children index child found (by omega)
      · cases found : program.namedConstant tree context id with
        | error cause => exact Or.inr rfl
        | ok pair =>
            obtain ⟨symbol, expression⟩ := pair
            simp only
            by_cases isBusy : symbol ∈ busy
            · rw [if_pos isBusy]
              exact Or.inl ⟨_, _, rfl⟩
            · rw [if_neg isBusy]
              have smaller : nestingBound tree program (symbol :: busy) expression <
                  nestingBound tree program busy id :=
                nestingBound_constant_lt (Program.index_lt_of_namedConstant found) isBusy
              exact constant symbol expression found isBusy (by omega)

end

/-- The guard is exact: an outcome that is reached without it is the outcome with it, and a cycle
is reported exactly if the evaluator without the guard finishes in no number of nested calls. -/
theorem cycle_guard_exact (tree : SyntaxTree) (program : Program) (context : DeclContext)
    (id : NodeId) :
    (∀ room outcome, (evalUnguarded tree program room context id).run = some outcome →
      evaluate tree program context id = outcome) ∧
    ((∃ name span, evaluate tree program context id = .error (.cyclicConstant name span)) ↔
      ∀ room, (evalUnguarded tree program room context id).run = none) := by
  have keeps : ∀ room outcome, (evalUnguarded tree program room context id).run = some outcome →
      evaluate tree program context id = outcome := by
    intro room outcome finished
    cases room with
    | zero => cases finished
    | succ room => exact eval_eq_of_evalUnguarded finished fun _ member => nomatch member
  refine ⟨keeps, ?_, ?_⟩
  · rintro ⟨name, span, cyclic⟩ room
    cases ran : (evalUnguarded tree program room context id).run with
    | none => rfl
    | some outcome =>
        rw [keeps room outcome ran] at cyclic
        exact absurd ⟨name, span, cyclic⟩ (not_reportsCycle_of_evalUnguarded ran)
  · intro unfinished
    have passed : ReportsCycle (evaluate tree program context id) ∨
        (evalUnguarded tree program (nestingBound tree program [] id + 1) context id).run =
          some (evaluate tree program context id) := evalUnguarded_of_eval (Nat.lt_succ_self _)
    rcases passed with cyclic | ran
    · exact cyclic
    · rw [unfinished] at ran
      cases ran

end CppTemplates
