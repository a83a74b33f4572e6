import CppTemplates.Program.Declare
import CppTemplates.Proofs.Evaluation.CycleGuard

/-!
# How deep evaluation nests

`eval` hands the list of busy constants down, so that what is busy is as before when a call returns.
This file lets all calls share one stack instead: a constant is pushed before its expression is
evaluated and popped afterwards, whether that succeeded or failed.  The stack survives errors, the
number of calls that may be nested is bounded, and every call that returns is written down with the
stack that it found and the stack that it left.

The initializer of a constant may be younger than the node that names it, so going down does not
always lead to an older node.  What decreases is the number of constants that are not busy and,
between two of them, the position in the tree.  With `N` nodes and `S` symbols that bounds the
nesting by `(S + 1) * N`.
-/

namespace CppTemplates

/-- A call of the evaluator that has returned. -/
structure EvaluationCall where
  /-- The busy constants when the call was made, the last one first. -/
  entered : List SymbolId
  /-- The busy constants when the call returned. -/
  left : List SymbolId

/-- Whether no constant was busy twice and the call left the busy constants as it found them. -/
def EvaluationCall.IsBalanced (call : EvaluationCall) : Prop :=
  call.entered.Nodup ∧ call.left = call.entered

/-- What all calls of one evaluation share. -/
structure EvaluationStack where
  /-- The busy constants, the last one first. -/
  busy : List SymbolId := []
  /-- The calls that have returned, in that order. -/
  calls : List EvaluationCall := []

/-- A computation of a value on a shared stack, which survives errors.  It has no outcome if calls
nest too deep. -/
abbrev OnStack : Type → Type :=
  ExceptT EvaluationError (StateT EvaluationStack Option)

namespace OnStack

def unfinished : OnStack Value :=
  fun _ => none

/-- Makes a call and writes it down when it returns. -/
def call (value : OnStack Value) : OnStack Value := fun stack =>
  (value stack).map fun (outcome, after) =>
    (outcome, { after with calls := after.calls ++ [⟨stack.busy, after.busy⟩] })

/-- Refuses a constant that is busy.  Otherwise pushes it, computes a value and pops, whatever the
outcome. -/
def whileBusy (symbol : SymbolId) (cyclic : EvaluationError) (value : OnStack Value) :
    OnStack Value := fun stack =>
  if symbol ∈ stack.busy then
    some (.error cyclic, stack)
  else
    (value { stack with busy := symbol :: stack.busy }).map fun (outcome, after) =>
      (outcome, { after with busy := after.busy.tail })

end OnStack

/-- The value of a node, with the busy constants on the shared stack and at most the given number of
calls nested. -/
def evalOnStack (tree : SyntaxTree) (program : Program) :
    Nat → DeclContext → NodeId → OnStack Value
  | 0, _, _ => OnStack.unfinished
  | room + 1, context, id =>
      OnStack.call <| (tree.node id).evalStep
        (fun index =>
          match tree.child? id index with
          | some child => evalOnStack tree program room context child
          | none => throw (.malformedTree (tree.node id).kind (tree.node id).span))
        (fun _ =>
          match program.namedConstant tree context id with
          | .ok (symbol, expression) =>
              OnStack.whileBusy symbol (.cyclicConstant (tree.display id) (tree.node id).span)
                (evalOnStack tree program room (program.entry symbol).declContext expression)
          | .error cause => throw cause)

/-- Whether a computation that finds the given constants busy ends with an outcome and leaves the
same constants busy, and all calls that it makes are balanced. -/
def OnStack.EndsWith (busy : List SymbolId) (outcome : Except EvaluationError Value)
    (value : OnStack Value) : Prop :=
  ∀ calls, ∃ made, (∀ call ∈ made, call.IsBalanced) ∧
    value ⟨busy, calls⟩ = some (outcome, ⟨busy, calls ++ made⟩)

namespace OnStack

variable {busy : List SymbolId} {outcome : Except EvaluationError Value} {value : OnStack Value}

theorem run_bind_of_ok {next : Value → OnStack Value} {before after : EvaluationStack}
    {result : Value} (ran : value before = some (.ok result, after)) :
    (value >>= next) before = next result after := by
  change (value before).bind _ = _
  rw [ran]
  rfl

theorem run_bind_of_error {next : Value → OnStack Value} {before after : EvaluationStack}
    {cause : EvaluationError} (ran : value before = some (.error cause, after)) :
    (value >>= next) before = some (.error cause, after) := by
  change (value before).bind _ = _
  rw [ran]
  rfl

theorem endsWith_pure (result : Value) : EndsWith busy (.ok result) (pure result) := by
  intro calls
  refine ⟨[], by simp, ?_⟩
  rw [List.append_nil]
  rfl

theorem endsWith_throw (cause : EvaluationError) : EndsWith busy (.error cause) (throw cause) := by
  intro calls
  refine ⟨[], by simp, ?_⟩
  rw [List.append_nil]
  rfl

theorem endsWith_bind {next : Value → Except EvaluationError Value} {rest : Value → OnStack Value}
    (ends : EndsWith busy outcome value)
    (endsNext : ∀ result, EndsWith busy (next result) (rest result)) :
    EndsWith busy (outcome >>= next) (value >>= rest) := by
  intro calls
  obtain ⟨made, balanced, ran⟩ := ends calls
  cases outcome with
  | error cause => exact ⟨made, balanced, run_bind_of_error ran⟩
  | ok result =>
      obtain ⟨madeNext, balancedNext, ranNext⟩ := endsNext result (calls ++ made)
      refine ⟨made ++ madeNext, fun call member => ?_, ?_⟩
      · exact (List.mem_append.mp member).elim (balanced call) (balancedNext call)
      · rw [run_bind_of_ok ran, ranNext, List.append_assoc]
        rfl

theorem endsWith_whileBusy_of_mem {symbol : SymbolId} (isBusy : symbol ∈ busy)
    (cyclic : EvaluationError) : EndsWith busy (.error cyclic) (whileBusy symbol cyclic value) := by
  intro calls
  exact ⟨[], by simp, by simp [whileBusy, isBusy]⟩

/-- What pushes a constant and pops it again leaves the busy constants alone. -/
theorem endsWith_whileBusy {symbol : SymbolId} (isFree : symbol ∉ busy)
    (ends : EndsWith (symbol :: busy) outcome value) (cyclic : EvaluationError) :
    EndsWith busy outcome (whileBusy symbol cyclic value) := by
  intro calls
  obtain ⟨made, balanced, ran⟩ := ends calls
  exact ⟨made, balanced, by simp [whileBusy, isFree, ran]⟩

/-- A call is balanced if what it does leaves the busy constants alone. -/
theorem endsWith_call (distinct : busy.Nodup) (ends : EndsWith busy outcome value) :
    EndsWith busy outcome (call value) := by
  intro calls
  obtain ⟨made, balanced, ran⟩ := ends calls
  refine ⟨made ++ [⟨busy, busy⟩], fun call member => ?_, by simp [call, ran]⟩
  rcases List.mem_append.mp member with before | itself
  · exact balanced call before
  · cases List.mem_singleton.mp itself
    exact ⟨distinct, rfl⟩

/-- Ending with an outcome respects results, errors and sequencing. -/
def ending (busy : List SymbolId) : OutcomeRelation (Except EvaluationError) OnStack where
  Related := EndsWith busy
  related_pure := endsWith_pure
  related_throw cause _ := endsWith_throw cause
  related_bind := endsWith_bind

end OnStack

theorem Program.countOutside_nil (program : Program) :
    program.countOutside [] = program.symbols.size := by
  simp [countOutside]

/-- Evaluation on the stack ends with the value of the node if there is room for a walk down the
whole tree for each constant that is not busy, and for one down from the node. -/
theorem evalOnStack_endsWith {tree : SyntaxTree} {program : Program}
    (valuesInTree : ∀ symbol expression, (program.entry symbol).value = some expression →
      expression.index < tree.size)
    {room : Nat} {context : DeclContext} {busy : List SymbolId} {id : NodeId}
    (inTree : id.index < tree.size) (distinct : busy.Nodup)
    (enough : program.countOutside busy * tree.size + id.index < room) :
    OnStack.EndsWith busy (eval tree program context busy id)
      (evalOnStack tree program room context id) := by
  induction context, busy, id using eval_induction tree program generalizing room with
  | step context busy id children constant =>
      obtain ⟨room, rfl⟩ : ∃ smaller, room = smaller + 1 := ⟨room - 1, by omega⟩
      rw [eval_eq_evalStep]
      refine OnStack.endsWith_call distinct
        ((OnStack.ending busy).related_evalStep (tree.node id) ?_ ?_)
      · intro index
        cases found : tree.child? id index with
        | none => exact OnStack.endsWith_throw _
        | some child =>
            have older : child.index < id.index := SyntaxTree.lt_of_child?_eq_some found
            exact children index child found (by omega) distinct (by omega)
      · cases found : program.namedConstant tree context id with
        | error cause => exact OnStack.endsWith_throw cause
        | ok pair =>
            obtain ⟨symbol, expression⟩ := pair
            simp only
            by_cases isBusy : symbol ∈ busy
            · rw [if_pos isBusy]
              exact OnStack.endsWith_whileBusy_of_mem isBusy _
            · rw [if_neg isBusy]
              have within : expression.index < tree.size :=
                valuesInTree symbol expression (Program.value_of_namedConstant found)
              -- One constant less to become busy pays for a whole walk down the tree.
              have fewer := Program.countOutside_cons_lt (Program.index_lt_of_namedConstant found)
                isBusy
              have walk := Nat.mul_le_mul_right tree.size (Nat.succ_le_of_lt fewer)
              rw [Nat.succ_mul] at walk
              exact OnStack.endsWith_whileBusy isBusy
                (constant symbol expression found isBusy within
                  (List.nodup_cons.mpr ⟨isBusy, distinct⟩) (by omega)) _

/-- Evaluation ends within a known depth.  Let a tree have `N` nodes, a program `S` symbols, and all
initializers be nodes of the tree.  With no more than `(S + 1) * N` calls nested, evaluation on a
stack ends with the value or the error that `evaluate` gives, and the stack is empty again.  Of all
calls that were made, each found no constant busy twice and left the stack as it found it. -/
theorem evaluation_nests_within (tree : SyntaxTree) (program : Program)
    (valuesInTree : ∀ symbol expression, (program.entry symbol).value = some expression →
      expression.index < tree.size)
    (context : DeclContext) (id : NodeId) (inTree : id.index < tree.size) :
    ∃ calls, evalOnStack tree program ((program.symbols.size + 1) * tree.size) context id {} =
        some (evaluate tree program context id, { calls }) ∧
      ∀ call ∈ calls, call.IsBalanced := by
  have room : program.countOutside [] * tree.size + id.index <
      (program.symbols.size + 1) * tree.size := by
    rw [Program.countOutside_nil, Nat.succ_mul]
    omega
  have ends : OnStack.EndsWith [] (evaluate tree program context id)
      (evalOnStack tree program ((program.symbols.size + 1) * tree.size) context id) :=
    evalOnStack_endsWith valuesInTree inTree List.nodup_nil room
  obtain ⟨calls, balanced, ran⟩ := ends []
  exact ⟨calls, ran, balanced⟩

namespace Sample

/-- The nodes of `M` and `N`. -/
def mutualNames : SyntaxTree :=
  ((SyntaxTree.empty.addIdentifier "M").2.addIdentifier "N").2

/-- The constants `N`, which is `M`, and `M`, which is `N`. -/
def mutualConstants : Program :=
  let program := (({} : Program).newType (.builtin .int)).2
  let program := (program.declareVariable ScopeTree.globalContext "N" ⟨0⟩ (some ⟨0⟩)).2
  (program.declareVariable ScopeTree.globalContext "M" ⟨0⟩ (some ⟨1⟩)).2

/-- The value of `N` is that of `M`, which is that of the younger node `N` again: the evaluation
reports the cycle and balances its three calls. -/
theorem mutual_constants_nest :
    (∀ symbol expression, (mutualConstants.entry symbol).value = some expression →
      expression.index < mutualNames.size) ∧
    (1 < mutualNames.size) ∧
    ∃ calls, evalOnStack mutualNames mutualConstants 6 ScopeTree.globalContext ⟨1⟩ {} =
        some (evaluate mutualNames mutualConstants ScopeTree.globalContext ⟨1⟩, { calls }) ∧
      ∀ call ∈ calls, call.IsBalanced := by
  have valuesInTree : ∀ symbol expression,
      (mutualConstants.entry symbol).value = some expression →
        expression.index < mutualNames.size := by
    rintro ⟨_ | _ | index⟩ expression hasValue <;> cases hasValue <;> decide
  exact ⟨valuesInTree, by decide,
    evaluation_nests_within mutualNames mutualConstants valuesInTree ScopeTree.globalContext ⟨1⟩
      (by decide)⟩

end Sample

end CppTemplates
