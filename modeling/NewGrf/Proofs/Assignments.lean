import NewGrf.Action.Assign
import NewGrf.Proofs.Wordings

namespace NewGrf

namespace Assign

section Numbers

variable (pos : Option Position)

instance : Still saveParams := Still.modify

instance restoreParams_still : Still restoreParams := Still.modify

instance : Still (popParam pos) :=
  .after fun _ => .after fun _ => .andThen Still.modify fun _ => .just

instance : Still (popLabel pos) :=
  .after fun _ => .after fun _ => .andThen Still.modify fun _ => .just

instance : Still enterSkips := Still.modify

instance : Still leaveSkips := Still.modify

end Numbers

section Skips

variable (c : Condition) (param : Int) (pos : Option Position)

instance (ways run) : Still (skipRun c param pos ways run) := by
  unfold skipRun
  infer_instance

instance (actions ways run) : Still (skipRuns c param pos actions ways run) := by
  induction actions generalizing ways run with
  | nil =>
    unfold skipRuns
    infer_instance
  | cons a rest ih =>
    unfold skipRuns
    infer_instance

instance (actions) : Still (behind c param pos actions) := by
  unfold behind
  infer_instance

instance (done isFirst parts) : Still (branchSkips pos done isFirst parts) := by
  induction parts generalizing isFirst with
  | nil => exact .just
  | cons part rest ih =>
    unfold branchSkips
    infer_instance

end Skips

section Branches

variable {compile : Compile} {branches : List CompiledBranch}

/-- A branch that always runs has lost its guard. -/
theorem forall_mem_reachable {P : CompiledBranch → Prop} (each : ∀ b ∈ branches, P b)
    (always : ∀ b, P b → P (none, b.2)) : ∀ b ∈ reachable branches, P b := by
  fun_induction reachable branches with
  | case1 => exact each
  | case2 _ _ _ _ _ ih => exact ih fun b inside => each b (.tail _ inside)
  | case3 => simpa using always _ (each _ (.head _))
  | case4 _ _ _ ih =>
    rw [List.forall_mem_cons] at each ⊢
    exact ⟨each.1, ih each.2⟩

theorem branchParts_still (done : Int)
    (each : ∀ b ∈ branches, Still (condition compile b.1) ∧ Still b.2) :
    Still (branchParts compile done branches) := by
  induction branches with
  | nil => exact .just
  | cons b rest ih =>
    rw [List.forall_mem_cons] at each
    exact .andThen each.1.1 fun _ => .andThen each.1.2 fun _ => .andThen (ih each.2) fun _ => .just

theorem conditional_still (pos : Option Position)
    (first : Still (intoParam compile (.int 0xFFFFFFFF)))
    (each : ∀ b ∈ branches, Still (condition compile b.1) ∧ Still b.2) :
    Still (conditional compile branches pos) := by
  have each := forall_mem_reachable each fun _ h => ⟨.just, h.2⟩
  refine .after fun _ => ?_
  split
  · next body same => exact (each (none, body) (by simp [same])).2
  · have parts (done : Int) := branchParts_still done each
    refine .after fun _ => ?_
    split
    · exact .andThen first fun _ => .andThen (parts _) fun _ => inferInstance
    · exact .andThen .just fun _ => .andThen (parts _) fun _ => inferInstance

end Branches

section Compile

variable {compile : Compile} [parts : ∀ target value, Still (compile target value)]

instance (e) : Still (intoParam compile e) := .seq

instance (e) : Still (intoParamUnlessOne compile e) := by
  unfold intoParamUnlessOne
  split <;> infer_instance

instance (e) : Still (subexpression compile e) := by
  unfold subexpression
  infer_instance

instance (guard) : Still (condition compile guard) := by
  unfold condition
  repeat' first | infer_instance | split | dsimp only

instance (target otherwise guard value) : Still (choose compile target otherwise guard value) :=
  .after fun _ => .andThen (conditional_still none inferInstance
    (by simpa using ⟨inferInstance, parts ..⟩)) fun _ => .just

instance (e) : Still (targetNumber compile e) := by
  unfold targetNumber
  split <;> infer_instance

instance (target count) : Still (reserveSprites compile target count) := by
  unfold reserveSprites
  infer_instance

instance (target op left right) : Still (prepare compile target op left right) := by
  unfold prepare
  repeat' first | infer_instance | split

instance (dataFree e) : Still (operand compile dataFree e) := by
  unfold operand
  split <;> infer_instance

instance (e) : Still (readNumber compile e) := by
  unfold readNumber
  split <;> infer_instance

instance (target value) : Still (plain compile target value) := by
  unfold plain
  repeat' first | infer_instance | split

instance step_still (target value) : Still (step compile target value) := by
  unfold step
  repeat' first | infer_instance | split | dsimp only | intro _ | apply Ensures.andThen

end Compile

instance compileWith_still (fuel target value) : Still (compileWith fuel target value) := by
  induction fuel generalizing target value with
  | zero => exact .stop
  | succ fuel ih => exact step_still target value

instance (target value) : Still (compile target value) := compileWith_still ..

end Assign

namespace Texts

instance (text) : Fixed (versions text) := .seq

instance (feature range text) : Fixed (numberIn feature range text) := by
  refine .after fun s => ?_
  dsimp only
  split
  · exact .just
  · split
    · refine .andThen (.modify fun s => ?_) fun _ => .just
      split <;> exact ⟨⟨rfl, rfl⟩, rfl, rfl, rfl, rfl⟩
    · exact .fail

instance (feature size number patches text) : Fixed (write feature size number patches text) := .seq

instance (feature range text id) : Still (define feature range text id) := by
  unfold define
  refine .after fun _ => .after fun _ => ?_
  dsimp only
  split
  · infer_instance
  · split <;> infer_instance

end Texts

end NewGrf
