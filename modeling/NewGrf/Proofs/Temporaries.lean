import Mathlib.Data.List.Nodup
import NewGrf.Action.Assign
import NewGrf.Proofs.Build
import NewGrf.Proofs.Loading

namespace NewGrf

/-- The actions of which an assignment without a choice is made. -/
def Action.isStep : Action → Bool
  | .assign _ | .patch _ => true
  | _ => false

namespace Loading

/-- A run of steps that starts where nothing is pending ends so, and changes only some
parameters. -/
structure Changes (g : Game) (st : Loading) (actions : List Action) (only : Int → Prop) :
    Prop where
  steps : ∀ a ∈ actions, a.isStep = true
  idle : (st.run g actions).Idle
  other : ∀ n, ¬ only n → (st.run g actions).params n = st.params n

namespace Changes

variable {g : Game} {st : Loading} {as bs : List Action} {only wider : Int → Prop}

theorem nil (idle : st.Idle) : Changes g st [] only := ⟨by simp, idle, fun _ _ => rfl⟩

theorem mono (run : Changes g st as only) (within : ∀ n, only n → wider n) :
    Changes g st as wider :=
  ⟨run.steps, run.idle, fun n stays => run.other n fun changed => stays (within n changed)⟩

theorem append (first : Changes g st as only) (second : Changes g (st.run g as) bs only) :
    Changes g st (as ++ bs) only := by
  refine ⟨List.forall_mem_append.2 ⟨first.steps, second.steps⟩, ?_, ?_⟩
  · rw [run_append]
    exact second.idle
  · intro n stays
    rw [run_append, second.other n stays, first.other n stays]

theorem assign {a : ParamStep} (idle : st.Idle) (target : only a.target) :
    Changes g st [.assign a] only := by
  refine ⟨by simp [Action.isStep], idle.idle_step_assign, fun n stays => ?_⟩
  have other : n ≠ a.target := fun same => stays (same ▸ target)
  rw [run_cons, run_nil, idle.params_step_assign, Function.update_of_ne other]

theorem append_assign {a : ParamStep} {v} (run : Changes g st as only) (target : only a.target)
    (result : a.result g (st.run g as).log (st.run g as).params = v) :
    Changes g st (as ++ [.assign a]) only ∧ (st.run g (as ++ [.assign a])).params a.target = v := by
  refine ⟨run.append (.assign run.idle target), ?_⟩
  rw [run_append, run_cons, run_nil, run.idle.params_step_assign, Function.update_self, result]

end Changes

variable {g : Game} {st : Loading}

/-- A step that reads a parameter whose number is in another parameter. -/
theorem run_patched_read (idle : st.Idle) (target number : Int)
    (isNumber : (st.params number).toNat < 0xFF) :
    let actions :=
      [.patch [⟨number, 1, 3⟩], .assign { target, left := 0, op := .assign, right := 0 }]
    (st.run g actions).Idle ∧ (st.run g actions).params =
      Function.update st.params target (st.params (st.params number).toNat) := by
  obtain ⟨params, waiting, passing, log⟩ := st
  obtain ⟨rfl, rfl⟩ := idle
  have low : (params number).toNat % 256 = (params number).toNat := Nat.mod_eq_of_lt (by
    have : (params number).toNat < 0xFF := isNumber
    omega)
  have small : ((params number).toNat : Int) ≠ 0xFF := by
    have : (params number).toNat < 0xFF := isNumber
    omega
  have left : Written.overwrite [Patch.written params ⟨number, 1, 3⟩] 3 1 0 =
      (params number).toNat := by
    simp [Written.overwrite, Written.byteAt?, Patch.written, Number.intTotal, Number.twoPow, low]
  have target : Written.overwrite [Patch.written params ⟨number, 1, 3⟩] 1 1 target = target := by
    simp [Written.overwrite, Written.byteAt?, Patch.written]
  have right : Written.overwrite [Patch.written params ⟨number, 1, 3⟩] 4 1 0 = 0 := by
    simp [Written.overwrite, Written.byteAt?, Patch.written]
  refine ⟨⟨rfl, rfl⟩, ?_⟩
  simp [step, perform, Action.overlaid, left, target, right, ParamStep.result, ParamStep.operand,
    small, Operator.assigned, Operator.run]

theorem Changes.append_read {as only target number}
    (run : Changes g st as only) (isTarget : only target)
    (isNumber : ((st.run g as).params number).toNat < 0xFF) :
    let actions := as ++ [.patch [⟨number, 1, 3⟩]] ++
      [.assign { target, left := 0, op := .assign, right := 0 }]
    Changes g st actions only ∧ (st.run g actions).params target =
      (st.run g as).params ((st.run g as).params number).toNat := by
  intro actions
  obtain ⟨idle, params⟩ := run_patched_read (g := g) run.idle target number isNumber
  simp only [actions, List.append_assoc, List.singleton_append]
  refine ⟨run.append ⟨by simp [Action.isStep], idle, fun n stays => ?_⟩, ?_⟩
  · have other : n ≠ target := fun same => stays (same ▸ isTarget)
    rw [params, Function.update_of_ne other]
  · rw [run_append, params, Function.update_self]

end Loading

namespace Assign

/-- The number of a parameter. -/
def IsParam (n : Int) : Prop := 0 ≤ n ∧ n < 0x80

/-- Every parameter that is free for values in between is one of those kept for that. -/
def ParamsFit (s : Session) : Prop := ∀ n ∈ s.params.free, 0x40 ≤ n ∧ n < 0x80

theorem paramOf_eq {n : Int} (h : IsParam n) : paramOf n = .param (.num n none) none := by
  obtain ⟨low, high⟩ := h
  rw [paramOf, Expr.int, Number.signed32_eq_self (by omega) (by omega)]

theorem paramsFit_new : ParamsFit {} := by
  intro n mem
  obtain ⟨i, isIndex, rfl⟩ := List.mem_map.1 (List.mem_reverse.1 mem)
  have := List.mem_range.1 isIndex
  omega

theorem nodup_new : ({} : Session).params.free.Nodup := by
  refine List.nodup_reverse.2 (List.Nodup.map (fun i j h => ?_) List.nodup_range)
  have sum : (i : Int) + 0x40 = j + 0x40 := h
  omega

/-- The parameters that are free for values in between are all different. -/
structure Pool (s : Session) : Prop where
  fit : ParamsFit s
  nodup : s.params.free.Nodup

/-- From one state of a build to a later one, parameters were taken that the next restoring gives
back, and the counts at some positions were turned; no label was taken. -/
structure Took (s t : Session) (turns : List Position) : Prop where
  taken : ∃ popped, s.params.free = popped ++ t.params.free ∧ ∀ given rest,
    s.params.given = given :: rest → t.params.given = (popped.reverse ++ given) :: rest
  labels : t.labels = s.labels
  turned : ∀ p, t.turnedCounts.count p = s.turnedCounts.count p + turns.count p

/-- From one state of a build to a later one, all parameters that were taken were given back. -/
structure Settles (s t : Session) (turns : List Position) : Prop where
  free : t.params.free = s.params.free
  given : t.params.given = s.params.given
  labels : t.labels = s.labels
  turned : ∀ p, t.turnedCounts.count p = s.turnedCounts.count p + turns.count p

section Frames

variable {s t u : Session} {turns more : List Position}

theorem Settles.took (settles : Settles s t turns) : Took s t turns :=
  ⟨⟨[], settles.free.symm, fun _ _ given => settles.given.trans given⟩, settles.labels,
    settles.turned⟩

theorem Took.refl (s : Session) : Took s s [] :=
  ⟨⟨[], rfl, fun _ _ given => given⟩, rfl, fun _ => rfl⟩

theorem Took.trans (first : Took s t turns) (second : Took t u more) :
    Took s u (turns ++ more) := by
  obtain ⟨popped, free, given⟩ := first.taken
  obtain ⟨later, free', given'⟩ := second.taken
  refine ⟨⟨popped ++ later, by rw [free, free', List.append_assoc], fun given₀ rest starts => ?_⟩,
    second.labels.trans first.labels, fun p => ?_⟩
  · rw [given' _ _ (given _ _ starts), List.reverse_append, List.append_assoc]
  · rw [second.turned, first.turned, List.count_append, Nat.add_assoc]

theorem Took.congr (took : Took s t turns) (same : ∀ p, more.count p = turns.count p) :
    Took s t more :=
  ⟨took.taken, took.labels, fun p => by rw [took.turned, same]⟩

theorem Took.subset (took : Took s t turns) : t.params.free ⊆ s.params.free := by
  obtain ⟨popped, free, -⟩ := took.taken
  exact fun n mem => free ▸ List.mem_append_right popped mem

theorem Took.pool (took : Took s t turns) (pool : Pool s) : Pool t := by
  obtain ⟨popped, free, -⟩ := took.taken
  have nodup := pool.nodup
  rw [free] at nodup
  exact ⟨fun n mem => pool.fit n (took.subset mem), (List.nodup_append.1 nodup).2.1⟩

theorem Pool.saved (pool : Pool s) : Pool { s with params := s.params.save } :=
  ⟨pool.fit, pool.nodup⟩

theorem Took.restored (took : Took { s with params := s.params.save } t turns) :
    Settles s { t with params := t.params.restore } turns := by
  obtain ⟨popped, free, given⟩ := took.taken
  have top : t.params.given = popped.reverse :: s.params.given := by
    simpa using given [] s.params.given rfl
  refine ⟨?_, ?_, took.labels, took.turned⟩
  · simp only [FreeNumbers.restore, top, List.reverse_reverse]
    exact free.symm
  · simp only [FreeNumbers.restore, top]

theorem popParam_took {pos n} (h : popParam pos s = .ok n t) :
    s.params.free = n :: t.params.free ∧ Took s t [] := by
  simp only [popParam, Build.bind_eq_ok, Build.get_eq_ok, Build.ofExcept_eq_ok,
    Build.modify_eq_ok, Build.pure_eq_ok] at h
  obtain ⟨_, _, ⟨rfl, rfl⟩, ⟨n, params⟩, _, ⟨popped, rfl⟩, _, _, rfl, rfl, rfl⟩ := h
  unfold FreeNumbers.pop at popped
  split at popped
  · cases popped
  · rename_i n rest free
    cases popped
    refine ⟨by simp [free, FreeNumbers.markUsed], ⟨[n], by simp [free, FreeNumbers.markUsed], ?_⟩,
      rfl, fun _ => rfl⟩
    intro given rest starts
    simp [FreeNumbers.markUsed, starts]

theorem turnCount_took {pos : Option Position} {done}
    (h : Build.turnCount pos s = .ok done t) : Took s t pos.toList := by
  cases pos with
  | none =>
    obtain rfl := (Build.pure_eq_ok.1 h).2
    exact .refl s
  | some p =>
    obtain rfl := Build.modify_eq_ok.1 h
    refine ⟨⟨[], rfl, fun _ _ given => given⟩, rfl, fun q => ?_⟩
    simp [List.count_cons]

end Frames

end Assign

end NewGrf
