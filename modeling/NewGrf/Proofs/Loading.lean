import Mathlib.Logic.Function.Basic
import NewGrf.Action.Basic
import NewGrf.Proofs.Meaning

namespace NewGrf

/-- The values of the parameters. -/
abbrev Params := Int → Word

/-- Bytes that replace those of an action, from an offset on. -/
structure Written where
  offset : Nat
  size : Nat
  value : Word
  deriving Repr, DecidableEq

/-- The actions that were carried out, with what was written over them. -/
abbrev Log := List (Action × List Written)

/-- What is passed over: a number of actions, those up to a label, or all that follow. -/
inductive Passing where
  | count (n : Nat)
  | upTo (label : Int)
  | rest
  deriving Repr, DecidableEq

/-- Where loading stands. -/
structure Loading where
  params : Params
  waiting : List Written := []
  passing : Passing := .count 0
  log : Log := []

/-- What the game adds of its own. It may depend on all that was done before. -/
structure Game where
  /-- Whether the count at a position is negated in the end. -/
  turned : Option Position → Bool
  /-- The first of some reserved numbers. -/
  reserved : Log → Reserve → Word
  /-- What a step reads from outside the parameters. -/
  foreign : Log → ParamStep → Word
  /-- The tests that do not compare a parameter. -/
  test : Log → Skip → Bool

namespace Written

/-- The byte that is written at a place, by the last one that writes there. -/
def byteAt? (ws : List Written) (i : Nat) : Option Nat :=
  ws.foldl (fun found w =>
    if w.offset ≤ i ∧ i < w.offset + w.size then
      some (w.value.toNat / Number.twoPow (8 * (i - w.offset)) % 256)
    else found) none

/-- A number of some bytes in which those that are written are replaced. -/
def overwrite (ws : List Written) (offset size : Nat) (n : Int) : Int :=
  if (List.range size).all fun i => (byteAt? ws (offset + i)).isNone then n
  else Number.intTotal <| (List.range size).map fun i =>
    let old := Number.lowBytes n size / Number.twoPow (8 * i) % 256
    ((byteAt? ws (offset + i)).getD old * Number.twoPow (8 * i) : Nat)

@[simp] theorem overwrite_nil (offset size : Nat) (n : Int) : overwrite [] offset size n = n := by
  simp [overwrite, byteAt?]

end Written

/-- An action with some of its bytes replaced. -/
def Action.overlaid (ws : List Written) : Action → Action
  | .assign a => .assign { a with target := Written.overwrite ws 1 1 a.target
                                  left := Written.overwrite ws 3 1 a.left
                                  right := Written.overwrite ws 4 1 a.right
                                  data := a.data.map (Written.overwrite ws 5 4) }
  | .reserve r => .reserve { r with target := Written.overwrite ws 1 1 r.target }
  | .skip s => .skip { s with param := Written.overwrite ws 1 1 s.param
                              value := Written.overwrite ws 4 s.size s.value
                              target := Written.overwrite ws (4 + s.size) 1 s.target }
  | a => a

@[simp] theorem Action.overlaid_nil (a : Action) : a.overlaid [] = a := by
  cases a with
  | assign a =>
    have same : Written.overwrite [] 5 4 = id := funext fun n => Written.overwrite_nil 5 4 n
    simp [overlaid, same]
  | _ => simp [overlaid]

/-- What a patch writes. -/
def Patch.written (params : Params) (p : Patch) : Written := ⟨p.offset, p.size, params p.param⟩

namespace ParamStep

/-- The data that the step has in the end. -/
def word (g : Game) (a : ParamStep) : Word :=
  let data := a.data.getD 0
  Word.ofInt <| match a.count with
    | some p => if p.isOwn && !g.turned a.count then -data else data
    | none => data

/-- The value of the operand with a number. -/
def operand (g : Game) (params : Params) (a : ParamStep) (n : Int) : Word :=
  if n = 0xFF then a.word g else params n

/-- What a step assigns. A plain assignment whose second operand has the number 0xFE is one of a
value from outside the parameters. -/
def result (g : Game) (log : Log) (params : Params) (a : ParamStep) : Word :=
  if a.op = .assign ∧ a.right = 0xFE then g.foreign log a
  else a.op.assigned (a.operand g params a.left) (a.operand g params a.right)

end ParamStep

namespace Skip

/-- What a test says of the value of a parameter, if it is one that compares it. Only as many bytes
of the parameter count as the test has. -/
def compare? (code size : Nat) (value : Int) (w : Word) : Option Bool :=
  let seen := w.toNat % Number.twoPow (8 * size)
  let value := Number.lowBytes value size
  match code with
  | 0 => some (w.getLsbD value)
  | 1 => some (!w.getLsbD value)
  | 2 => some (seen == value)
  | 3 => some (seen != value)
  | 4 => some (seen < value)
  | 5 => some (value < seen)
  | _ => none

/-- Whether the skip happens. -/
def happens (g : Game) (log : Log) (params : Params) (s : Skip) : Bool :=
  (compare? s.code s.size s.value (params s.param)).getD (g.test log s)

/-- What a skip that happens passes over. -/
def passing (s : Skip) : Passing :=
  if s.target = 0 then .rest
  else if s.target < 0x10 then .count s.target.toNat
  else .upTo s.target

theorem passing_of_count {s : Skip} {n : Nat} (target : s.target = n) (some : 0 < n)
    (few : n < 0x10) : s.passing = .count n := by
  rw [passing, target, if_neg (by omega), if_pos (by omega), Int.toNat_natCast]

theorem passing_of_label {s : Skip} (isLabel : 0x10 ≤ s.target) : s.passing = .upTo s.target := by
  rw [passing, if_neg (by omega), if_neg (by omega)]

end Skip

namespace Loading

/-- Nothing is passed over, and nothing waits to be written. -/
def Idle (st : Loading) : Prop := st.passing = .count 0 ∧ st.waiting = []

/-- Carries out an action. Skips and labels do nothing but say where to go on. -/
def perform (g : Game) (st : Loading) (action : Action) : Loading :=
  let next := { st with waiting := [] }
  let logged := { next with log := st.log ++ [(action, st.waiting)] }
  match action.overlaid st.waiting with
  | .assign a =>
    { logged with params := Function.update st.params a.target (a.result g st.log st.params) }
  | .reserve r => { logged with params := Function.update st.params r.target (g.reserved st.log r) }
  | .patch ps => { logged with waiting := ps.map (Patch.written st.params) }
  | .skip s => if s.happens g st.log st.params then { next with passing := s.passing } else next
  | .label _ => next
  | _ => logged

/-- Takes the next action. -/
def step (g : Game) (st : Loading) (action : Action) : Loading :=
  match st.passing, action with
  | .count 0, _ => st.perform g action
  | .count (n + 1), _ => { st with passing := .count n }
  | .upTo l, .label m => if m = l then { st with passing := .count 0 } else st
  | .upTo _, _ => st
  | .rest, _ => st

attribute [local simp] step

/-- Loads actions in a row. -/
def run (g : Game) (st : Loading) (actions : List Action) : Loading := actions.foldl (step g) st

variable (g : Game) (st : Loading)

@[simp] theorem run_nil : st.run g [] = st := rfl

@[simp] theorem run_cons (a : Action) (as : List Action) :
    st.run g (a :: as) = (st.step g a).run g as := rfl

@[simp] theorem run_append (as bs : List Action) :
    st.run g (as ++ bs) = (st.run g as).run g bs := List.foldl_append

variable {g st}

theorem step_of_passing_zero (h : st.passing = .count 0) (a : Action) :
    st.step g a = st.perform g a := by
  simp only [step, h]

theorem Idle.stopped (idle : st.Idle) : ({ st with passing := .count 0 } : Loading) = st := by
  rw [← idle.1]

theorem Idle.step_skip {s : Skip} (idle : st.Idle) : st.step g (.skip s) =
      if s.happens g st.log st.params then { st with passing := s.passing } else st := by
  obtain ⟨params, waiting, passing, log⟩ := st
  obtain ⟨rfl, rfl⟩ := idle
  simp [perform]

theorem Idle.step_assign {a : ParamStep} (idle : st.Idle) : st.step g (.assign a) =
      { st with params := Function.update st.params a.target (a.result g st.log st.params)
                log := st.log ++ [(.assign a, [])] } := by
  obtain ⟨params, waiting, passing, log⟩ := st
  obtain ⟨rfl, rfl⟩ := idle
  simp [perform]

theorem Idle.idle_step_assign {a} (idle : st.Idle) : (st.step g (.assign a)).Idle := by
  rw [idle.step_assign]
  exact idle

theorem Idle.params_step_assign {a : ParamStep} (idle : st.Idle) : (st.step g (.assign a)).params =
      Function.update st.params a.target (a.result g st.log st.params) := by
  rw [idle.step_assign]

/-- A counted skip goes on right behind the actions that it counts. -/
theorem run_count (as : List Action) :
    ({ st with passing := .count as.length } : Loading).run g as =
      { st with passing := .count 0 } := by
  induction as with
  | nil => rfl
  | cons a as ih => simpa using ih

end Loading

/-- The actions that do something themselves. -/
def Action.isLeaf : Action → Bool
  | .skip _ | .label _ => false
  | _ => true

namespace Loading

variable {g : Game} {st : Loading}

theorem perform_log {a : Action} (leaf : a.isLeaf) :
    (st.perform g a).log = st.log ++ [(a, st.waiting)] := by
  cases a <;> simp_all [Action.isLeaf, perform, Action.overlaid]

/-- What a step adds to the log was carried out with the bytes that waited for it. -/
theorem step_log (g : Game) (st : Loading) (a : Action) :
    (st.step g a).log = st.log ∧ (st.waiting = [] → (st.step g a).waiting = []) ∨
      a.isLeaf ∧ (st.step g a).log = st.log ++ [(a, st.waiting)] := by
  by_cases idle : st.passing = .count 0
  · rw [step_of_passing_zero idle]
    cases leaf : a.isLeaf with
    | true => exact .inr ⟨rfl, perform_log leaf⟩
    | false =>
      left
      cases a with
      | skip s => simp only [perform, Action.overlaid]; split <;> simp
      | label l => simp [perform, Action.overlaid]
      | _ => simp [Action.isLeaf] at leaf
  · left
    unfold step
    split <;> simp_all
    split <;> simp_all

end Loading

end NewGrf
