import NewGrf.Proofs.Steps

open List

namespace NewGrf

open Build Word

/-- The numbers that a signed word can hold. -/
def Word.Holds (n : Int) : Prop := -2147483648 ≤ n ∧ n < 2147483648

namespace Expr

/-- Constants, and parameters whose number is constant. -/
inductive Simple : Expr → Prop
  | num (v : Int) (p : Option Position) : Simple (.num v p)
  | param (n : Int) (p q : Option Position) : Simple (.param (.num n p) q)

/-- The parameters that an expression reads by a constant number. -/
def mentions : Expr → List Int
  | .param (.num n _) _ => [n]
  | .binary _ a b _ => a.mentions ++ b.mentions
  | .ternary guard yes no _ => guard.mentions ++ yes.mentions ++ no.mentions
  | .not e _ | .boolean e _ | .abs e _ => e.mentions
  | _ => []

namespace Simple

variable {e : Expr} {ops : List Operator} {may : Int → Prop} {params later : Params}

theorem straight (simple : e.Simple) : e.Straight ops := by
  cases simple with
  | num v p => exact .num v p
  | param n p q => exact .param q (.num n p)

theorem turns_eq_nil (simple : e.Simple) : e.turns = [] := by
  cases simple <;> rfl

theorem reads (simple : e.Simple) (mentioned : ∀ n ∈ e.mentions, may n) : e.Reads may params := by
  cases simple with
  | num v p => trivial
  | param n p q => exact ⟨trivial, mentioned n (by simp [mentions])⟩

end Simple

end Expr

namespace Operator

/-- The difference whose sign is taken for an order. -/
def difference : Operator → Word → Word → Int
  | lt, a, b => a.toInt - b.toInt
  | gt, a, b => b.toInt - a.toInt
  | le, a, b => a.toInt - b.toInt - 1
  | ge, a, b => b.toInt - a.toInt - 1
  | _, _, _ => 0

variable {op : Operator}

theorem run_eq_difference (isOrder : op ∈ orders) (a b : Word) :
    op.run a b = ofTruth (decide (op.difference a b < 0)) := by
  simp only [orders, mem_cons, not_mem_nil, or_false] at isOrder
  rcases isOrder with rfl | rfl | rfl | rfl
  all_goals
    refine congrArg ofTruth (decide_eq_decide.2 ?_)
    simp only [difference]
    omega

theorem shift_31 (w : Word) : w >>> 31 = ofTruth w.msb := by
  apply BitVec.eq_of_toNat_eq
  have := w.isLt
  rw [BitVec.msb_eq_decide, BitVec.toNat_ushiftRight, Nat.shiftRight_eq_div_pow]
  by_cases top : 2147483648 ≤ w.toNat
  · have one : w.toNat / 2147483648 = 1 := by omega
    simp [one, top, ofTruth]
  · have zero : w.toNat / 2147483648 = 0 := by omega
    simp [zero, top, ofTruth]

theorem computed_eq_difference (isOrder : op ∈ orders) (a b : Word) :
    op.computed a b = ofTruth (Word.ofInt (op.difference a b)).msb := by
  have word (n : Word) : Word.ofInt n.toInt = n := BitVec.ofInt_toInt
  simp only [orders, mem_cons, not_mem_nil, or_false] at isOrder
  rcases isOrder with rfl | rfl | rfl | rfl
  all_goals
    simp only [computed, difference, shift_31, ofInt_sub, word, show Word.ofInt 1 = 1 from rfl]

theorem msb_ofInt_eq_iff (n : Int) (low : -4294967296 ≤ n) (high : n < 4294967296) :
    (Word.ofInt n).msb = decide (n < 0) ↔ Word.Holds n := by
  rw [BitVec.msb_eq_decide, BitVec.toNat_ofInt, decide_eq_decide, Word.Holds]
  omega

theorem ofTruth_inj {x y : Bool} : ofTruth x = ofTruth y ↔ x = y := by
  cases x <;> cases y <;> decide

/-- The sign of the difference says the order of two words exactly if a word can hold the
difference. -/
theorem computed_eq_run_iff (isOrder : op ∈ orders) (a b : Word) :
    op.computed a b = op.run a b ↔ Word.Holds (op.difference a b) := by
  have := a.toInt_lt
  have := a.le_toInt
  have := b.toInt_lt
  have := b.le_toInt
  rw [computed_eq_difference isOrder, run_eq_difference isOrder, ofTruth_inj, msb_ofInt_eq_iff]
  all_goals
    simp only [orders, mem_cons, not_mem_nil, or_false] at isOrder
    rcases isOrder with rfl | rfl | rfl | rfl <;> simp only [difference] <;> omega

end Operator

namespace Assign

variable {op : Operator} {a b : Expr} {target : Int} {q₁ q₂ p : Option Position} {s : Session}
  {g : Game} {st : Loading}

/-- The order of two operands, of which one is a parameter, is computed without any other
parameter. -/
theorem compile_order (isOrder : op ∈ Operator.orders) (left : a.Simple) (right : b.Simple)
    (reads : a.mentions ++ b.mentions ≠ []) : ∃ actions, ∀ s : Session,
      compile (.param (.num target q₁) q₂) (.binary op a b p) s = .ok actions s := by
  simp only [Operator.orders, mem_cons, not_mem_nil, or_false] at isOrder
  cases left with
  | num v q =>
    cases right with
    | num w r => exact absurd rfl reads
    | param n r r' =>
      rcases isOrder with rfl | rfl | rfl | rfl <;> cases q₂ <;> cases q <;> cases r' <;>
        exact ⟨_, fun _ => rfl⟩
  | param m q q' =>
    cases right with
    | num w r =>
      rcases isOrder with rfl | rfl | rfl | rfl <;> cases q₂ <;> cases q' <;> cases r <;>
        exact ⟨_, fun _ => rfl⟩
    | param n r r' =>
      rcases isOrder with rfl | rfl | rfl | rfl <;> cases q₂ <;> cases q' <;> cases r' <;>
        exact ⟨_, fun _ => rfl⟩

theorem compile_constant_order (isOrder : op ∈ Operator.orders) (v w : Int)
    {q r : Option Position} (free : s.params.free ≠ []) : ∃ actions t,
      compile (.param (.num target q₁) q₂) (.binary op (.num v q) (.num w r) p) s =
        .ok actions t := by
  obtain ⟨n, rest, free⟩ := exists_cons_of_ne_nil free
  have same : s = { s with params := { s.params with free := n :: rest } } := by rw [← free]
  simp only [Operator.orders, mem_cons, not_mem_nil, or_false] at isOrder
  rw [same]
  rcases isOrder with rfl | rfl | rfl | rfl <;> cases q₂ <;> cases q <;> cases r <;>
    exact ⟨_, _, rfl⟩

theorem operation_runs {t : Session} {actions : List Action} (known : op ∈ stepwise)
    (left : a.Simple) (right : b.Simple)
    (readable : ∀ n ∈ a.mentions ++ b.mentions, Readable s.params.free n) (isParam : IsParam target)
    (apart : target ∉ s.params.free) (pool : Pool s) (idle : st.Idle)
    (h : compile (.param (.num target q₁) q₂) (.binary op a b p) s = .ok actions t) :
    (st.run g actions).params target =
      op.computed (a.computed st.params) (b.computed st.params) := by
  have silent : (Expr.binary op a b p).turns = [] := by
    rw [turns_binary known, left.turns_eq_nil, right.turns_eq_nil, append_nil]
  have sets := compile_sound g _ _ h (.binary p known left.straight right.straight) isParam apart
    pool
  exact (sets.runs st idle ⟨left.reads fun n mem => readable n (mem_append_left _ mem),
    right.reads fun n mem => readable n (mem_append_right _ mem)⟩ (by simp [silent, Game.Turns])).2

/-- An order of constants and parameters that is assigned to a parameter leaves a truth there. It is
the order of the signed words exactly if a word can hold the difference of which the sign is
taken. -/
theorem order_assigned_iff (isOrder : op ∈ Operator.orders) (left : a.Simple) (right : b.Simple)
    (numbers : ∀ n ∈ a.mentions ++ b.mentions, 0 ≤ n ∧ n < 0xFF) (isParam : IsParam target)
    (apart : target ∉ s.params.free) (pool : Pool s) (free : s.params.free ≠ []) (idle : st.Idle) :
    ∃ actions t, compile (.param (.num target q₁) q₂) (.binary op a b p) s = .ok actions t ∧
      let found := (st.run g actions).params target
      (found = 0 ∨ found = 1) ∧
        (found = op.run (a.computed st.params) (b.computed st.params) ↔
          Word.Holds (op.difference (a.computed st.params) (b.computed st.params))) := by
  have known : op ∈ stepwise := mem_append_right _ isOrder
  suffices leaves : ∃ actions t,
      compile (.param (.num target q₁) q₂) (.binary op a b p) s = .ok actions t ∧
        (st.run g actions).params target =
          op.computed (a.computed st.params) (b.computed st.params) by
    obtain ⟨actions, t, compiled, value⟩ := leaves
    refine ⟨actions, t, compiled, ?_, by rw [value, Operator.computed_eq_run_iff isOrder]⟩
    rw [value, Operator.computed_eq_difference isOrder, ofTruth]
    split <;> simp
  by_cases reads : a.mentions ++ b.mentions = []
  · have readable : ∀ n ∈ a.mentions ++ b.mentions, Readable s.params.free n := by simp [reads]
    obtain ⟨actions, t, compiled⟩ : ∃ actions t,
        compile (.param (.num target q₁) q₂) (.binary op a b p) s = .ok actions t := by
      cases left with
      | num v q =>
        cases right with
        | num w r => exact compile_constant_order isOrder v w free
        | param n r r' => simp [Expr.mentions] at reads
      | param m q q' => simp [Expr.mentions] at reads
    exact ⟨actions, t, compiled, operation_runs known left right readable isParam apart pool idle
      compiled⟩
  · -- Nothing is taken for values in between, so all parameters can be read.
    obtain ⟨actions, compiled⟩ : ∃ actions, ∀ s : Session,
        compile (.param (.num target q₁) q₂) (.binary op a b p) s = .ok actions s :=
      compile_order isOrder left right reads
    let full : Session := { s with params := { s.params with free := [] } }
    exact ⟨actions, s, compiled s, operation_runs (s := full) known left right
      (fun n mem => ⟨(numbers n mem).1, (numbers n mem).2, not_mem_nil⟩) isParam not_mem_nil
      ⟨fun _ mem => absurd mem not_mem_nil, nodup_nil⟩ idle (compiled full)⟩

/-- The least word is not below one, as the difference is the greatest word. -/
theorem least_word_not_below_one :
    ∃ actions t, compile (paramOf 1) (.binary .lt (paramOf 0) (.int 1) none) {} = .ok actions t ∧
      let st : Loading := { params := fun _ => 0x80000000 }
      (st.run (silentGame fun _ => false) actions).params 1 ≠ Operator.lt.run (st.params 0) 1 := by
  obtain ⟨actions, t, compiled, -, fits⟩ := @order_assigned_iff .lt (paramOf 0) (.int 1) 1 none none
    none {} (silentGame fun _ => false) { params := fun _ => 0x80000000 } (by decide)
    (.param 0 none none) (.num 1 none) (by decide) ⟨by decide, by decide⟩ (by decide)
    ⟨paramsFit_new, nodup_new⟩ (by decide) ⟨rfl, rfl⟩
  exact ⟨actions, t, compiled, fun same => absurd (fits.1 same).1 (by decide)⟩

end Assign

end NewGrf
