import NewGrf.Proofs.Loading

namespace NewGrf

namespace Word

theorem quotient_self (a : Word) : quotient a a = ofTruth (a != 0) := by
  unfold quotient ofTruth
  by_cases zero : a = 0
  · simp [zero]
  · rw [if_neg zero, BitVec.sdiv_self, if_neg (by simpa using zero), if_pos (by simpa using zero)]
    rfl

theorem or_sub_and (a b : Word) : (a ||| b) - (a &&& b) = a ^^^ b := by
  have apart : (a ^^^ b) &&& (a &&& b) = 0#32 := by
    ext i
    simp only [BitVec.getElem_and, BitVec.getElem_xor, BitVec.getElem_zero]
    cases a[i] <;> cases b[i] <;> rfl
  have whole : (a ^^^ b) ||| (a &&& b) = a ||| b := by
    ext i
    simp only [BitVec.getElem_and, BitVec.getElem_xor, BitVec.getElem_or]
    cases a[i] <;> cases b[i] <;> rfl
  rw [← whole, ← BitVec.add_eq_or_of_and_eq_zero _ _ apart, BitVec.add_sub_cancel]

theorem allOnes_sub (a : Word) : ofInt 0xFFFFFFFF - a = ~~~a := BitVec.allOnes_sub_eq_not a

theorem sub_bne_zero (a b : Word) : (a - b != 0) = (a != b) := by
  rw [Bool.eq_iff_iff, bne_iff_ne, bne_iff_ne, ne_eq, ne_eq, not_iff_not]
  exact ⟨fun zero => by bv_omega, fun same => by rw [same]; exact BitVec.sub_self b⟩

theorem one_sub_ofTruth (a b : Word) : 1 - ofTruth (a != b) = ofTruth (a == b) := by
  unfold ofTruth
  by_cases same : a = b
  · simp [same]
  · simp [same]

end Word

namespace Operator

/-- What the steps of an assignment compute for an operator. -/
def computed : Operator → Word → Word → Word
  | lt, a, b => (a - b) >>> 31
  | gt, a, b => (b - a) >>> 31
  | le, a, b => (a - b - 1) >>> 31
  | ge, a, b => (b - a - 1) >>> 31
  | op, a, b => op.run a b

/-- The operators that steps compute exactly. -/
def exact : List Operator := [add, sub, mul, div, mod, and, or, xor, eq, ne]

def orders : List Operator := [lt, gt, le, ge]

def shifts : List Operator := [shiftLeft, shiftRight, shiftRightU]

theorem computed_eq_run {op : Operator} (h : op ∈ exact ∨ op ∈ shifts) : op.computed = op.run := by
  rcases h with h | h <;> simp only [exact, shifts, List.mem_cons, List.not_mem_nil, or_false] at h
  · rcases h with rfl | rfl | rfl | rfl | rfl | rfl | rfl | rfl | rfl | rfl <;> rfl
  · rcases h with rfl | rfl | rfl <;> rfl

section Counts

variable {n : Int} (low : 0 ≤ n) (high : n < 32) (a : Word)
include low high

attribute [local simp] assigned run

theorem assigned_shiftLeft : shiftLeft.assigned a (.ofInt n) = shiftLeft.run a (.ofInt n) := by
  simp [Word.msb_ofInt_of_nonneg low (by omega), Word.count_ofInt low high,
    Word.toNat_ofInt_of_small low high]

theorem msb_neg (positive : 0 < n) : (Word.ofInt (-n)).msb = true := by
  rw [BitVec.msb_eq_decide, BitVec.toNat_ofInt, decide_eq_true_eq]
  omega

theorem assigned_turned : shiftLeft.assigned a (.ofInt (-n)) = shiftRight.run a (.ofInt n) := by
  simp only [assigned, run, Word.count_ofInt low high]
  by_cases zero : n = 0
  · simp [zero, Word.ofInt]
  · rw [msb_neg low high (by omega), if_pos rfl, Word.ofInt, ← BitVec.ofInt_neg, Int.neg_neg,
      Word.toNat_ofInt_of_small low high]

theorem assigned_turnedU : shiftLeftU.assigned a (.ofInt (-n)) = shiftRightU.run a (.ofInt n) := by
  simp only [assigned, run, Word.count_ofInt low high]
  by_cases zero : n = 0
  · simp [zero, Word.ofInt]
  · rw [msb_neg low high (by omega), if_pos rfl, Word.ofInt, ← BitVec.ofInt_neg, Int.neg_neg,
      Word.toNat_ofInt_of_small low high]

end Counts

end Operator

/-- What an expression reads where there is nothing but parameters. -/
def Params.world (params : Params) : World :=
  { (default : World) with param := fun n => params n.toNat }

namespace Expr

/-- Expressions without a choice, over some operators. Shifts are by constants. -/
inductive Straight (ops : List Operator) : Expr → Prop
  | num (v : Int) (p : Option Position) : Straight ops (.num v p)
  | param {n : Expr} (p : Option Position) : Straight ops n → Straight ops (.param n p)
  | binary {op : Operator} {a b : Expr} (p : Option Position) :
      op ∈ ops → Straight ops a → Straight ops b → Straight ops (.binary op a b p)
  | shift {op : Operator} {a : Expr} {n : Int} (p q : Option Position) :
      op ∈ Operator.shifts → Straight ops a → 0 ≤ n → n < 32 →
      Straight ops (.binary op a (.num n p) q)
  | bitNot {e : Expr} (p : Option Position) : Straight ops e → Straight ops (.bitNot e p)
  | not {e : Expr} (p : Option Position) : Straight ops e → Straight ops (.not e p)

/-- The positions of the counts that are turned when an expression is compiled. -/
def turns : Expr → List Position
  | .param n _ => n.turns
  | .binary op a b _ => a.turns ++ b.turns ++ match op, b with
    | .shiftRight, .num _ p | .shiftRightU, .num _ p => p.toList
    | _, _ => []
  | .bitNot e _ | .not e _ => e.turns
  | _ => []

/-- What the steps of an assignment compute for an expression. -/
def computed (params : Params) : Expr → Word
  | .num v _ => .ofInt v
  | .param n _ => params (n.constant?.getD (n.computed params).toNat)
  | .binary op a b _ => op.computed (a.computed params) (b.computed params)
  | .bitNot e _ => ~~~ e.computed params
  | .not e _ => 1 - e.computed params
  | _ => 0

/-- All parameters that an expression reads are among some. -/
def Reads (may : Int → Prop) (params : Params) : Expr → Prop
  | .param n _ => n.Reads may params ∧ may (n.constant?.getD (n.computed params).toNat)
  | .binary _ a b _ => a.Reads may params ∧ b.Reads may params
  | .bitNot e _ | .not e _ => e.Reads may params
  | _ => True

/-- All parameters that an expression reads are among some, and it negates nothing but truths. -/
def Defined (may : Int → Prop) (params : Params) : Expr → Prop
  | .param n _ => n.Defined may params ∧ may (n.constant?.getD (n.value params.world).toNat)
  | .binary _ a b _ => a.Defined may params ∧ b.Defined may params
  | .bitNot e _ => e.Defined may params
  | .not e _ => e.Defined may params ∧ (e.value params.world = 0 ∨ e.value params.world = 1)
  | _ => True

section Positions

variable (e : Expr) (p : Option Position) (may : Int → Prop) (params : Params)

@[simp] theorem turns_atLeastAt : (e.atLeastAt p).turns = e.turns := by
  unfold atLeastAt
  split
  · cases e <;> rfl
  · rfl

@[simp] theorem computed_atLeastAt : (e.atLeastAt p).computed params = e.computed params := by
  unfold atLeastAt
  split
  · cases e <;> rfl
  · rfl

@[simp] theorem reads_atLeastAt : (e.atLeastAt p).Reads may params = e.Reads may params := by
  unfold atLeastAt
  split
  · cases e <;> rfl
  · rfl

variable {e}

theorem Straight.atLeastAt {ops} (straight : e.Straight ops) : (e.atLeastAt p).Straight ops := by
  unfold Expr.atLeastAt
  split
  · cases straight with
    | num v => exact .num v _
    | param _ n => exact .param _ n
    | binary _ op a b => exact .binary _ op a b
    | shift p _ op a low high => exact .shift p _ op a low high
    | bitNot _ e => exact .bitNot _ e
    | not _ e => exact .not _ e
  · exact straight

end Positions

theorem Straight.mono {ops more} {e : Expr} (straight : e.Straight ops)
    (within : ops ⊆ more) : e.Straight more := by
  induction straight with
  | num v p => exact .num v p
  | param p _ ih => exact .param p ih
  | binary p op _ _ left right => exact .binary p (within op) left right
  | shift p q op _ low high ih => exact .shift p q op ih low high
  | bitNot p _ ih => exact .bitNot p ih
  | not p _ ih => exact .not p ih

section Reads

variable {ops : List Operator} {may wider : Int → Prop} {params later : Params} {e : Expr}

theorem Straight.reads_mono (straight : e.Straight ops) (reads : e.Reads may params)
    (within : ∀ n, may n → wider n) : e.Reads wider params := by
  induction straight with
  | num => trivial
  | param p _ ih => exact ⟨ih reads.1, within _ reads.2⟩
  | binary p op _ _ left right => exact ⟨left reads.1, right reads.2⟩
  | shift p q op _ low high ih => exact ⟨ih reads.1, trivial⟩
  | bitNot p _ ih | not p _ ih => exact ih reads

theorem Straight.unnoticed (straight : e.Straight ops) (reads : e.Reads may params)
    (same : ∀ n, may n → later n = params n) :
    e.Reads may later ∧ e.computed later = e.computed params := by
  induction straight with
  | num => exact ⟨trivial, rfl⟩
  | param p _ ih =>
    obtain ⟨inner, number⟩ := ih reads.1
    simp only [Reads, computed, number]
    exact ⟨⟨inner, reads.2⟩, same _ reads.2⟩
  | binary p op _ _ left right =>
    obtain ⟨readsLeft, valueLeft⟩ := left reads.1
    obtain ⟨readsRight, valueRight⟩ := right reads.2
    exact ⟨⟨readsLeft, readsRight⟩, by simp only [computed, valueLeft, valueRight]⟩
  | shift p q op _ low high ih =>
    obtain ⟨inner, value⟩ := ih reads.1
    exact ⟨⟨inner, trivial⟩, by simp only [computed, value]⟩
  | bitNot p _ ih | not p _ ih =>
    obtain ⟨inner, value⟩ := ih reads
    exact ⟨inner, by simp only [computed, value]⟩

end Reads

/-- Without order, the steps compute the value of an expression. -/
theorem Straight.computed_eq_value {params : Params} {e : Expr} {may}
    (straight : e.Straight Operator.exact) (numbers : ∀ n, may n → 0 ≤ n ∧ n < 0xFF)
    (defined : e.Defined may params) :
    e.Reads may params ∧ e.computed params = e.value params.world := by
  induction straight with
  | num => exact ⟨trivial, by simp [computed, value]⟩
  | @param n p inner ih =>
    obtain ⟨reads, same⟩ := ih defined.1
    have number : n.constant?.getD (n.value params.world).toNat = (n.value params.world).toNat := by
      cases inner with
      | num v q =>
        obtain ⟨low, high⟩ := numbers v defined.2
        simp only [constant?, Option.getD_some, value, BitVec.toNat_ofInt]
        omega
      | _ => rfl
    simp only [Reads, computed, value, same]
    refine ⟨⟨reads, defined.2⟩, ?_⟩
    rw [number]
    rfl
  | binary p op _ _ left right =>
    obtain ⟨readsLeft, sameLeft⟩ := left defined.1
    obtain ⟨readsRight, sameRight⟩ := right defined.2
    refine ⟨⟨readsLeft, readsRight⟩, ?_⟩
    simp only [computed, value, Operator.computed_eq_run (.inl op), sameLeft, sameRight]
  | shift p q op _ low high ih =>
    obtain ⟨reads, same⟩ := ih defined.1
    refine ⟨⟨reads, trivial⟩, ?_⟩
    simp only [computed, value, Operator.computed_eq_run (.inr op), same]
  | bitNot p _ ih =>
    obtain ⟨reads, same⟩ := ih defined
    exact ⟨reads, by simp only [computed, value, same]⟩
  | not p _ ih =>
    obtain ⟨reads, same⟩ := ih defined.1
    refine ⟨reads, ?_⟩
    simp only [computed, value, same]
    rcases defined.2 with zero | one
    · simp [zero, Word.ofTruth]
    · simp [one, Word.ofTruth]

end Expr

end NewGrf
