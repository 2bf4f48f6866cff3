import NewGrf.Proofs.ConstantFolding

namespace NewGrf

open Word Operator Build

namespace Word

theorem ofInt_truth (c : Bool) : ofInt (if c then 1 else 0) = ofTruth c := by cases c <;> rfl

theorem ofTruth_beq_zero (c : Bool) : (ofTruth c == 0) = !c := by cases c <;> rfl

theorem ofTruth_cases (c : Bool) : ofTruth c = 0 ∨ ofTruth c = 1 := by
  cases c
  · exact .inl rfl
  · exact .inr rfl

theorem ofTruth_or (x y : Word) :
    ofTruth (x ||| y != 0) = ofTruth (x != 0) ||| ofTruth (y != 0) := by
  have both : (x ||| y != 0) = (x != 0 || y != 0) := by
    rw [Bool.eq_iff_iff]
    simp only [bne_iff_ne, ne_eq, BitVec.ofNat_eq_ofNat, BitVec.or_eq_zero_iff, Bool.or_eq_true,
      Decidable.not_and_iff_or_not]
  rw [both]
  cases x != 0 <;> cases y != 0 <;> rfl

theorem toInt_beq_zero (x : Word) : (x.toInt == 0) = (x == 0) := by
  rw [Bool.eq_iff_iff, beq_iff_eq, beq_iff_eq, ← BitVec.toInt_inj]
  rfl

theorem ofInt_abs (x : Word) : ofInt (if x.toInt < 0 then -x.toInt else x.toInt) = x.abs := by
  rw [BitVec.abs, BitVec.msb_eq_toInt]
  by_cases negative : x.toInt < 0
  · simp only [negative, if_true, decide_true, BitVec.ofInt_neg, ofInt_toInt]
    rfl
  · simp only [negative, if_false, decide_false, Bool.false_eq_true, ofInt_toInt]

end Word

namespace Operator

/-- Whether an operator on constants has a value with this one on the right. -/
def admits (op : Operator) (b : Int) : Bool :=
  match op with
  | div | mod => b != 0
  | shiftLeft | shiftRight | shiftRightU | hasBit | notHasBit => 0 ≤ b
  | rotateRight => 0 ≤ b && b ≤ 32
  | _ => true

/-- The result of an operator that computes as on constants, cut to a word. -/
def compute? (op : Operator) (a b : Word) : Option Word :=
  if op.admits b.toInt then (op.fold? a.toInt b.toInt).map ofInt else none

section Rules

variable {op : Operator} {a b w : Word}

section

attribute [local simp] compute? admits fold?

@[simp] theorem compute?_add : add.compute? a b = some (a + b) := by
  simp [BitVec.ofInt_add]

@[simp] theorem compute?_sub : sub.compute? a b = some (a - b) := by
  simp [ofInt_sub]

@[simp] theorem compute?_or : or.compute? a b = some (a ||| b) := by
  simp [ofInt_bitOr]

@[simp] theorem compute?_and : and.compute? a b = some (a &&& b) := by
  simp [ofInt_bitAnd]

@[simp] theorem compute?_xor : xor.compute? a b = some (a ^^^ b) := by
  simp [ofInt_bitXor]

end

theorem compute?_gt : gt.compute? a b = lt.compute? b a := by
  simp only [compute?, admits, fold?]

/-- A shift of constants does not depend on how far a count goes beyond the word. -/
theorem map_foldWords (value : op.compute? a b = some w) :
    (Expr.foldWords? op a.toInt b.toInt).map ofInt = some w := by
  have admitted : op.admits b.toInt = true := by
    cases refused : op.admits b.toInt with
    | true => rfl
    | false => simp [compute?, refused] at value
  rw [← value, compute?, if_pos admitted]
  by_cases large : 64 < b.toInt
  · have beyond : 32 ≤ b.toInt.toNat := by omega
    have word {n : Nat} := @Number.shiftRight_of_large _ (BitVec.le_toInt a) BitVec.toInt_lt n
    cases op with
    | shiftLeft =>
      simp only [Expr.foldWords?, fold?, if_pos large, Option.map_some, ofInt_shiftLeft]
      rw [BitVec.shiftLeft_eq_zero beyond, BitVec.shiftLeft_eq_zero (by decide)]
    | shiftRight | hasBit | notHasBit =>
      have whole : 32 ≤ (64 : Int).toNat := by decide
      simp only [Expr.foldWords?, fold?, if_pos large, word beyond, word whole]
    | shiftRightU =>
      simp only [Expr.foldWords?, fold?, if_pos large, Option.map_some,
        ofInt_unsignedShiftRight_toInt]
      rw [BitVec.ushiftRight_eq_zero beyond, BitVec.ushiftRight_eq_zero (by decide)]
    | _ => rfl
  · cases op <;> simp only [Expr.foldWords?, if_neg large]

theorem compute?_comm (swaps : op.commutative = true) : op.compute? b a = op.compute? a b := by
  cases op with
  | add => simp [BitVec.add_comm]
  | or => simp [BitVec.or_comm]
  | mul => simp [compute?, admits, fold?, Int.mul_comm]
  | and => simp [BitVec.and_comm]
  | xor => simp [BitVec.xor_comm]
  | eq => simp [compute?, admits, fold?, Bool.beq_comm]
  | ne => simp [compute?, admits, fold?, bne_comm]
  | min | max =>
    simp only [compute?, admits, fold?, if_true, Option.map_some, Option.some.injEq]
    congr 1
    split <;> split <;> omega
  | _ => cases swaps

theorem compute?_neutral (neutral : Expr.isNeutral op b.toInt = true)
    (value : op.compute? a b = some w) : w = a := by
  cases op with
  | and =>
    have all : b.toInt = -1 := by simpa [Expr.isNeutral] using neutral
    have bits : b = BitVec.allOnes 32 := by
      rw [← BitVec.toInt_inj, all]
      rfl
    rw [bits, compute?_and, BitVec.and_allOnes] at value
    exact (Option.some.inj value).symm
  | div | mul =>
    have one : b.toInt = 1 := by simpa [Expr.isNeutral] using neutral
    simp only [compute?, admits, fold?, one, Int.fdiv_one, Int.mul_one] at value
    cases value
    exact ofInt_toInt a
  | add | sub | or | xor | shiftLeft | shiftRight | shiftRightU | rotateRight =>
    have zero : b.toInt = 0 := by simpa [Expr.isNeutral] using neutral
    simp only [compute?, admits, fold?, zero] at value
    cases value
    simp [ofInt_bitOr, ofInt_bitXor, ofInt_shiftLeft, ofInt_shiftRight,
      ofInt_unsignedShiftRight_toInt, ofInt_rotateRight, BitVec.rotateRight_def,
      BitVec.shiftLeft_eq_zero]
  | divU | shiftLeftU => simp [compute?, admits, fold?] at value
  | _ => cases neutral

/-- Two constants of sums or differences in a row as one constant. -/
theorem compute?_merge {inner : Operator} {c d z : Word} (outer : op = add ∨ op = sub)
    (sums : inner = add ∨ inner = sub) (first : inner.compute? z c = some a)
    (second : op.compute? a d = some w) :
    inner.compute? z (ofInt
      (if op = inner then c.toInt + d.toInt else c.toInt - d.toInt)) = some w := by
  obtain rfl | rfl := outer <;> obtain rfl | rfl := sums <;>
    simp only [compute?_add, compute?_sub, Option.some.injEq, if_true, reduceCtorEq, if_false,
      BitVec.ofInt_add, ofInt_sub, BitVec.ofInt_toInt] at first second ⊢ <;>
    subst first second <;> bv_omega

end Rules

/-- Whether a comparison of constants holds. -/
def holds (op : Operator) (a b : Int) : Bool :=
  match op with
  | eq => a == b
  | ne => a != b
  | le => a ≤ b
  | ge => b ≤ a
  | lt => a < b
  | gt => b < a
  | hasBit => Number.shiftRight a b.toNat % 2 == 1
  | notHasBit => Number.shiftRight a b.toNat % 2 == 0
  | _ => false

section Comparisons

variable {op op' : Operator} {a b w : Word}

theorem compute?_of_returnsBoolean (truth : op.returnsBoolean = true) : op.compute? a b =
    if op.admits b.toInt then some (ofTruth (op.holds a.toInt b.toInt)) else none := by
  unfold compute?
  split
  · cases op with
    | eq | ne | le | ge | lt | gt | hasBit | notHasBit => exact congrArg some (ofInt_truth _)
    | _ => cases truth
  · rfl

theorem opposite?_eq_some (opposite : Expr.opposite? op = some op') (a b : Int) :
    op.returnsBoolean = true ∧ op'.returnsBoolean = true ∧ op'.admits b = op.admits b ∧
      op'.holds a b = !op.holds a b := by
  have bit (n : Int) : (n % 2 == 0) = !(n % 2 == 1) := by
    by_cases odd : n % 2 = 1
    · simp [odd]
    · have even : n % 2 = 0 := by omega
      simp [even]
  cases op <;> cases opposite <;>
    simp only [holds, bne, Bool.not_not, ← decide_not, Int.not_lt, Int.not_le, bit, admits,
      returnsBoolean, and_self]

theorem compute?_opposite (opposite : Expr.opposite? op = some op')
    (value : op.compute? a b = some w) : op'.compute? a b = some (ofTruth (w == 0)) := by
  obtain ⟨truth, truth', admits, holds⟩ := opposite?_eq_some opposite a.toInt b.toInt
  rw [compute?_of_returnsBoolean truth] at value
  rw [compute?_of_returnsBoolean truth', admits, holds]
  split at value
  · next admitted =>
    cases value
    rw [if_pos admitted, ofTruth_beq_zero]
  · cases value

end Comparisons

end Operator

namespace Expr

/-- The value of an expression on constants and parameters whose operators compute as on constants.
There is none where an operator has none, and where anything else is read. -/
def evaluate? (params : Int → Word) : Expr → Option Word
  | num v _ => if isWord v then some (.ofInt v) else none
  | param n _ => n.constant?.map params
  | binary op a b _ => (a.evaluate? params).bind fun x => (b.evaluate? params).bind (op.compute? x)
  | ternary guard yes no _ =>
    (guard.evaluate? params).bind fun x =>
      if x = 0 then no.evaluate? params else yes.evaluate? params
  | bitNot e _ => (e.evaluate? params).map (~~~ ·)
  | not e _ => (e.evaluate? params).map fun x => .ofTruth (x == 0)
  | boolean e _ => (e.evaluate? params).map fun x => .ofTruth (x != 0)
  | abs e _ => (e.evaluate? params).map BitVec.abs
  | _ => none

attribute [local simp] evaluate?

section Values

variable {params : Int → Word} {shiftAt : Option Position → Option Int} {op : Operator}
    {a b e : Expr} {x y w : Word}

theorem evaluate?_binary {p} : (binary op a b p).evaluate? params = some w ↔
    ∃ x y, a.evaluate? params = some x ∧ b.evaluate? params = some y ∧
      op.compute? x y = some w := by
  simp only [evaluate?, Option.bind_eq_some_iff]
  grind

theorem evaluate?_int (n : Int) (p : Option Position) :
    (int n p).evaluate? params = some (.ofInt n) := by
  have low := Number.le_signed32 n
  have high := Number.signed32_lt n
  rw [int, evaluate?, if_pos (isWord_iff.2 ⟨low, high⟩), ofInt_signed32]

theorem evaluate?_bareBinary :
    (bareBinary op a b).evaluate? params = (binary op a b none).evaluate? params := by
  unfold bareBinary
  split
  · next h =>
    subst h
    apply Option.ext
    intro w
    simp only [evaluate?_binary, compute?_gt]
    constructor <;> exact fun ⟨x, y, left, right, value⟩ => ⟨y, x, right, left, value⟩
  · rfl

theorem evaluate?_bare : ∀ e : Expr, (e.bare shiftAt).evaluate? params = e.evaluate? params
  | binary op a b p => by
    rw [bare, evaluate?_bareBinary, evaluate?, evaluate?, evaluate?_bare a, evaluate?_bare b]
  | param n p => by rw [bare, evaluate?, evaluate?, constant?_bare]
  | ternary g a b p => by
    simp [bare, evaluate?_bare g, evaluate?_bare a, evaluate?_bare b]
  | bitNot e p | not e p | boolean e p | abs e p => by simp [bare, evaluate?_bare e]
  | access a p => by rw [bare_access]; rfl
  | num .. | float .. | literal .. | ident .. | call .. | array .. | bitmask .. | otherParam ..
  | patchVar .. | special .. | groupRef .. | storage .. | string .. | cargo .. | check ..
  | reserve .. | function .. | loadTemp .. | loadArg .. | stationSprites .. => rfl

theorem evaluate?_op {p} :
    (Expr.op op a b p).evaluate? params = (binary op a b p).evaluate? params := by
  have unshifted (e : Expr) : (e.bare fun _ => none).evaluate? params = e.evaluate? params :=
    evaluate?_bare e
  rw [← unshifted, bare_op, evaluate?_bareBinary, evaluate?, evaluate?, unshifted, unshifted]

theorem isOperand_of_evaluate? (value : e.evaluate? params = some x) : e.isOperand = true := by
  cases e with
  | float | literal | access => cases value
  | _ => rfl

theorem toInt_of_constant {n} (constant : e.constant? = some n)
    (value : e.evaluate? params = some x) : x.toInt = n := by
  obtain ⟨p, rfl⟩ := constant?_eq_some.1 constant
  rw [evaluate?] at value
  split at value
  · next word =>
    obtain ⟨low, high⟩ := isWord_iff.1 word
    cases value
    rw [BitVec.toInt_ofInt]
    exact Number.signed32_eq_self low high
  · cases value

theorem compute?_bits (joins : op = .and ∨ op = .or ∨ op = .xor) (left : x = 0 ∨ x = 1)
    (right : y = 0 ∨ y = 1) (value : op.compute? x y = some w) : w = 0 ∨ w = 1 := by
  obtain rfl | rfl | rfl := joins <;>
    simp only [compute?_and, compute?_or, compute?_xor,
      Option.some.injEq] at value <;>
    subst value <;> obtain rfl | rfl := left <;> obtain rfl | rfl := right <;> decide

theorem evaluate?_of_isBoolean :
    ∀ (e : Expr) {w : Word}, e.isBoolean = true → e.evaluate? params = some w → w = 0 ∨ w = 1
  | num v p, w, truth, value => by
    simp only [isBoolean, Bool.or_eq_true, beq_iff_eq] at truth
    obtain rfl | rfl := truth
    · exact .inl (Option.some.inj value).symm
    · exact .inr (Option.some.inj value).symm
  | not e p, w, _, value | boolean e p, w, _, value => by
    obtain ⟨x, -, rfl⟩ := Option.map_eq_some_iff.1 value
    exact ofTruth_cases _
  | binary op a b p, w, truth, value => by
    obtain ⟨x, y, left, right, value⟩ := evaluate?_binary.1 value
    rw [isBoolean_binary] at truth
    split at truth
    · next joins =>
      rw [Bool.and_eq_true] at truth
      exact compute?_bits joins (evaluate?_of_isBoolean a truth.1 left)
        (evaluate?_of_isBoolean b truth.2 right) value
    · rw [compute?_of_returnsBoolean truth] at value
      split at value
      · cases value
        exact ofTruth_cases _
      · cases value
  | ternary g a b p, w, truth, value => by
    obtain ⟨x, -, value⟩ := Option.bind_eq_some_iff.1 value
    simp only [isBoolean, Bool.and_eq_true] at truth
    split at value
    · exact evaluate?_of_isBoolean b truth.2 value
    · exact evaluate?_of_isBoolean a truth.1 value
  | special .., _, _, value => nomatch value
  | float .., _, truth, _ | literal .., _, truth, _ | ident .., _, truth, _ | call .., _, truth, _
  | array .., _, truth, _ | bitmask .., _, truth, _ | param .., _, truth, _
  | otherParam .., _, truth, _ | patchVar .., _, truth, _ | access .., _, truth, _
  | groupRef .., _, truth, _ | storage .., _, truth, _ | string .., _, truth, _
  | cargo .., _, truth, _ | bitNot .., _, truth, _ | abs .., _, truth, _ | check .., _, truth, _
  | reserve .., _, truth, _ | function .., _, truth, _ | loadTemp .., _, truth, _
  | loadArg .., _, truth, _ | stationSprites .., _, truth, _ => nomatch truth

end Values

/-- Reducing keeps the value of an expression. -/
def KeepsValue (params : Int → Word) (again : Scope → Expr → Build Expr) : Prop :=
  ∀ {scope : Scope} {e e' : Expr} {s t : Session} {w : Word}, again scope e s = .ok e' t →
    e.evaluate? params = some w → e'.evaluate? params = some w

section Reduction

variable {params : Int → Word} {again : Scope → Expr → Build Expr} {scope : Scope}
    {pos : Option Position} {op : Operator} {a b e : Expr} {s t : Session} {x y w : Word}

theorem Operation.evaluate?_eq (keeps : KeepsValue params again)
    (h : Operation again scope pos s op a b e t) (left : a.evaluate? params = some x)
    (right : b.evaluate? params = some y) (value : op.compute? x y = some w) :
    e.evaluate? params = some w := by
  cases h with
  | neutral constant neutral =>
    rw [← toInt_of_constant constant right] at neutral
    rw [compute?_neutral neutral value]
    exact left
  | attached isAccess =>
    subst isAccess
    cases left
  | merged merge reduced =>
    obtain ⟨merges, inner, z, c, d, parts, constant, rfl⟩ := mergeSum?_eq_some merge
    have outer : op = .add ∨ op = .sub := by
      simp only [Expr.merges, Bool.and_eq_true, Bool.or_eq_true, beq_iff_eq] at merges
      exact merges.1.1
    obtain ⟨sums, q, r, rfl⟩ := sum?_eq_some parts
    obtain ⟨z', c', inner', constant', value'⟩ := evaluate?_binary.1 left
    refine keeps reduced ?_
    rw [opInt, evaluate?_op, evaluate?_binary]
    refine ⟨z', _, inner', evaluate?_int _ _, ?_⟩
    rw [← toInt_of_constant rfl constant', ← toInt_of_constant constant right]
    exact compute?_merge outer sums value' value
  | joined either isTruth isTruth' reduced =>
    subst either isTruth isTruth'
    obtain ⟨x', inLeft, rfl⟩ := Option.map_eq_some_iff.1 left
    obtain ⟨y', inRight, rfl⟩ := Option.map_eq_some_iff.1 right
    refine keeps reduced ?_
    rw [evaluate?, evaluate?_op,
      evaluate?_binary.2 ⟨x', y', inLeft, inRight, compute?_or⟩, ← value,
      compute?_or, Option.map_some, ofTruth_or]
  | kept _ same =>
    have bared (e : Expr) : (e.bare s.shiftAt).evaluate? params = e.evaluate? params :=
      evaluate?_bare e
    rw [← bared, same, evaluate?_bareBinary, evaluate?_binary]
    exact ⟨x, y, by rw [bared, left], by rw [bared, right], value⟩

theorem evaluate?_orderOperands (value : (binary op a b pos).evaluate? params = some w) :
    (binary (orderOperands op a b).1 (orderOperands op a b).2.1 (orderOperands op a b).2.2
      pos).evaluate? params = some w := by
  obtain ⟨x, y, left, right, value⟩ := evaluate?_binary.1 value
  obtain ⟨order, -⟩ | ⟨-, ⟨order, swaps⟩ | ⟨rfl, order⟩ | ⟨rfl, order⟩⟩ :=
    orderOperands_cases op a b <;> rw [order, evaluate?_binary]
  · exact ⟨x, y, left, right, value⟩
  · exact ⟨y, x, right, left, by rw [compute?_comm swaps, value]⟩
  · exact ⟨y, x, right, left, by rw [compute?_gt, value]⟩
  · exact ⟨y, x, right, left, by rw [← compute?_gt, value]⟩

theorem reduceBinary_keeps (keeps : KeepsValue params again)
    (value : (binary op a b pos).evaluate? params = some w)
    (h : reduceBinary again scope op a b pos s = .ok e t) : e.evaluate? params = some w := by
  obtain ⟨x, y, left, right, result⟩ := evaluate?_binary.1 value
  obtain ⟨m, n, v, isLeft, isRight, folded, rfl, -⟩ | ⟨-, h⟩ :=
    reduceBinary_eq_ok (isOperand_of_evaluate? left) (isOperand_of_evaluate? right) h
  · have fold := map_foldWords result
    rw [toInt_of_constant isLeft left, toInt_of_constant isRight right, folded] at fold
    rw [evaluate?_int]
    exact fold
  · obtain ⟨x, y, left, right, result⟩ := evaluate?_binary.1 (evaluate?_orderOperands value)
    exact h.evaluate?_eq keeps left right result

variable {fuel : Nat} {strict : Bool} {p : Option Position}

theorem reduceWith_ternary_keeps (keeps : KeepsValue params (reduceWith fuel true)) {g}
    (h : reduceWith (fuel + 1) strict scope (ternary g a b p) s = .ok e t)
    (value : (ternary g a b p).evaluate? params = some w) : e.evaluate? params = some w := by
  obtain ⟨g', a', b', _, _, reduceGuard, reduceYes, reduceNo, result⟩ := reduceWith_ternary_eq_ok h
  obtain ⟨x, guard, chosen⟩ := Option.bind_eq_some_iff.1 value
  have guard' := keeps reduceGuard guard
  by_cases zero : x = 0
  · rw [if_pos zero] at chosen
    obtain ⟨n, q, rfl, rfl⟩ | rfl := result
    · have number := toInt_of_constant rfl guard'
      rw [if_neg (by rw [← number, zero]; decide)]
      exact keeps reduceNo chosen
    · rw [evaluate?, guard', Option.bind_some, if_pos zero]
      exact keeps reduceNo chosen
  · rw [if_neg zero] at chosen
    obtain ⟨n, q, rfl, rfl⟩ | rfl := result
    · have number := toInt_of_constant rfl guard'
      rw [if_pos (by rw [← number]; exact toInt_ne_zero zero)]
      exact keeps reduceYes chosen
    · rw [evaluate?, guard', Option.bind_some, if_neg zero]
      exact keeps reduceYes chosen

theorem reduceWith_bitNot_keeps (keeps : KeepsValue params (reduceWith fuel true))
    (h : reduceWith (fuel + 1) strict scope (bitNot a p) s = .ok e t)
    (value : (bitNot a p).evaluate? params = some w) : e.evaluate? params = some w := by
  simp only [reduceWith, bind_eq_ok] at h
  obtain ⟨x, _, reduced, _, _, -, h⟩ := h
  obtain ⟨y, inner, rfl⟩ := Option.map_eq_some_iff.1 value
  have inner' := keeps reduced inner
  cases x with
  | num v q =>
    obtain ⟨rfl, -⟩ := pure_eq_ok.1 h
    rw [evaluate?_int, ofInt_bitXor, ← toInt_of_constant rfl inner', ofInt_toInt]
    exact congrArg some BitVec.allOnes_xor
  | bitNot z q =>
    obtain ⟨rfl, -⟩ := pure_eq_ok.1 h
    obtain ⟨y, twice, rfl⟩ := Option.map_eq_some_iff.1 inner'
    rw [twice, BitVec.not_not]
  | _ =>
    obtain ⟨rfl, -⟩ := pure_eq_ok.1 h
    exact congrArg (Option.map _) inner'

theorem reduceWith_not_keeps (keeps : KeepsValue params (reduceWith fuel true))
    (h : reduceWith (fuel + 1) strict scope (not a p) s = .ok e t)
    (value : (not a p).evaluate? params = some w) : e.evaluate? params = some w := by
  simp only [reduceWith, bind_eq_ok] at h
  obtain ⟨x, _, reduced, _, _, -, h⟩ := h
  obtain ⟨y, inner, rfl⟩ := Option.map_eq_some_iff.1 value
  have inner' := keeps reduced inner
  cases x with
  | num v q =>
    obtain ⟨rfl, -⟩ := pure_eq_ok.1 h
    rw [evaluate?_int, ← toInt_of_constant rfl inner', toInt_beq_zero, ofInt_truth]
  | not z q =>
    obtain ⟨y, twice, rfl⟩ := Option.map_eq_some_iff.1 inner'
    refine keeps h ?_
    rw [evaluate?, twice, ofTruth_beq_zero]
    rfl
  | binary op a b q =>
    cases opposite : opposite? op with
    | some op' =>
      simp only [opposite] at h
      obtain ⟨rfl, -⟩ := pure_eq_ok.1 h
      obtain ⟨x, y, left, right, result⟩ := evaluate?_binary.1 inner'
      rw [evaluate?_op, evaluate?_binary]
      exact ⟨x, y, left, right, compute?_opposite opposite result⟩
    | none =>
      simp only [opposite] at h
      obtain ⟨rfl, -⟩ := pure_eq_ok.1 h
      exact congrArg (Option.map _) inner'
  | _ =>
    obtain ⟨rfl, -⟩ := pure_eq_ok.1 h
    exact congrArg (Option.map _) inner'

theorem reduceWith_boolean_keeps (keeps : KeepsValue params (reduceWith fuel true))
    (h : reduceWith (fuel + 1) strict scope (boolean a p) s = .ok e t)
    (value : (boolean a p).evaluate? params = some w) : e.evaluate? params = some w := by
  simp only [reduceWith, bind_eq_ok, pure_eq_ok] at h
  obtain ⟨x, _, reduced, _, _, -, rfl, -⟩ := h
  obtain ⟨y, inner, rfl⟩ := Option.map_eq_some_iff.1 value
  have inner' := keeps reduced inner
  split
  · next truth =>
    rw [inner']
    obtain rfl | rfl := evaluate?_of_isBoolean x truth inner' <;> rfl
  · exact congrArg (Option.map _) inner'

theorem reduceWith_abs_keeps (keeps : KeepsValue params (reduceWith fuel true))
    (h : reduceWith (fuel + 1) strict scope (abs a p) s = .ok e t)
    (value : (abs a p).evaluate? params = some w) : e.evaluate? params = some w := by
  simp only [reduceWith, bind_eq_ok] at h
  obtain ⟨x, _, reduced, _, _, -, h⟩ := h
  obtain ⟨y, inner, rfl⟩ := Option.map_eq_some_iff.1 value
  have inner' := keeps reduced inner
  cases x with
  | num v q =>
    obtain ⟨rfl, -⟩ := pure_eq_ok.1 h
    rw [evaluate?_int, ← toInt_of_constant rfl inner', ofInt_abs]
  | _ =>
    obtain ⟨rfl, -⟩ := pure_eq_ok.1 h
    exact congrArg (Option.map _) inner'

theorem reduceWith_keeps (fuel : Nat) (strict : Bool) :
    KeepsValue params (reduceWith fuel strict) := by
  induction fuel generalizing strict with
  | zero =>
    intro scope e e' s t w h
    simp [reduceWith] at h
  | succ fuel ih =>
    intro scope e e' s t w h value
    have keeps := @ih true
    cases e with
    | num v p =>
      obtain ⟨rfl, -⟩ := pure_eq_ok.1 h
      exact value
    | param n p =>
      simp only [reduceWith, bind_eq_ok] at h
      obtain ⟨n', u, reduced, h⟩ := h
      obtain ⟨v, constant, -⟩ := Option.map_eq_some_iff.1 value
      obtain ⟨q, rfl⟩ := constant?_eq_some.1 constant
      obtain ⟨rfl, rfl⟩ := (reduceWith_repeats fuel true).leaf (.inl rfl) reduced
      obtain ⟨rfl, -⟩ := pure_eq_ok.1 h
      exact value
    | binary op a b p =>
      simp only [reduceWith, bind_eq_ok] at h
      obtain ⟨a', _, reduceLeft, b', _, reduceRight, h⟩ := h
      obtain ⟨x, y, left, right, result⟩ := evaluate?_binary.1 value
      refine reduceBinary_keeps keeps (evaluate?_binary.2 ⟨x, y, ?_, ?_, result⟩) h
      · exact keeps reduceLeft left
      · exact keeps reduceRight right
    | ternary => exact reduceWith_ternary_keeps keeps h value
    | bitNot => exact reduceWith_bitNot_keeps keeps h value
    | not => exact reduceWith_not_keeps keeps h value
    | boolean => exact reduceWith_boolean_keeps keeps h value
    | abs => exact reduceWith_abs_keeps keeps h value
    | _ => cases value

end Reduction

/-- Whatever reduction makes of an expression on constants and parameters has the value of the
expression wherever that is defined, and an expression that is known to be 0 or 1 is. -/
theorem reduce_keeps_value :
    (∀ {e r : Expr} {scope : Scope} {s t : Session}, e.reduce scope s = .ok r t →
      ∀ (params : Int → Word) (w : Word), e.evaluate? params = some w →
        r.evaluate? params = some w) ∧
    ∀ {r : Expr}, r.isBoolean = true →
      ∀ (params : Int → Word) (w : Word), r.evaluate? params = some w → w = 0 ∨ w = 1 :=
  ⟨fun reduced _ _ => reduceWith_keeps _ _ reduced,
    fun {r} truth _ _ => evaluate?_of_isBoolean r truth⟩

/-- `!!((param[1] + 3) - 5)` becomes a truth value of `param[1] - 2`, and both are 1 unless the
parameter is 2. -/
theorem negated_sum_keeps_its_value :
    let sum : Expr := .binary .sub (.binary .add (.param (.num 1 none) none) (.num 3 none) none)
      (.num 5 none) none
    ∃ (r : Expr) (t : Session), reduce (.not (.not sum none) none) [] {} = .ok r t ∧
      r.isBoolean = true ∧
      (r.evaluate? fun _ => 2) = some 0 ∧ (r.evaluate? fun _ => 7) = some 1 := by
  intro sum
  obtain ⟨r, t, reduced, truth⟩ : ∃ r t, reduce (.not (.not sum none) none) [] {} = .ok r t ∧
      r.isBoolean = true := ⟨_, _, rfl, rfl⟩
  obtain ⟨keeps, -⟩ := reduce_keeps_value
  exact ⟨r, t, reduced, truth, keeps reduced _ _ (by decide), keeps reduced _ _ (by decide)⟩

end Expr

end NewGrf
