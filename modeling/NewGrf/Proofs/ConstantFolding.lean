import NewGrf.Proofs.Settled

namespace NewGrf

open Number

namespace Number

/-- Moved right by a whole word, only the sign of a word is left. -/
theorem shiftRight_of_large {a} (low : -2147483648 ≤ a) (high : a < 2147483648) {n}
    (large : 32 ≤ n) : shiftRight a n = if a < 0 then -1 else 0 := by
  have power : (2 : Int) ^ 32 ≤ (2 ^ n : Nat) := by
    have := Nat.pow_le_pow_right (n := 2) (by decide) large
    exact_mod_cast this
  rw [shiftRight, twoPow, Nat.one_shiftLeft, Int.fdiv_eq_ediv_of_nonneg _ (Int.natCast_nonneg _)]
  generalize ((2 ^ n : Nat) : Int) = m at power
  split
  case isTrue negative =>
    rw [Int.ediv_eq_iff_of_pos (by omega)]
    omega
  case isFalse nonneg => exact Int.ediv_eq_zero_of_lt (by omega) (by omega)

/-- How a quotient that is rounded down differs from one that is rounded towards zero. -/
theorem fdiv_fmod_eq (a : Int) {b} (nonzero : b ≠ 0) : ∃ c : Int,
    a.fdiv b = a.tdiv b - c ∧ a.fmod b = a.tmod b + b * c ∧ (c = 0 ∨ c = 1) ∧
      (c = 0 ↔ b ∣ a ∨ (a < 0 ↔ b < 0)) := by
  have down := @Int.fdiv_eq_tdiv a b
  refine ⟨a.tdiv b - a.fdiv b, by omega, ?_, ?_⟩
  · rw [Int.fmod_def, Int.tmod_def, Int.mul_sub]
    omega
  · by_cases divides : b ∣ a
    · simp only [divides, if_true] at down
      simp only [divides, true_or, iff_true]
      omega
    · simp only [divides, if_false] at down
      simp only [divides, false_or]
      obtain negative | positive := Int.lt_or_gt_of_ne nonzero
      · rw [Int.sign_eq_neg_one_of_neg negative] at down
        split at down <;> omega
      · rw [Int.sign_eq_one_of_pos positive] at down
        split at down <;> omega

end Number

namespace Word

theorem ofInt_toInt (a : Word) : ofInt a.toInt = a := BitVec.ofInt_toInt

theorem ofInt_bitXor (a b : Int) : ofInt (bitXor a b) = ofInt a ^^^ ofInt b := by
  cases a <;> cases b <;>
    simp only [bitXor, ofInt, Int.ofNat_eq_natCast, BitVec.ofInt_natCast,
      BitVec.ofInt_negSucc_eq_not_ofNat, BitVec.ofNat_xor, ← BitVec.not_xor_left,
      ← BitVec.not_xor_right, BitVec.not_not]

theorem ofInt_bitOr (a b : Int) : ofInt (bitOr a b) = ofInt a ||| ofInt b := by
  cases a <;> cases b <;>
    simp only [bitOr, ofInt, Int.ofNat_eq_natCast, BitVec.ofInt_natCast,
      BitVec.ofInt_negSucc_eq_not_ofNat, ofNat_withoutBits, BitVec.ofNat_or, BitVec.ofNat_and,
      BitVec.not_and, BitVec.not_not, BitVec.or_comm]

theorem ofInt_shiftRight (a : Word) (n : Nat) : ofInt (shiftRight a.toInt n) = a.sshiftRight n := by
  rw [← BitVec.ofInt_toInt (x := a.sshiftRight n), BitVec.toInt_sshiftRight,
    Int.shiftRight_eq_div_pow, shiftRight, twoPow, Nat.one_shiftLeft,
    Int.fdiv_eq_ediv_of_nonneg _ (Int.natCast_nonneg _)]

theorem ofInt_unsignedShiftRight_toInt (a : Word) (n : Nat) :
    ofInt (unsignedShiftRight a.toInt n) = a >>> n := by
  rw [ofInt_unsignedShiftRight (BitVec.le_toInt a) BitVec.toInt_lt, ofInt_toInt]

/-- Constants are rotated by up to 32 places, of which the last gives the word itself. -/
theorem ofInt_rotateRight (a : Word) {n} (few : n ≤ 32) :
    ofInt (rotateRight a.toInt n) = a.rotateRight (n % 32) := by
  have bits := toNat_ofInt_of_word (BitVec.le_toInt a) BitVec.toInt_lt
  have right := ofInt_unsignedShiftRight_toInt a n
  rw [ofInt_toInt] at bits
  rw [unsignedShiftRight, ofInt_signed32, ← bits] at right
  rw [rotateRight, ← bits, ofInt_signed32, ofInt_bitOr, ofInt_shiftLeft, right, ofInt,
    BitVec.ofInt_natCast, BitVec.ofNat_toNat, BitVec.setWidth_eq, BitVec.rotateRight_def,
    Nat.mod_mod]
  obtain few | rfl := Nat.lt_or_eq_of_le few
  · rw [Nat.mod_eq_of_lt few]
  · simp [BitVec.ushiftRight_eq_zero, BitVec.shiftLeft_eq_zero]

theorem sshiftRight_of_large (a : Word) {n} (large : 32 ≤ n) :
    a.sshiftRight n = BitVec.fill 32 a.msb := by
  rw [← ofInt_shiftRight, shiftRight_of_large (BitVec.le_toInt a) BitVec.toInt_lt large,
    BitVec.msb_eq_toInt]
  by_cases negative : a.toInt < 0
  · simp only [negative, decide_true, if_true]
    rfl
  · simp only [negative, decide_false, if_false]
    rfl

theorem toInt_ne_zero {b : Word} (nonzero : b ≠ 0) : b.toInt ≠ 0 := by
  intro zero
  apply nonzero
  rw [← BitVec.toInt_inj, zero, BitVec.ofNat_eq_ofNat, BitVec.toInt_zero]

theorem toInt_of_nonneg {b : Word} (low : 0 ≤ b.toInt) : b.toInt = b.toNat := by
  apply BitVec.toInt_eq_toNat_of_msb
  rw [BitVec.msb_eq_toInt, decide_eq_false_iff_not]
  omega

/-- Integers that are less than a word apart give the same word only if they are the same. -/
theorem ofInt_add_eq_iff (n : Int) {d} (low : -4294967296 < d) (high : d < 4294967296) :
    ofInt (n + d) = ofInt n ↔ d = 0 := by
  rw [← BitVec.toInt_inj, BitVec.toInt_ofInt, BitVec.toInt_ofInt, Int.bmod_def, Int.bmod_def]
  omega

/-- Rounding down is rounding towards zero unless the quotient is negative and not whole. -/
theorem ofInt_fdiv_iff (a : Word) {b : Word} (nonzero : b ≠ 0) :
    ofInt (a.toInt.fdiv b.toInt) = a.sdiv b ↔ b.toInt ∣ a.toInt ∨ a.msb = b.msb := by
  have whole : a.sdiv b = ofInt (a.toInt.tdiv b.toInt) := by
    rw [← BitVec.toInt_inj, BitVec.toInt_sdiv, BitVec.toInt_ofInt]
  obtain ⟨c, quotient, -, small, exact⟩ := fdiv_fmod_eq a.toInt (toInt_ne_zero nonzero)
  rw [whole, quotient, BitVec.msb_eq_toInt, BitVec.msb_eq_toInt, decide_eq_decide, ← exact,
    Int.sub_eq_add_neg, ofInt_add_eq_iff _ (by omega) (by omega), Int.neg_eq_zero]

theorem ofInt_fmod_iff (a : Word) {b : Word} (nonzero : b ≠ 0) :
    ofInt (a.toInt.fmod b.toInt) = a.srem b ↔ b.toInt ∣ a.toInt ∨ a.msb = b.msb := by
  have whole : a.srem b = ofInt (a.toInt.tmod b.toInt) := by
    rw [← BitVec.toInt_srem, ofInt_toInt]
  have low : -2147483648 ≤ b.toInt := BitVec.le_toInt b
  have high : b.toInt < 2147483648 := BitVec.toInt_lt
  have divisor := toInt_ne_zero nonzero
  obtain ⟨c, -, remainder, small, exact⟩ := fdiv_fmod_eq a.toInt divisor
  rw [whole, remainder, BitVec.msb_eq_toInt, BitVec.msb_eq_toInt, decide_eq_decide, ← exact]
  obtain rfl | rfl := small
  · simp
  · rw [Int.mul_one, ofInt_add_eq_iff _ (by omega) (by omega)]
    omega

end Word

namespace Operator

/-- Where an operator on constants gives what it gives in a switch. -/
def Exact (op : Operator) (a b : Word) : Prop :=
  match op with
  | div | mod => b.toInt ∣ a.toInt ∨ a.msb = b.msb
  | shiftLeft | shiftRightU => b.toNat < 32 ∨ op.run a b = 0
  | shiftRight => b.toNat < 32 ∨ op.run a b = BitVec.fill 32 a.msb
  | _ => True

end Operator

namespace Expr

theorem shift_eq_iff (shifted : Nat → Word) {rest b : Word} (low : 0 ≤ b.toInt)
    (beyond : ∀ n, 32 ≤ n → shifted n = rest) :
    shifted (if 64 < b.toInt then 64 else b.toInt).toNat = shifted b.count ↔
      b.toNat < 32 ∨ shifted b.count = rest := by
  have bits := Word.toInt_of_nonneg low
  by_cases small : b.toNat < 32
  · have same : (if 64 < b.toInt then 64 else b.toInt).toNat = b.count := by
      rw [bits, Word.count]
      split <;> omega
    simp only [small, same, true_or]
  · have large : 32 ≤ (if 64 < b.toInt then 64 else b.toInt).toNat := by
      rw [bits]
      split <;> omega
    rw [beyond _ large, or_iff_right small]
    exact eq_comm

theorem ofInt_foldWords_iff {op : Operator} {a b : Word} {v}
    (code : op.switchCode?.isSome = true) (divisor : op.demand = .divisible → b ≠ 0)
    (count : op.demand = .nonNegativeRight → 0 ≤ b.toInt)
    (places : op = .rotateRight → 0 ≤ b.toInt ∧ b.toInt ≤ 32)
    (folded : foldWords? op a.toInt b.toInt = some v) :
    Word.ofInt v = op.run a b ↔ op.Exact a b := by
  cases op with
  | add | sub | mul | and | or | xor | last =>
    cases folded
    simp only [Operator.run, Operator.Exact, BitVec.ofInt_add, Word.ofInt_sub, BitVec.ofInt_mul,
      Word.ofInt_bitAnd, Word.ofInt_bitOr, Word.ofInt_bitXor, Word.ofInt_toInt]
  | min =>
    cases folded
    simp only [Operator.run, Operator.Exact, BitVec.slt_eq_decide, decide_eq_true_eq, iff_true]
    obtain less | same | greater := Int.lt_trichotomy a.toInt b.toInt
    · rw [if_neg (by omega), if_pos less, Word.ofInt_toInt]
    · rw [if_neg (by omega), if_neg (by omega), Word.ofInt_toInt, BitVec.toInt_inj.1 same]
    · rw [if_pos greater, if_neg (by omega), Word.ofInt_toInt]
  | max =>
    cases folded
    simp only [Operator.run, Operator.Exact, BitVec.slt_eq_decide, decide_eq_true_eq, iff_true]
    split <;> exact Word.ofInt_toInt _
  | div =>
    cases folded
    rw [Operator.run, Word.quotient, if_neg (divisor rfl), Word.ofInt_fdiv_iff a (divisor rfl)]
    rfl
  | mod =>
    cases folded
    rw [Operator.run, Word.remainder, if_neg (divisor rfl), Word.ofInt_fmod_iff a (divisor rfl)]
    rfl
  | shiftLeft =>
    cases folded
    rw [Word.ofInt_shiftLeft, Word.ofInt_toInt]
    exact shift_eq_iff (a <<< ·) (count rfl) fun _ => BitVec.shiftLeft_eq_zero
  | shiftRight =>
    cases folded
    rw [Word.ofInt_shiftRight]
    exact shift_eq_iff a.sshiftRight (count rfl) fun _ => Word.sshiftRight_of_large a
  | shiftRightU =>
    cases folded
    rw [Word.ofInt_unsignedShiftRight_toInt]
    exact shift_eq_iff (a >>> ·) (count rfl) fun _ => BitVec.ushiftRight_eq_zero
  | rotateRight =>
    cases folded
    obtain ⟨low, high⟩ := places rfl
    have bits := Word.toInt_of_nonneg low
    rw [Word.ofInt_rotateRight a (by omega), Operator.run, Word.count, bits, Int.toNat_natCast]
    simp only [Operator.Exact]
  | eq | ne | le | ge | lt | gt | hasBit | notHasBit => cases code
  | storeTemp | storePerm | assign | shiftLeftU | compare | compareU | minU | divU => cases folded

theorem ne_zero_of_checkOperands {op : Operator} {a n p pos s t u}
    (divides : op.demand = .divisible) (checked : checkOperands op a (num n p) pos s = .ok u t) :
    n ≠ 0 := by
  rintro rfl
  simp only [checkOperands, divides, Build.bind_eq_ok, isZero, beq_self_eq_true, if_true] at checked
  obtain ⟨_, _, -, failed⟩ := checked
  simp at failed

/-- Whatever two words an operator of switches takes, if it is computed on constants at all it
becomes one constant. This is the result in the game except for quotients below zero that are not
whole, and for counts beyond the word. -/
theorem reduce_constants_exact_iff {op : Operator} (code : op.switchCode?.isSome = true)
    (computed : (op.fold? 0 0).isSome = true) {a b : Word} {p q pos : Option Position}
    {scope : Scope} {s t : Session} {u : Unit}
    (accepted : checkOperands op (num a.toInt p) (num b.toInt q) pos s = .ok u t) :
    ∃ v, reduce (binary op (num a.toInt p) (num b.toInt q) pos) scope s =
        .ok (num v (pos.map Position.loose)) s ∧
      (v = (op.run a b).toInt ↔ op.Exact a b) := by
  obtain ⟨rfl, count, rotates⟩ := checkOperands_eq_ok accepted
  have places (isRotation : op = .rotateRight) : 0 ≤ b.toInt ∧ b.toInt ≤ 32 :=
    rotates (isRotation ▸ rfl) _ _ rfl rfl
  have folds : ∃ v, foldWords? op a.toInt b.toInt = some v := by
    cases op <;> first | exact ⟨_, rfl⟩ | cases computed
  obtain ⟨v, folded⟩ := folds
  refine ⟨signed32 v, ?_, ?_⟩
  · change reduceBinary (reduceWith 99999 true) scope op (num a.toInt p) (num b.toInt q) pos t = _
    rw [reduceBinary, Build.bind_eq_ok]
    refine ⟨u, t, accepted, ?_⟩
    simp only [foldConstants?, folded, Option.map_some]
    rfl
  · have divisor (divides : op.demand = .divisible) : b ≠ 0 := by
      rintro rfl
      exact ne_zero_of_checkOperands divides accepted rfl
    rw [← ofInt_foldWords_iff code divisor (count · _ rfl) places folded, ← BitVec.toInt_inj,
      BitVec.toInt_ofInt]
    rfl

/-- A negative quotient of constants is rounded down, where the game rounds it towards zero. -/
theorem quotient_of_constants_is_rounded_down : ∃ v : Int,
    reduce (binary .div (num (-7) none) (num 2 none) none) [] {} = .ok (num v none) {} ∧
      v ≠ (Operator.run .div (Word.ofInt (-7)) 2).toInt := by
  obtain ⟨v, reduced, exact⟩ :=
    @reduce_constants_exact_iff .div rfl rfl (Word.ofInt (-7)) 2 none none none [] {} {} () rfl
  refine ⟨v, reduced, fun same => ?_⟩
  exact absurd (exact.1 same) (by simp only [Operator.Exact]; decide)

end Expr

end NewGrf
