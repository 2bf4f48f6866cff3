import NewGrf.Operator

namespace NewGrf

open Number

/-- A word of the game. -/
abbrev Word := BitVec 32

namespace Word

/-- A word that holds an integer cut to 32 bits. -/
abbrev ofInt (n : Int) : Word := BitVec.ofInt 32 n

def ofTruth (b : Bool) : Word := if b then 1 else 0

def quotient (a b : Word) : Word := if b = 0 then a else a.sdiv b

def remainder (a b : Word) : Word := if b = 0 then a else a.srem b

def quotientU (a b : Word) : Word := if b = 0 then a else a / b

/-- By how many bits a switch shifts. -/
def count (a : Word) : Nat := a.toNat % 32

/-- The order of two words as 0, 1 or 2, given whether the first one is less. -/
def order (less : Bool) (a b : Word) : Word := if less then 0 else if a = b then 1 else 2

theorem count_ofInt {n : Int} (low : 0 ≤ n) (high : n < 32) : (ofInt n).count = n.toNat := by
  simp only [count, BitVec.toNat_ofInt]
  omega

theorem toNat_ofInt_of_small {n : Int} (low : 0 ≤ n) (high : n < 32) :
    (ofInt n).toNat = n.toNat := by
  rw [BitVec.toNat_ofInt]
  omega

theorem msb_ofInt_of_nonneg {n : Int} (low : 0 ≤ n) (high : n < 2147483648) :
    (ofInt n).msb = false := by
  rw [BitVec.msb_eq_decide, BitVec.toNat_ofInt]
  simp only [decide_eq_false_iff_not]
  omega

theorem ofInt_signed32 (n : Int) : ofInt (signed32 n) = ofInt n := by
  simp [signed32, ofInt, ← BitVec.toInt_inj, BitVec.toInt_ofInt]

theorem ofInt_sub (a b : Int) : ofInt (a - b) = ofInt a - ofInt b := by
  rw [ofInt, Int.sub_eq_add_neg, BitVec.ofInt_add, BitVec.ofInt_neg, BitVec.sub_eq_add_neg]

theorem ofNat_withoutBits (m n : Nat) :
    BitVec.ofNat 32 (withoutBits m n) = BitVec.ofNat 32 m &&& ~~~BitVec.ofNat 32 n := by
  ext i
  simp only [withoutBits, BitVec.ofNat_xor, BitVec.ofNat_and, BitVec.getElem_xor,
    BitVec.getElem_and, BitVec.getElem_not]
  cases (BitVec.ofNat 32 m)[i] <;> cases (BitVec.ofNat 32 n)[i] <;> rfl

theorem ofInt_bitAnd (a b : Int) : ofInt (bitAnd a b) = ofInt a &&& ofInt b := by
  cases a with
  | ofNat m =>
    cases b with
    | ofNat n =>
      simp only [bitAnd, ofInt, Int.ofNat_eq_natCast, BitVec.ofInt_natCast, BitVec.ofNat_and]
    | negSucc n =>
      simp only [bitAnd, ofInt, Int.ofNat_eq_natCast, BitVec.ofInt_natCast,
        BitVec.ofInt_negSucc_eq_not_ofNat, ofNat_withoutBits]
  | negSucc m =>
    cases b with
    | ofNat n =>
      simp only [bitAnd, ofInt, Int.ofNat_eq_natCast, BitVec.ofInt_natCast,
        BitVec.ofInt_negSucc_eq_not_ofNat, ofNat_withoutBits, BitVec.and_comm]
    | negSucc n =>
      simp only [bitAnd, ofInt, BitVec.ofInt_negSucc_eq_not_ofNat, BitVec.ofNat_or,
        BitVec.not_or]

theorem ofInt_shiftLeft (a : Int) (n : Nat) : ofInt (shiftLeft a n) = ofInt a <<< n := by
  simp only [shiftLeft, twoPow, ofInt, BitVec.ofInt_mul, BitVec.ofInt_natCast]
  rw [BitVec.shiftLeft_eq_mul_twoPow]
  congr 1

theorem toNat_ofInt_of_word {a : Int} (low : -2147483648 ≤ a) (high : a < 2147483648) :
    ((ofInt a).toNat : Int) = if a < 0 then a + 4294967296 else a := by
  simp only [ofInt, BitVec.toNat_ofInt]
  split <;> omega

theorem ofInt_unsignedShiftRight {a : Int} (low : -2147483648 ≤ a) (high : a < 2147483648)
    (n : Nat) : ofInt (unsignedShiftRight a n) = ofInt a >>> n := by
  rw [unsignedShiftRight, ofInt_signed32, ← toNat_ofInt_of_word low high,
    shiftRight, twoPow, Int.fdiv_eq_ediv_of_nonneg _ (Int.natCast_nonneg _),
    ← Int.natCast_ediv, ofInt, BitVec.ofInt_natCast]
  apply BitVec.eq_of_toNat_eq
  have := Nat.div_le_self (ofInt a).toNat (1 <<< n)
  have := (ofInt a).isLt
  rw [BitVec.toNat_ofNat, BitVec.toNat_ushiftRight, Nat.shiftRight_eq_div_pow,
    Nat.mod_eq_of_lt (by omega), Nat.one_shiftLeft]

end Word

namespace Operator

/-- The result of an operator in a switch. Those that store keep the value that is stored. -/
def run : Operator → Word → Word → Word
  | add, a, b => a + b
  | sub, a, b => a - b
  | mul, a, b => a * b
  | div, a, b => Word.quotient a b
  | mod, a, b => Word.remainder a b
  | divU, a, b => Word.quotientU a b
  | and, a, b => a &&& b
  | or, a, b => a ||| b
  | xor, a, b => a ^^^ b
  | eq, a, b => Word.ofTruth (a == b)
  | ne, a, b => Word.ofTruth (a != b)
  | le, a, b => Word.ofTruth (a.sle b)
  | ge, a, b => Word.ofTruth (b.sle a)
  | lt, a, b => Word.ofTruth (a.slt b)
  | gt, a, b => Word.ofTruth (b.slt a)
  | min, a, b => if a.slt b then a else b
  | max, a, b => if a.slt b then b else a
  | minU, a, b => if a.ult b then a else b
  | shiftLeft, a, b | shiftLeftU, a, b => a <<< Word.count b
  | shiftRight, a, b => a.sshiftRight (Word.count b)
  | shiftRightU, a, b => a >>> Word.count b
  | rotateRight, a, b => a.rotateRight (Word.count b)
  | hasBit, a, b => Word.ofTruth (a.getLsbD (Word.count b))
  | notHasBit, a, b => Word.ofTruth (!a.getLsbD (Word.count b))
  | compare, a, b => Word.order (a.slt b) a b
  | compareU, a, b => Word.order (a.ult b) a b
  | last, _, b => b
  | storeTemp, a, _ | storePerm, a, _ | assign, a, _ => a

/-- The result of an operator in an assignment, where a shift to the left by a negative count is one
to the right. -/
def assigned : Operator → Word → Word → Word
  | shiftLeft, a, b => if b.msb then a.sshiftRight (-b).toNat else a <<< b.toNat
  | shiftLeftU, a, b => if b.msb then a >>> (-b).toNat else a <<< b.toNat
  | op, a, b => op.run a b

end Operator

end NewGrf
