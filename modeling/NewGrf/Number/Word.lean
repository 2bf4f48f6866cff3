import NewGrf.Number.Basic

namespace NewGrf.Number

/-- The bits of `m` that are not bits of `n`. -/
def withoutBits (m n : Nat) : Nat := m ^^^ (m &&& n)

def bitAnd : Int → Int → Int
  | .ofNat m, .ofNat n => .ofNat (m &&& n)
  | .ofNat m, .negSucc n => .ofNat (withoutBits m n)
  | .negSucc m, .ofNat n => .ofNat (withoutBits n m)
  | .negSucc m, .negSucc n => .negSucc (m ||| n)

def bitOr : Int → Int → Int
  | .ofNat m, .ofNat n => .ofNat (m ||| n)
  | .ofNat m, .negSucc n => .negSucc (withoutBits n m)
  | .negSucc m, .ofNat n => .negSucc (withoutBits m n)
  | .negSucc m, .negSucc n => .negSucc (m &&& n)

def bitXor : Int → Int → Int
  | .ofNat m, .ofNat n => .ofNat (m ^^^ n)
  | .ofNat m, .negSucc n => .negSucc (m ^^^ n)
  | .negSucc m, .ofNat n => .negSucc (m ^^^ n)
  | .negSucc m, .negSucc n => .ofNat (m ^^^ n)

def shiftLeft (a : Int) (count : Nat) : Int := a * (twoPow count : Int)

def shiftRight (a : Int) (count : Nat) : Int := a.fdiv (twoPow count)

def signed32 (a : Int) : Int := a.bmod 4294967296

def unsigned32 (a : Int) : Int := a % 4294967296

def lowBytes (a : Int) (bytes : Nat) : Nat := (a % (twoPow (8 * bytes) : Int)).toNat

theorem signed32_eq_self {a : Int} (low : -2147483648 ≤ a) (high : a < 2147483648) :
    signed32 a = a := by
  simp only [signed32, Int.bmod_def]
  omega

theorem signed32_lt (a : Int) : signed32 a < 2147483648 := by
  have := Int.bmod_lt (x := a) (m := 4294967296) (by decide)
  simpa [signed32] using this

theorem le_signed32 (a : Int) : -2147483648 ≤ signed32 a := by
  have := Int.le_bmod (x := a) (m := 4294967296) (by decide)
  simpa [signed32] using this

def unsignedShiftRight (a : Int) (count : Nat) : Int :=
  signed32 (shiftRight (if a < 0 then a + 4294967296 else a) count)

/-- A value read as 32 unsigned bits and rotated right by at most 32 places. -/
def rotateRight (a : Int) (count : Nat) : Int :=
  let u := if a < 0 then a + 4294967296 else a
  signed32 (bitOr (shiftRight u count) (shiftLeft u (32 - count)))

/-- Euclid's algorithm with remainders that have the sign of the divisor. -/
def gcdSteps : Nat → Int → Int → Int
  | 0, a, _ => a
  | fuel + 1, a, b => if b = 0 then a else gcdSteps fuel b (a.fmod b)

/-- A common divisor of greatest size; its sign is that of the last nonzero remainder. -/
def gcd (a b : Int) : Int := gcdSteps (b.natAbs + 1) a b

end NewGrf.Number
