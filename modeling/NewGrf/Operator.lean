import NewGrf.Number.Decimal
import NewGrf.Number.Word

namespace NewGrf

inductive Operator where
  | add | sub | div | mod | mul | and | or | xor
  | eq | ne | le | ge | lt | gt
  | min | max
  | storeTemp | storePerm
  | shiftLeft | shiftRight | shiftRightU
  | hasBit | notHasBit
  /-- The right operand; the left one is evaluated for its effects. -/
  | last
  | assign
  | shiftLeftU
  /-- 0, 1 or 2 for less, equal, greater. -/
  | compare
  | compareU
  | minU
  | rotateRight
  | divU
  deriving Repr, DecidableEq, Inhabited

namespace Operator

def token? : Operator → Option String
  | add => some "+" | sub => some "-" | div => some "/" | mod => some "%" | mul => some "*"
  | and => some "&" | or => some "|" | xor => some "^"
  | eq => some "==" | ne => some "!=" | le => some "<=" | ge => some ">=" | lt => some "<"
  | gt => some ">"
  | shiftLeft => some "<<" | shiftRight => some ">>" | shiftRightU => some ">>>"
  | shiftLeftU => some "<<"
  | _ => none

def callName? : Operator → Option String
  | min => some "min" | max => some "max"
  | storeTemp => some "STORE_TEMP" | storePerm => some "STORE_PERM"
  | hasBit => some "hasbit" | notHasBit => some "!hasbit"
  | compare => some "CMP" | compareU => some "UCMP" | rotateRight => some "rotate"
  | _ => none

def write (op : Operator) (left right : String) : String :=
  match op.callName? with
  | some name => name ++ "(" ++ left ++ ", " ++ right ++ ")"
  | none => "(" ++ left ++ " " ++ op.token?.getD "None" ++ " " ++ right ++ ")"

/-- Whether a switch can hold the operator, directly or through others. -/
def inSwitch : Operator → Bool
  | assign | shiftLeftU => false
  | _ => true

def switchCode? : Operator → Option (Nat × String)
  | add => some (0, "\\2+") | sub => some (1, "\\2-") | min => some (2, "\\2<")
  | max => some (3, "\\2>") | minU => some (4, "\\2u<") | div => some (6, "\\2/")
  | mod => some (7, "\\2%") | divU => some (8, "\\2u/") | mul => some (10, "\\2*")
  | and => some (11, "\\2&") | or => some (12, "\\2|") | xor => some (13, "\\2^")
  | storeTemp => some (14, "\\2sto") | last => some (15, "\\2r")
  | storePerm => some (16, "\\2psto") | rotateRight => some (17, "\\2ror")
  | compare => some (18, "\\2cmp") | compareU => some (19, "\\2ucmp")
  | shiftLeft => some (20, "\\2<<") | shiftRightU => some (21, "\\2u>>")
  | shiftRight => some (22, "\\2>>")
  | _ => none

def inAssignment : Operator → Bool
  | storeTemp | storePerm | last | compare | compareU | minU | rotateRight => false
  | _ => true

def assignCode? : Operator → Option (Nat × String)
  | assign => some (0, "\\D=") | add => some (1, "\\D+") | sub => some (2, "\\D-")
  | mul => some (4, "\\D*") | shiftLeftU => some (5, "\\Du<<") | shiftLeft => some (6, "\\D<<")
  | and => some (7, "\\D&") | or => some (8, "\\D|") | divU => some (9, "\\Du/")
  | div => some (10, "\\D/") | mod => some (12, "\\D%")
  | _ => none

def commutative : Operator → Bool
  | add | mul | and | or | xor | eq | ne | min | max => true
  | _ => false

def returnsBoolean : Operator → Bool
  | eq | ne | le | ge | lt | gt | hasBit | notHasBit => true
  | _ => false

inductive Demand where
  | anything | integers | numbers | addable | divisible | rotatable | nonNegativeRight
  deriving Repr, DecidableEq

def demand : Operator → Demand
  | add => .addable
  | sub | mul | eq | ne | le | ge | lt | gt | min | max => .numbers
  | div | mod => .divisible
  | and | or | xor => .integers
  | rotateRight => .rotatable
  | storeTemp | storePerm | shiftLeft | shiftRight | shiftRightU | hasBit => .nonNegativeRight
  | _ => .anything

private def truth (b : Bool) : Int := if b then 1 else 0

/-- The value on two integer constants, before it is cut to a word. -/
def fold? : Operator → Int → Int → Option Int
  | add, a, b => some (a + b)
  | sub, a, b => some (a - b)
  | mul, a, b => some (a * b)
  | div, a, b => some (a.fdiv b)
  | mod, a, b => some (a.fmod b)
  | and, a, b => some (Number.bitAnd a b)
  | or, a, b => some (Number.bitOr a b)
  | xor, a, b => some (Number.bitXor a b)
  | eq, a, b => some (truth (a == b))
  | ne, a, b => some (truth (a != b))
  | le, a, b => some (truth (a ≤ b))
  | ge, a, b => some (truth (b ≤ a))
  | lt, a, b => some (truth (a < b))
  | gt, a, b => some (truth (b < a))
  | min, a, b => some (if b < a then b else a)
  | max, a, b => some (if a < b then b else a)
  | shiftLeft, a, b => some (Number.shiftLeft a b.toNat)
  | shiftRight, a, b => some (Number.shiftRight a b.toNat)
  | shiftRightU, a, b => some (Number.unsignedShiftRight a b.toNat)
  | hasBit, a, b => some (truth (Number.shiftRight a b.toNat % 2 == 1))
  | notHasBit, a, b => some (truth (Number.shiftRight a b.toNat % 2 == 0))
  | last, _, b => some b
  | rotateRight, a, b => some (Number.rotateRight a b.toNat)
  | _, _, _ => none

/-- The remainder of two floats that has the sign of the divisor. Nothing infinite has one. -/
def floatMod (a b : Float) : Float :=
  match Number.classify a, Number.classify b with
  | .finite na ba, .finite nb bb =>
    let e := if ba.exponent ≤ bb.exponent then ba.exponent else bb.exponent
    let ma := ba.mantissa * Number.twoPow (ba.exponent - e).toNat
    let mb := bb.mantissa * Number.twoPow (bb.exponent - e).toNat
    let r := ma % mb
    let size := (Float.ofNat r).scaleB e
    let m := if na then -size else size
    if r == 0 then (if nb then -0.0 else 0.0)
    else if na != nb then m + b else m
  | .finite na ba, .infinite nb =>
    if ba.mantissa == 0 then (if nb then -0.0 else 0.0)
    else if na != nb then b else a
  | _, _ => 0.0 / 0.0

def foldFloat? : Operator → Float → Float → Option Float
  | add, a, b => some (a + b)
  | sub, a, b => some (a - b)
  | mul, a, b => some (a * b)
  | div, a, b => some (a / b)
  | mod, a, b => some (floatMod a b)
  | eq, a, b => some (if a == b then 1.0 else 0.0)
  | ne, a, b => some (if a != b then 1.0 else 0.0)
  | le, a, b => some (if a ≤ b then 1.0 else 0.0)
  | ge, a, b => some (if b ≤ a then 1.0 else 0.0)
  | lt, a, b => some (if a < b then 1.0 else 0.0)
  | gt, a, b => some (if b < a then 1.0 else 0.0)
  | min, a, b => some (if b < a then b else a)
  | max, a, b => some (if a < b then b else a)
  | last, _, b => some b
  | _, _, _ => none

end Operator

end NewGrf
