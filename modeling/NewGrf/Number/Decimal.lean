import NewGrf.Number.Word

namespace NewGrf.Number

/-- A finite floating point magnitude: `mantissa * 2 ^ exponent`. -/
structure Binary where
  mantissa : Nat
  exponent : Int
  deriving Repr, DecidableEq, Inhabited

inductive FloatClass where
  | nan
  | infinite (negative : Bool)
  | finite (negative : Bool) (magnitude : Binary)
  deriving Repr, DecidableEq, Inhabited

def classify (x : Float) : FloatClass :=
  let bits := x.toBits.toNat
  let negative := bits / twoPow 63 == 1
  let e : Nat := bits / twoPow 52 % 2048
  let f : Nat := bits % twoPow 52
  if e == 2047 then (if f == 0 then .infinite negative else .nan)
  else if e == 0 then .finite negative ⟨f, -1074⟩
  else .finite negative ⟨f + twoPow 52, (e : Int) - 1075⟩

namespace Binary

def fraction (b : Binary) : Nat × Nat :=
  match b.exponent with
  | .ofNat e => (b.mantissa * twoPow e, 1)
  | .negSucc e => (b.mantissa, twoPow (e + 1))

/-- The nearest natural to `num / den`, a tie going to the even one. -/
def roundDiv (num den : Nat) : Nat :=
  let q := num / den
  let r := num % den
  if 2 * r < den then q else if 2 * r > den then q + 1 else if q % 2 == 0 then q else q + 1

/-- The number `k` with `10 ^ (k - 1) ≤ num / den < 10 ^ k`, searched upwards from below. -/
def pointSearch : Nat → Nat → Nat → Int → Int
  | 0, _, _, k => k
  | fuel + 1, num, den, k =>
    let below : Bool := match k with
      | .ofNat e => num < den * tenPow e
      | .negSucc e => num * tenPow (e + 1) < den
    if below then k else pointSearch fuel num den (k + 1)

/-- Where the decimal point stands: `v < 10 ^ k`, and not for a smaller `k`. -/
def point (num den : Nat) : Int :=
  if num = 0 then 0
  else
    let guess : Int := ((num.log2 : Int) - (den.log2 : Int)) * 30103 / 100000 - 2
    pointSearch 8 num den guess

def scale (num den : Nat) (places : Int) : Nat × Nat :=
  match places with
  | .ofNat p => (num * tenPow p, den)
  | .negSucc p => (num, den * tenPow (p + 1))

end Binary

namespace Shortest

/-- Four times the value and the two ends of the interval that reads back as it. -/
structure Interval where
  low : Nat
  value : Nat
  high : Nat
  den : Nat
  closed : Bool

def interval (b : Binary) : Interval :=
  let step := if b.mantissa = twoPow 52 ∧ -1074 < b.exponent then 1 else 2
  let m := b.mantissa * 4
  match b.exponent with
  | .ofNat e =>
    ⟨(m - step) * twoPow e, m * twoPow e, (m + 2) * twoPow e, 4, b.mantissa % 2 == 0⟩
  | .negSucc e => ⟨m - step, m, m + 2, 4 * twoPow (e + 1), b.mantissa % 2 == 0⟩

def Interval.holds (i : Interval) (digits : Nat) (places : Int) : Bool :=
  let (num, den) := Binary.scale digits 1 (-places)
  let lo := i.low * den
  let hi := i.high * den
  let x := num * i.den
  if i.closed then lo ≤ x && x ≤ hi else lo < x && x < hi

def atCount (i : Interval) (k : Int) (count : Nat) : Option (Nat × Int) :=
  let places : Int := count - k
  let (num, den) := Binary.scale i.value i.den places
  let d := num / den
  let lower := i.holds d places
  let upper := i.holds (d + 1) places
  if lower && upper then
    some (Binary.roundDiv num den, places)
  else if lower then some (d, places)
  else if upper then some (d + 1, places)
  else none

def search (i : Interval) (k : Int) : Nat → Nat → Nat × Int
  | 0, count => (i.value * tenPow count / i.den, count)
  | fuel + 1, count =>
    match atCount i k count with
    | some r => r
    | none => search i k fuel (count + 1)

def dropZeros : Nat → Nat → Nat × Nat
  | 0, n => (n, 0)
  | fuel + 1, n =>
    if n ≠ 0 ∧ n % 10 = 0 then
      let (r, c) := dropZeros fuel (n / 10)
      (r, c + 1)
    else (n, 0)

/-- The shortest digits of a nonzero magnitude, and the place of the decimal point before them. -/
def digits (b : Binary) : List Char × Int :=
  let i := interval b
  let k := Binary.point i.value i.den
  let (n, places) := search i k 17 1
  let (n, dropped) := dropZeros 20 n
  let cs := Nat.toDigits 10 n
  (cs, cs.length - (places - dropped))

end Shortest

def exponentText (mark : Char) (e : Int) : String :=
  let n := toString e.natAbs
  String.singleton mark ++ (if e < 0 then "-" else "+") ++ (if n.length < 2 then "0" ++ n else n)

/-- Digits with the point after the first `k`. A whole number keeps one zero after the point. -/
def positional (ds : List Char) (k : Int) : String :=
  if k ≤ 0 then "0." ++ String.ofList (List.replicate k.natAbs '0' ++ ds)
  else
    let whole := k.toNat
    if ds.length ≤ whole then
      String.ofList (ds ++ List.replicate (whole - ds.length) '0') ++ ".0"
    else String.ofList (ds.take whole) ++ "." ++ String.ofList (ds.drop whole)

/-- The text of a float: shortest digits, positional from `1e-4` up to below `1e16`. -/
def floatText (x : Float) : String :=
  match classify x with
  | .nan => "nan"
  | .infinite negative => if negative then "-inf" else "inf"
  | .finite negative b =>
    let sign := if negative then "-" else ""
    if b.mantissa = 0 then sign ++ "0.0"
    else
      let (ds, k) := Shortest.digits b
      if -4 < k ∧ k ≤ 16 then sign ++ positional ds k
      else
        let rest := String.ofList (ds.drop 1)
        sign ++ String.ofList (ds.take 1) ++ (if rest.isEmpty then "" else "." ++ rest)
          ++ exponentText 'e' (k - 1)

def padDigits (width n : Nat) : List Char :=
  let ds := Nat.toDigits 10 n
  List.replicate (width - ds.length) '0' ++ ds

def fixed (b : Binary) (places : Nat) (keepPoint : Bool) : String :=
  let (num, den) := b.fraction
  let n := Binary.roundDiv (num * tenPow places) den
  let ds := padDigits (places + 1) n
  let whole := String.ofList (ds.take (ds.length - places))
  if places = 0 then (if keepPoint then whole ++ "." else whole)
  else whole ++ "." ++ String.ofList (ds.drop (ds.length - places))

def leading (b : Binary) (count : Nat) : List Char × Int :=
  if b.mantissa = 0 then (List.replicate count '0', 0)
  else
    let (num, den) := b.fraction
    let k := Binary.point num den
    let (n', d') := Binary.scale num den ((count : Int) - k)
    let n := Binary.roundDiv n' d'
    if n = tenPow count then (Nat.toDigits 10 (tenPow (count - 1)), k)
    else (Nat.toDigits 10 n, k - 1)

def scientific (b : Binary) (places : Nat) (keepPoint : Bool) (mark : Char) : String :=
  let (ds, e) := leading b (places + 1)
  let rest := String.ofList (ds.drop 1)
  String.ofList (ds.take 1)
    ++ (if rest.isEmpty then (if keepPoint then "." else "") else "." ++ rest)
    ++ exponentText mark e

/-- Drops zeros at the end of digits after a point, and the point itself if nothing follows. -/
def trimFraction (s : String) : String :=
  let cs := s.toList
  if cs.contains '.' then
    let r := cs.reverse.dropWhile (· == '0')
    String.ofList (match r with | '.' :: r' => r'.reverse | r' => r'.reverse)
  else s

/-- A magnitude with a number of significant digits, positional where the exponent is small. -/
def general (b : Binary) (significant : Nat) (keepZeros : Bool) (mark : Char) : String :=
  let p := if significant = 0 then 1 else significant
  let (ds, e) := leading b p
  if -4 ≤ e ∧ e < (p : Int) then
    let s :=
      if e < 0 then "0." ++ String.ofList (List.replicate (e.natAbs - 1) '0' ++ ds)
      else
        let whole := e.toNat + 1
        String.ofList (ds.take whole) ++ "." ++ String.ofList (ds.drop whole)
    if keepZeros then s else trimFraction s
  else
    let rest := String.ofList (ds.drop 1)
    let body := String.ofList (ds.take 1) ++ "." ++ rest
    (if keepZeros then body else trimFraction body) ++ exponentText mark e

def truncate (x : Float) : Int :=
  match classify x with
  | .finite negative b =>
    let (num, den) := b.fraction
    if negative then -(num / den : Nat) else (num / den : Nat)
  | _ => 0

/-- The nearest integer of a finite float, a tie going to the even one. -/
def roundHalfEven (x : Float) : Int :=
  match classify x with
  | .finite negative b =>
    let (num, den) := b.fraction
    let n : Int := Binary.roundDiv num den
    if negative then -n else n
  | _ => 0

def floatOfInt (i : Int) : Float := Float.ofInt i

end NewGrf.Number
