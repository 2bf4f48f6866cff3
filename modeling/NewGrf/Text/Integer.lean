import NewGrf.Text.Class

namespace NewGrf.Text

def digitIn? (base : Nat) (c : Char) : Option Nat :=
  ((digit? c) <|> (hexDigit? c)).filter (· < base)

/-- The value of digits, of which each but the first may have an underscore before it. -/
def digitsIn? (base : Nat) : List Char → Nat → Option Nat
  | [], value => some value
  | '_' :: c :: rest, value =>
    (digitIn? base c).bind fun d => digitsIn? base rest (value * base + d)
  | c :: rest, value => (digitIn? base c).bind fun d => digitsIn? base rest (value * base + d)

def naturalIn? (base : Nat) : List Char → Option Nat
  | [] => none
  | c :: rest => (digitIn? base c).bind fun d => digitsIn? base rest d

def baseMark? : Nat → Option Char
  | 2 => some 'b'
  | 8 => some 'o'
  | 16 => some 'x'
  | _ => none

def dropBaseMark (base : Nat) : List Char → List Char
  | '0' :: x :: rest =>
    if baseMark? base == some x.toLower then
      match rest with
      | '_' :: more => more
      | rest => rest
    else '0' :: x :: rest
  | cs => cs

def integerIn? (base : Nat) (cs : List Char) : Option Int :=
  match strip cs with
  | '-' :: rest => (naturalIn? base (dropBaseMark base rest)).map fun n => -(n : Int)
  | '+' :: rest => (naturalIn? base (dropBaseMark base rest)).map fun n => (n : Int)
  | rest => (naturalIn? base (dropBaseMark base rest)).map fun n => (n : Int)

def integer? (s : String) : Option Int := integerIn? 10 s.toList

/-- Decimal numbers with more digits than this are not computed. -/
def longestNumber : Nat := 4300

end NewGrf.Text
