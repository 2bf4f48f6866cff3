import NewGrf.Fault
import NewGrf.Number.Word
import NewGrf.Position
import NewGrf.Text.Integer

namespace NewGrf.Text

/-- A unit of a text with escapes; digits are kept as they were written. -/
inductive Glyph where
  | char (c : Char)
  | quoted (c : Char)
  | wide (digits : List Char)
  | byte (digits : List Char)
  deriving Repr, DecidableEq, Inhabited

def glyphs : List Char → List Glyph
  | [] => []
  | '\\' :: '\\' :: rest => .quoted '\\' :: glyphs rest
  | '\\' :: '"' :: rest => .quoted '"' :: glyphs rest
  | '\\' :: 'U' :: rest => .wide (rest.take 4) :: glyphs (rest.drop 4)
  | '\\' :: rest => .byte (rest.take 2) :: glyphs (rest.drop 2)
  | c :: rest => .char c :: glyphs rest
termination_by cs => cs.length
decreasing_by all_goals simp; try omega

def utf8Size (code : Int) : Nat :=
  if code < 128 then 1 else if code < 2048 then 2 else if code < 65536 then 3 else 4

namespace Glyph

/-- Whether the unit is one byte in a text without a mark for Unicode. -/
def isAscii : Glyph → Bool
  | char c => c.toNat < 0x7B
  | wide _ => false
  | _ => true

def size : Glyph → Nat
  | char c => utf8Size c.toNat
  | wide digits => utf8Size ((integerIn? 16 digits).getD 0)
  | _ => 1

def utf8 (code : Nat) : List UInt8 :=
  let c (n : Nat) : UInt8 := n.toUInt8
  if code < 0x80 then [c code]
  else if code < 0x800 then [c (0xC0 + code / 0x40), c (0x80 + code % 0x40)]
  else if code < 0x10000 then
    [c (0xE0 + code / 0x1000), c (0x80 + code / 0x40 % 0x40), c (0x80 + code % 0x40)]
  else
    [c (0xF0 + code / 0x40000), c (0x80 + code / 0x1000 % 0x40), c (0x80 + code / 0x40 % 0x40),
      c (0x80 + code % 0x40)]

def bytes : Glyph → List UInt8
  | char ch => utf8 ch.toNat
  | quoted ch => [ch.toNat.toUInt8]
  | wide digits => utf8 ((integerIn? 16 digits).getD 0).toNat
  | byte digits => [((integerIn? 16 digits).getD 0 % 256).toNat.toUInt8]

/-- A character that stands for half of another one, and has no bytes of its own. -/
def isSurrogate : Glyph → Bool
  | wide digits =>
    let code := (integerIn? 16 digits).getD 0
    0xD800 ≤ code && code < 0xE000
  | _ => false

end Glyph

def isAscii (s : String) : Bool := (glyphs s.toList).all Glyph.isAscii

def unicodeMark : List UInt8 := [0xC3, 0x9E]

def size (s : String) (finalZero : Bool := true) : Nat :=
  let gs := glyphs s.toList
  (if finalZero then 1 else 0) + (if gs.all Glyph.isAscii then 0 else 2)
    + Number.total (gs.map Glyph.size)

def unicodeFault : Fault := { cause := .script "Expected ascii string but got a unicode string" }

def asciiSize (s : String) (finalZero : Bool) : Except Fault Nat :=
  if isAscii s then .ok (size s finalZero) else .error unicodeFault

def bytes (s : String) (finalZero : Bool := true) : List UInt8 :=
  let gs := glyphs s.toList
  (if gs.all Glyph.isAscii then [] else unicodeMark) ++ gs.flatMap Glyph.bytes
    ++ (if finalZero then [0] else [])

def hasSurrogate (s : String) : Bool := (glyphs s.toList).any Glyph.isSurrogate

def surrogateFault : Fault := { cause := .script "Surrogates have no bytes" }

/-- The bytes of a text before the first character that has none. -/
def bytesBeforeSurrogate (s : String) : List UInt8 :=
  let gs := glyphs s.toList
  (if gs.all Glyph.isAscii then [] else unicodeMark)
    ++ (gs.takeWhile (!·.isSurrogate)).flatMap Glyph.bytes

def escapeFault? (s : String) (pos : Option Position) : Option Fault :=
  let refuse (t : String) : Option Fault := some { cause := .script t, pos }
  (glyphs s.toList).findSome? fun
    | .wide digits =>
      if digits.length == 4 && digits.all isHexDigit then none
      else refuse "Expected 4 hexadecimal characters after '\\U'"
    | .byte [] => refuse "Unexpected end-of-line encountered after '\\'"
    | .byte digits =>
      if digits.length == 2 && digits.all isHexDigit then none
      else refuse "Expected 2 hexadecimal characters after '\\'"
    | _ => none

/-- The values of the first four bytes of a text as labels and identifiers spell them: every
backslash takes the next two characters as a hexadecimal number. -/
def labelBytes? : Nat → List Char → Option (List Int)
  | 0, _ => some []
  | n + 1, '\\' :: rest => do
    let b ← integerIn? 16 (rest.take 2)
    let bs ← labelBytes? n (rest.drop 2)
    pure (b :: bs)
  | n + 1, c :: rest => (labelBytes? n rest).map fun bs => (c.toNat : Int) :: bs
  | _ + 1, [] => none

end NewGrf.Text
