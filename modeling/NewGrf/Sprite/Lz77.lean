namespace NewGrf.Lz77

inductive Token where
  | literal (byte : UInt8)
  | copy (distance length : Nat)
  deriving Repr, DecidableEq, Inhabited

def shortest : Nat := 3

def longest : Nat := 15

def reach : Nat := 2047

def byteAt (data : ByteArray) (i : Nat) : UInt8 := if h : i < data.size then data[i] else 0

/-- Whether as many bytes from two places on are the same. -/
def sameBytes (data : ByteArray) (i j : Nat) : Nat → Bool
  | 0 => true
  | n + 1 => byteAt data (i + n) == byteAt data (j + n) && sameBytes data i j n

/-- The first place from `start` on where the bytes from `pos` on also stand, completely before
`pos`. -/
def find? (data : ByteArray) (pos length : Nat) : Nat → Nat → Option Nat
  | 0, _ => none
  | fuel + 1, start =>
    if start + length ≤ pos then
      if sameBytes data start pos length then some start
      else find? data pos length fuel (start + 1)
    else none

/-- Lengthens a match as long as there is one, at the same place or behind it. -/
def extend (data : ByteArray) (pos : Nat) : Nat → Nat → Nat → Option (Nat × Nat) →
    Option (Nat × Nat)
  | 0, _, _, best => best
  | more + 1, length, start, best =>
    match find? data pos length (pos - start) start with
    | some i => extend data pos more (length + 1) i (some (i, length))
    | none => best

def longestMatch? (data : ByteArray) (pos : Nat) : Option (Nat × Nat) :=
  let most := min longest (data.size - pos)
  extend data pos (most + 1 - shortest) shortest (pos - reach) none

def tokensFrom (data : ByteArray) : Nat → Nat → List Token → List Token
  | 0, _, out => out.reverse
  | fuel + 1, pos, out =>
    if pos < data.size then
      match longestMatch? data pos with
      | some (i, length) => tokensFrom data fuel (pos + length) (.copy (pos - i) length :: out)
      | none => tokensFrom data fuel (pos + 1) (.literal (byteAt data pos) :: out)
    else out.reverse

def tokens (data : ByteArray) : List Token := tokensFrom data data.size 0 []

def literalRun : Nat := 0x80

def flush (out : ByteArray) (waiting : List UInt8) : ByteArray :=
  if waiting.isEmpty then out
  else waiting.reverse.foldl .push (out.push (waiting.length % literalRun).toUInt8)

/-- Writes tokens. Literals wait until a reference comes or until there are as many as can stand
together. -/
def pack : List Token → List UInt8 → Nat → ByteArray → ByteArray
  | [], waiting, _, out => flush out waiting
  | .literal b :: rest, waiting, count, out =>
    if count + 1 == literalRun then pack rest [] 0 (flush out (b :: waiting))
    else pack rest (b :: waiting) (count + 1) out
  | .copy distance length :: rest, waiting, _, out =>
    let out := flush out waiting
    let head := 0x100 - 8 * length + distance / 0x100
    pack rest [] 0 ((out.push head.toUInt8).push distance.toUInt8)

def encode (data : ByteArray) : ByteArray := pack (tokens data) [] 0 .empty

end NewGrf.Lz77
