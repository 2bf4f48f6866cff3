import NewGrf.Text.Hex

namespace NewGrf.Text.Utf8

/-- Bytes that are no character: where they start, the first of them, and how many of them could
start one. -/
structure Fault where
  start : Nat
  byte : UInt8
  length : Nat
  deriving Repr, DecidableEq, Inhabited

inductive Ending where
  | complete
  /-- The bytes end within the character that starts here. -/
  | truncated (start : Nat)
  | broken (fault : Fault)
  deriving Repr, DecidableEq, Inhabited

def Fault.text (f : Fault) : String :=
  let place :=
    if f.length ≤ 1 then
      "byte 0x" ++ (hexText 2 f.byte.toNat).toLower ++ " in position " ++ toString f.start
    else "bytes in position " ++ toString f.start ++ "-" ++ toString (f.start + f.length - 1)
  "'utf-8' codec can't decode " ++ place
    ++ (if f.length == 0 then ": invalid start byte" else ": invalid continuation byte")

/-- How many bytes follow a first byte, the bits that it holds, and the range of the second. -/
def shape? (b : Nat) : Option (Nat × Nat × Nat × Nat) :=
  if 0xC2 ≤ b && b ≤ 0xDF then some (1, b % 0x20, 0x80, 0xBF)
  else if b == 0xE0 then some (2, 0, 0xA0, 0xBF)
  else if b == 0xED then some (2, 0xD, 0x80, 0x9F)
  else if 0xE1 ≤ b && b ≤ 0xEF then some (2, b % 0x10, 0x80, 0xBF)
  else if b == 0xF0 then some (3, 0, 0x90, 0xBF)
  else if b == 0xF4 then some (3, 4, 0x80, 0x8F)
  else if 0xF1 ≤ b && b ≤ 0xF3 then some (3, b % 8, 0x80, 0xBF)
  else none

/-- The rest of a character: its code, or how many bytes were right and whether more would help. -/
def follow (bytes : ByteArray) (low high : Nat) : (count : Nat) → (index : Nat) → (code : Nat) →
    (right : Nat) → Except (Nat × Bool) Nat
  | 0, _, code, _ => .ok code
  | count + 1, i, code, right =>
    match bytes[i]? with
    | none => .error (right, true)
    | some b =>
      if low ≤ b.toNat && b.toNat ≤ high then
        follow bytes 0x80 0xBF count (i + 1) (code * 0x40 + b.toNat % 0x40) (right + 1)
      else .error (right, false)

def decodeFrom (bytes : ByteArray) : Nat → Nat → String → String × Ending
  | 0, _, text => (text, .complete)
  | fuel + 1, i, text =>
    match bytes[i]? with
    | none => (text, .complete)
    | some b =>
      if b < 0x80 then decodeFrom bytes fuel (i + 1) (text.push (Char.ofNat b.toNat))
      else
        match shape? b.toNat with
        | none => (text, .broken ⟨i, b, 0⟩)
        | some (count, code, low, high) =>
          match follow bytes low high count (i + 1) code 1 with
          | .ok code => decodeFrom bytes fuel (i + count + 1) (text.push (Char.ofNat code))
          | .error (_, true) => (text, .truncated i)
          | .error (right, false) => (text, .broken ⟨i, b, right⟩)

/-- The text up to the first bytes that are no character, and how it ends. -/
def decode (bytes : ByteArray) : String × Ending :=
  decodeFrom bytes (bytes.size + 1) 0 ""

end NewGrf.Text.Utf8
