import Mathlib.Algebra.Group.Nat.Defs
import NewGrf.Output.Grf
import NewGrf.Proofs.Build

open List

namespace NewGrf

/-- The low bytes of a value, the lowest first. -/
def Number.bytes (value : Int) : Nat → List UInt8
  | 0 => []
  | n + 1 => (Number.lowBytes value 1).toUInt8 :: bytes (value / 256) n

theorem Number.length_bytes (value : Int) (n : Nat) : (bytes value n).length = n := by
  induction n generalizing value with
  | zero => rfl
  | succ n ih => rw [bytes, length_cons, ih]

theorem Number.lowBytes_one (value : Int) : lowBytes value 1 = (value % 256).toNat := rfl

theorem Number.lowBytes_one_lt (value : Int) : lowBytes value 1 < 256 := by
  rw [lowBytes_one]
  omega

theorem Number.lowBytes_succ (value : Int) (n : Nat) :
    lowBytes value (n + 1) = lowBytes value 1 + 256 * lowBytes (value / 256) n := by
  have split : (twoPow (8 * (n + 1)) : Int) = 256 * twoPow (8 * n) := by
    simp [twoPow, Nat.mul_add, Nat.shiftLeft_eq, Int.pow_add, Int.mul_comm]
  have positive := twoPow_pos (8 * n)
  have low := Int.emod_nonneg (value / 256) (b := twoPow (8 * n)) (by omega)
  rw [lowBytes_one]
  simp only [lowBytes, split]
  rw [Int.emod_def value (256 * _), ← Int.ediv_ediv_of_nonneg (by decide), Int.mul_assoc]
  rw [Int.emod_def (value / 256)] at low ⊢
  omega

/-- Bytes are pushed in order. -/
theorem toList_foldl_push (bytes : List UInt8) (b : ByteArray) :
    (bytes.foldl .push b).data.toList = b.data.toList ++ bytes := by
  induction bytes generalizing b with
  | nil => simp
  | cons x rest ih => rw [foldl_cons, ih, ByteArray.data_push, Array.toList_push, append_assoc,
      singleton_append]

theorem ByteArray.pushLow_eq (b : ByteArray) (value : Int) (n : Nat) :
    pushLow b value n = pushAll b (Number.bytes value n) := by
  induction n generalizing b value with
  | zero => rfl
  | succ n ih => exact ih ..

namespace Piece

/-- The bytes of a value in a sprite. -/
def bytes : Piece → List UInt8
  | byte v | byteHex v _ => Number.bytes v 1
  | word v | wordHex v => Number.bytes v 2
  | dword v | dwordHex v => Number.bytes v 4
  | _ => []

/-- The bytes of a piece, which may be a text. -/
def content : Piece → List UInt8
  | text s finalZero _ => Text.bytes s finalZero
  | p => p.bytes

@[simp] theorem sizeOf_append (ps qs : List Piece) : sizeOf (ps ++ qs) = sizeOf ps + sizeOf qs := by
  simp only [sizeOf, map_append, Number.total_append]

@[simp] theorem sizeOf_cons (p : Piece) (ps : List Piece) :
    sizeOf (p :: ps) = p.size + sizeOf ps := rfl

@[simp] theorem sizeOf_nil : sizeOf [] = 0 := rfl

end Piece

/-- A file with more bytes in its current sprite. -/
def Grf.append (g : Grf) (bytes : List UInt8) : Grf :=
  { g with data := ByteArray.pushAll g.data bytes, count := g.count + bytes.length }

/-- A text is written exactly if all of its characters have bytes, and if no Unicode is in it where
that is not allowed. -/
theorem Grf.text_eq_ok_iff {s : String} {finalZero ascii : Bool} {g g' : Grf} :
    Grf.text s finalZero ascii g = .ok () g' ↔ (ascii && !Text.isAscii s) = false ∧
      Text.hasSurrogate s = false ∧ g' = g.append (Text.bytes s finalZero) := by
  cases allowed : ascii && !Text.isAscii s with
  | true =>
    simp only [text, allowed, Bool.true_eq_false, false_and, iff_false]
    intro h
    cases h
  | false =>
    cases surrogate : Text.hasSurrogate s with
    | true =>
      simp only [text, allowed, surrogate, Bool.true_eq_false, false_and, and_false, iff_false]
      intro h
      cases h
    | false =>
      simp only [text, allowed, surrogate, true_and]
      constructor
      · intro written
        cases written
        rfl
      · rintro rfl
        rfl

/-- What is still to be read. -/
abbrev Input := StateT (List UInt8) Option

namespace Input

/-- The next bytes as a number, the lowest first. -/
def take : Nat → Input Nat
  | 0, bytes => some (0, bytes)
  | _ + 1, [] => none
  | n + 1, byte :: bytes => do
    let (high, rest) ← take n bytes
    some (byte.toNat + 256 * high, rest)

def block (n : Nat) : Input (List UInt8) := fun bytes =>
  if n ≤ bytes.length then some (bytes.take n, bytes.drop n) else none

variable {α β : Type} {n : Nat} {bytes rest : List UInt8} {m : Input α} {f : α → Input β} {a : α}
  {xs : List α}

theorem bind_of_eq (h : m bytes = some (a, rest)) : (m >>= f) bytes = f a rest := by
  change (m bytes >>= fun x => f x.1 x.2) = _
  rw [h]
  rfl

theorem take_bytes (value : Int) (n : Nat) :
    take n (Number.bytes value n ++ rest) = some (Number.lowBytes value n, rest) := by
  induction n generalizing value with
  | zero =>
    have : Number.lowBytes value 0 = 0 := by simp [Number.lowBytes, Number.twoPow]
    rw [this]
    rfl
  | succ n ih =>
    have low : (Number.lowBytes value 1).toUInt8.toNat = Number.lowBytes value 1 :=
      UInt8.toNat_ofNat_of_lt (Number.lowBytes_one_lt value)
    rw [Number.bytes, cons_append, take, ih, Option.bind_eq_bind, Option.bind_some, low,
      Number.lowBytes_succ value n]

theorem block_append (bytes rest : List UInt8) :
    block bytes.length (bytes ++ rest) = some (bytes, rest) := by
  rw [block, if_pos (by simp), take_left, drop_left]

theorem take_natCast {size : Nat} (fits : n < 2 ^ (8 * size)) (rest : List UInt8) :
    take size (Number.bytes n size ++ rest) = some (n, rest) := by
  rw [take_bytes, Number.lowBytes, Number.twoPow, Nat.one_shiftLeft,
    Int.emod_eq_of_lt (by omega) (mod_cast fits), Int.toNat_natCast]

end Input

end NewGrf
