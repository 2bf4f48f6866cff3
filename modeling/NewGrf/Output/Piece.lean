import NewGrf.Text.Escaped

namespace NewGrf

inductive Piece where
  /-- A sprite starts. Its size is not told if it shows an image. -/
  | start (size : Nat) (real : Bool)
  | finish
  | byte (value : Int)
  | byteHex (value : Int) (mnemonic : Option String)
  | word (value : Int)
  | wordHex (value : Int)
  | dword (value : Int)
  | dwordHex (value : Int)
  | text (value : String) (finalZero ascii : Bool)
  | decimal (value : Int)
  | newline (note lead : String)
  | comment (note : String)
  deriving Repr, DecidableEq, Inhabited

namespace Piece

def hex (value : Int) : Piece := .byteHex value none

def string (value : String) : Piece := .text value true false

/-- A text that may not hold Unicode, without a zero byte at its end. -/
def ascii (value : String) : Piece := .text value false true

def line (note : String := "") : Piece := .newline note "\t"

/-- A value in hexadecimal. A size of 3 stands for a byte that is extended to a word. -/
def ofSize (value : Int) : Nat → List Piece
  | 1 => [.hex value]
  | 2 => [.wordHex value]
  | 3 => [.hex 0xFF, .wordHex value]
  | _ => [.dwordHex value]

def size : Piece → Nat
  | byte _ | byteHex _ _ => 1
  | word _ | wordHex _ => 2
  | dword _ | dwordHex _ => 4
  | text s finalZero _ => Text.size s finalZero
  | _ => 0

/-- A value can be written as a number with a sign or without one. -/
def fits : Piece → Bool
  | byte v | byteHex v _ => -0x80 ≤ v && v ≤ 0xFF
  | word v | wordHex v => -0x8000 ≤ v && v ≤ 0xFFFF
  | dword v | dwordHex v => -0x80000000 ≤ v && v ≤ 0xFFFFFFFF
  | _ => true

def sizeOf (ps : List Piece) : Nat := Number.total (ps.map size)

def sprite (body : List Piece) : List Piece :=
  Piece.start (sizeOf body) false :: body ++ [Piece.finish]

def emptySprite : List Piece := sprite [.hex 0]

end Piece

end NewGrf
