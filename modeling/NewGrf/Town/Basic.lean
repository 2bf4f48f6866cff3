import NewGrf.Dict
import NewGrf.Expr.Basic
import NewGrf.Output.Piece
import NewGrf.Position

namespace NewGrf.Town

inductive Source where
  | text (text : String)
  | named (name : String)
  | numbered (number : Int)
  deriving Repr, DecidableEq, Inhabited

structure Piece where
  source : Source
  probability : Int
  pos : Option Position
  number : Int := 0
  deriving Repr, Inhabited

structure Part where
  pieces : List Piece
  pos : Position
  firstBit : Int := 0
  bits : Option Nat := none
  deriving Repr, Inhabited

structure Block where
  title : String := ""
  name : Option String := none
  number : Option Int := none
  style : Option Expr := none
  styles : List (Nat × String) := []
  parts : List Part
  pos : Position
  users : List Int := []
  deriving Inhabited

def total : Nat := 0x80

structure Registry where
  blocks : Array Block := #[]
  taken : List Int := []
  next : Int := 0
  names : Dict Int := []
  /-- Numbers that the script has chosen and that can be referred to. -/
  numbers : List Int := []
  ids : List (Int × Nat) := []
  /-- How many blocks have been made to hold pieces of large parts. -/
  serial : Nat := 0
  deriving Inhabited

def Piece.pieces (p : Piece) : List NewGrf.Piece :=
  match p.source with
  | .text t => [.hex p.probability, .string t, .line]
  | _ => [.hex (Number.bitOr p.probability 0x80), .hex p.number, .line]

def Part.body (p : Part) : List NewGrf.Piece :=
  [NewGrf.Piece.hex p.pieces.length, .hex p.firstBit, .hex (p.bits.getD 0)]
    ++ p.pieces.flatMap Piece.pieces ++ [NewGrf.Piece.line]

def Block.styleBody (b : Block) : List NewGrf.Piece :=
  if b.styles.isEmpty then []
  else b.styles.flatMap (fun (lang, t) => [NewGrf.Piece.hex lang, .string t, .line])
    ++ [NewGrf.Piece.hex 0, .line]

def Block.sprite (b : Block) : List NewGrf.Piece :=
  let flag : Int := if b.styles.isEmpty then 0 else 0x80
  NewGrf.Piece.sprite
    ([NewGrf.Piece.hex 0xF, .hex (Number.bitOr (b.number.getD 0) flag), .line b.title]
      ++ b.styleBody
      ++ [NewGrf.Piece.hex b.parts.length] ++ b.parts.flatMap Part.body)

end NewGrf.Town
