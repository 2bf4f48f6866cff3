import NewGrf.Number.Word
import NewGrf.Output.Piece

namespace NewGrf

/-- A register that has a number from the start, or one that a cell gets. -/
inductive RegisterRef where
  | fixed (number : Int)
  | cell (index : Nat)
  deriving Repr, DecidableEq, Inhabited

def RegisterRef.number (registers : Nat → Int) : RegisterRef → Int
  | fixed n => n
  | cell i => registers i

namespace Layout

inductive Kind where
  | ground | building | child
  deriving Repr, DecidableEq, Inhabited

structure Registers where
  hide : Option RegisterRef := none
  sprite : Option RegisterRef := none
  palette : Option RegisterRef := none
  x : Option RegisterRef := none
  y : Option RegisterRef := none
  z : Option RegisterRef := none
  deriving Repr, DecidableEq, Inhabited

namespace Registers

def toList (r : Registers) : List RegisterRef :=
  [r.hide, r.sprite, r.palette, r.x, r.y, r.z].filterMap fun r => r

end Registers

structure Sprite where
  kind : Kind
  /-- Number, recolouring and palette of the sprite; zero if it is put in by a patch. -/
  number : Int := 0
  x : Int := 0
  y : Int := 0
  z : Int := 0
  xExtent : Int := 16
  yExtent : Int := 16
  zExtent : Int := 16
  registers : Registers := {}
  paletteFromSet : Bool := false
  station : Bool := false
  /-- Which of the sprite sets of a station is shown, and which one recolours it. -/
  spriteSlot : Option Int := none
  paletteSlot : Option Int := none
  deriving Repr, DecidableEq, Inhabited

namespace Sprite

def needsFlags (s : Sprite) : Bool :=
  s.station || s.paletteFromSet || !s.registers.toList.isEmpty

def slots (s : Sprite) : List Int :=
  if s.station then [s.spriteSlot, s.paletteSlot].filterMap fun s => s else []

/-- The number of bytes that the advanced form adds. -/
def flagsSize (s : Sprite) : Nat := s.registers.toList.length + s.slots.length + 2

private def bit (n : Nat) (b : Bool) : Int := if b then Number.twoPow n else 0

def flags (s : Sprite) : Int :=
  let r := s.registers
  let last := if s.kind == .building then r.z else r.y
  bit 0 r.hide.isSome + bit 1 r.sprite.isSome + bit 2 r.palette.isSome + bit 3 s.paletteFromSet
    + bit 4 r.x.isSome + bit 5 last.isSome
    + (if s.station then bit 6 s.spriteSlot.isSome + bit 7 s.paletteSlot.isSome else 0)

def registerPieces (registers : Nat → Int) (s : Sprite) : List Piece :=
  s.registers.toList.map (fun r => .hex (r.number registers)) ++ s.slots.map .hex

def box (s : Sprite) : List Piece :=
  if s.kind == .child then [.byte s.x, .byte s.y, .hex 0x80]
  else [.byte s.x, .byte s.y, .byte s.z, .byte s.xExtent, .byte s.yExtent, .byte s.zExtent]

def boxSize (s : Sprite) : Nat := if s.kind == .child then 3 else 6

def pieces (registers : Nat → Int) (advanced : Bool) (s : Sprite) : List Piece :=
  Piece.dwordHex s.number :: (if advanced then [Piece.wordHex s.flags] else []) ++ s.box
    ++ (if advanced then s.registerPieces registers else []) ++ [Piece.line]

end Sprite

end Layout

structure Layout where
  ground : Layout.Sprite
  buildings : List Layout.Sprite := []
  deriving Repr, DecidableEq, Inhabited

namespace Layout

def advanced (l : Layout) : Bool := l.ground.needsFlags || l.buildings.any Sprite.needsFlags

def empty : Layout := { ground := { kind := .ground } }

/-- Where a plain layout has no building, one that shows nothing is written. -/
def noBuilding : List Piece := .dwordHex 0 :: List.replicate 5 (.byte 0)

def pieces (registers : Nat → Int) (l : Layout) : List Piece :=
  let count : Int := l.buildings.length
  Piece.byte (if l.advanced then Number.bitOr 0x40 count else count) :: .dwordHex l.ground.number
    :: (if l.advanced then .wordHex l.ground.flags :: l.ground.registerPieces registers else [])
    ++ [Piece.line]
    ++ (if l.buildings.isEmpty && !l.advanced then noBuilding
        else l.buildings.flatMap (·.pieces registers l.advanced))

/-- Where the numbers of the sprites stand, counted from that of the ground. -/
def numberOffsets (l : Layout) : List Nat :=
  let flagsOf (s : Sprite) : Nat := if l.advanced then s.flagsSize else 0
  0 :: (l.buildings.foldl (fun (start, offsets) s =>
    (start + 4 + flagsOf s + s.boxSize, offsets ++ [start])) (4 + flagsOf l.ground, [])).2

end Layout

end NewGrf
