import NewGrf.Dict
import NewGrf.Expr.Basic
import NewGrf.Layout.Basic
import NewGrf.Position

namespace NewGrf

structure GridTile where
  x : Int
  y : Int
  kind : Expr
  deriving Inhabited

structure TileGrid where
  tiles : List GridTile
  properties : Dict (Int × Option Position)
  pos : Position
  deriving Inhabited

namespace TileGrid

/-- Tiles of named kinds take a longer form. -/
def size (g : TileGrid) : Nat :=
  Number.total (g.tiles.map fun t => if t.kind.isConstant then 3 else 5) + 2

def rotation (g : TileGrid) : Int := ((g.properties.get? "rotation").map (·.1)).getD 0

end TileGrid

inductive PropertyValue where
  | number (value : Int)
  | label (text : String)
  deriving Repr, DecidableEq, Inhabited

structure PlatformLayout where
  length : Nat
  platforms : List (List Int)
  deriving Repr, DecidableEq, Inhabited

inductive PropertyData where
  | values (number : Int) (values : List PropertyValue) (size : Nat)
  | lists (number : Int) (lists : List (List Int)) (size : Nat) (extended : Bool)
  | platforms (number : Int) (layouts : List PlatformLayout)
  /-- Layouts, each with its direction where that matters. -/
  | grids (number : Int) (grids : List TileGrid) (rotated : Bool)
  | sounds (number : Int) (sounds : List Int)
  | bytes (number : Int) (bytes : List Int)
  | matrix (number : Int) (rows : List (List Int))
  | labels (number : Int) (labels : List Expr)
  /-- Bytes that are only known when they are written. -/
  | lateBytes (number : Int) (items : List Expr) (title : String) (pos : Option Position)
  | labelTable (number : Int) (labels : List String)
  | byteTable (number : Int) (bytes : List Int)
  | names (number : Int) (names : List (Int × String))
  | takeover (number : Int) (source target : Int)
  /-- The numbers of the sprites are reduced once more when they are written. -/
  | stationLayouts (number : Int) (layouts : List Layout) (sprites : List Expr)
  deriving Inhabited

namespace PropertyValue

def pieces (size : Nat) : PropertyValue → List Piece
  | number v => Piece.ofSize v size
  | label text => [.ascii text]

end PropertyValue

def inRows (count : Nat) (pieces : List (List Piece)) : List Piece :=
  pieces.zipIdx.flatMap fun (p, i) => if i > 0 && i % count == 0 then .line :: p else p

namespace PropertyData

def listPieces (size : Nat) (extended : Bool) (values : List Int) : List Piece :=
  (if extended then [Piece.hex 0xFF, .word values.length] else [Piece.byte values.length])
    ++ (if values.isEmpty then [] else
      Piece.line :: inRows 8 (values.map fun v => Piece.ofSize v size))
    ++ [Piece.line]

def fixedPieces : PropertyData → List Piece
  | values number vs size => Piece.hex number :: vs.flatMap (·.pieces size) ++ [Piece.line]
  | lists number ls size extended => Piece.hex number :: ls.flatMap (listPieces size extended)
  | platforms number layouts =>
    Piece.hex number :: layouts.flatMap (fun l =>
      [Piece.byte l.length, .byte l.platforms.length, .line]
        ++ l.platforms.flatMap fun p => p.map .hex ++ [Piece.line])
      ++ [Piece.byte 0, .byte 0, .line]
  | sounds number vs => Piece.hex number :: .byte vs.length :: vs.map .hex ++ [Piece.line]
  | bytes number vs => Piece.hex number :: vs.map .hex ++ [Piece.line]
  | matrix number rows =>
    Piece.hex number :: match rows with
      | [] => [Piece.byte 0, .byte 0]
      | row :: _ => [Piece.byte rows.length, .byte row.length, .line]
        ++ rows.flatMap fun r => r.map .wordHex ++ [Piece.line]
  | labelTable number ls =>
    Piece.hex number :: inRows 5 (ls.map fun l => [Piece.ascii l]) ++ [Piece.line]
  | byteTable number vs =>
    Piece.hex number :: .line :: inRows 8 (vs.map fun v => [Piece.hex v]) ++ [Piece.line]
  | names number ns =>
    Piece.hex number :: ns.flatMap (fun (i, name) => [Piece.hex i, .string name])
      ++ [Piece.hex 0, .line]
  | takeover number source target =>
    [Piece.hex number, .dwordHex source, .dwordHex target, .line]
  | _ => []

def size : PropertyData → Nat
  | grids _ gs rotated => 6 + Number.total (gs.map fun g => g.size + rotated.toNat)
  | labels _ ls => 2 + 4 * ls.length
  | lateBytes _ items _ _ => 1 + items.length
  | stationLayouts _ layouts _ => 2 + Piece.sizeOf (layouts.flatMap (·.pieces fun _ => 0))
  | d => Piece.sizeOf d.fixedPieces

end PropertyData

structure PropertyAction where
  feature : Int
  first : Int
  count : Nat := 1
  properties : List PropertyData
  deriving Inhabited

end NewGrf
