import NewGrf.Expr.Reduce
import NewGrf.Graph.Write

namespace NewGrf

namespace TileGrid

def namedKind : Expr → Build (List Piece)
  | .num v _ => pure [.hex v]
  | .ident name pos => do
    match (← get).names.items.get? name with
    | none => Build.fail "Unknown tile name" pos
    | some item =>
      match item.id with
      | .num v _ => pure [Piece.hex 0xFE, .wordHex v]
      | _ =>
        Build.fail ("Tile '" ++ name
          ++ "' cannot be used in a tilelayout, as its ID is not a constant.") pos
  | e => Build.fail "Invalid expression type for layout tile" e.pos

def pieces (g : TileGrid) : Build (List Piece) := do
  let tiles ← g.tiles.mapM fun t => do
    pure ([Piece.hex t.x, .hex t.y] ++ (← namedKind t.kind) ++ [Piece.line])
  pure (tiles.flatten ++ [Piece.hex 0, .hex 0x80, .line])

end TileGrid

namespace PropertyData

def pieces (d : PropertyData) : Build (List Piece) := do
  match d with
  | grids number gs rotated =>
    let body ← gs.mapM fun g => do
      pure ((if rotated then [Piece.hex g.rotation] else []) ++ (← g.pieces))
    pure ([Piece.hex number, .byte gs.length, .dword ((d.size : Int) - 6), .line] ++ body.flatten
      ++ [Piece.line])
  | labels number ls =>
    let body ← ls.mapM fun l => do
      discard (Build.ofExcept l.label)
      match l with
      | .literal text _ => pure [Piece.ascii text]
      | _ => pure []
    pure ([Piece.hex number, .byte ls.length] ++ body.flatten ++ [Piece.line])
  | lateBytes number items title pos =>
    let body ← items.mapM fun e => do
      let (v, _) ← e.reduceConstant
      if v > 0xFF || v < 0 then Build.fail (title ++ " items must be bytes") pos
      pure (Piece.byte v)
    pure (Piece.hex number :: body ++ [Piece.line])
  | stationLayouts number layouts sprites =>
    sprites.forM fun e => discard e.reduce
    let registers := (← get).graph.numbering.registers
    pure ([Piece.hex number, .byte layouts.length, .line] ++ layouts.flatMap (·.pieces registers))
  | d => pure d.fixedPieces

end PropertyData

end NewGrf
