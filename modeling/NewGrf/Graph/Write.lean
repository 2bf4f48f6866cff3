import NewGrf.Graph.Basic
import NewGrf.Text.Hex
import NewGrf.Text.Integer

namespace NewGrf

/-- A number is told from a node by its highest bit. -/
def Result.code (n : Numbering) : Result → Int
  | number v => Number.bitOr v 0x8000
  | node i => n.nodes i

namespace ChainNode

def body (n : Numbering) (c : ChainNode) : List Piece :=
  [Piece.hex c.varRange.code, .line] ++ c.chain.pieces n ++ [Piece.byte c.ranges.length, .line]
    ++ c.ranges.flatMap (fun r =>
      [Piece.wordHex (r.result.code n), .dwordHex r.low, .dwordHex r.high, .line r.note])
    ++ [Piece.wordHex (c.default.code n), .comment c.defaultNote]

end ChainNode

def RandomNode.body (n : Numbering) (r : RandomNode) : List Piece :=
  Piece.hex r.kind :: (r.count.map Piece.hex).toList
    ++ [Piece.hex r.triggers, .byte r.firstBit, .hex r.draws, .line]
    ++ r.choices.flatMap fun c =>
      List.replicate c.weight (.wordHex (c.result.code n)) ++ [Piece.comment c.note]

namespace Production

def body (n : Numbering) (p : Production) : List Piece :=
  let number (r : RegisterRef) : Piece := .hex (r.number n.registers)
  let rows (cargos : List (Int × RegisterRef)) : List Piece :=
    Piece.byte cargos.length :: cargos.flatMap fun (cargo, r) => [Piece.hex cargo, number r]
  (match p with
    | amounts values again => Piece.hex 0 :: values.map .wordHex ++ [Piece.hex again]
    | registers values again => Piece.hex 1 :: values.map number ++ [number again]
    | cargos taken made again => Piece.hex 2 :: rows taken ++ rows made ++ [number again])
    ++ [Piece.line]

end Production

def ItemGraphics.pieces (n : Numbering) (feature : Int) (g : ItemGraphics) : List Piece :=
  let size := if feature ≤ 3 || 0xFF ≤ g.id then 3 else 1
  Piece.sprite ([Piece.hex 3, .hex feature, .hex (if g.isOverride then 0x81 else 1)]
    ++ Piece.ofSize g.id size ++ [Piece.byte g.cargos.length, .line]
    ++ g.cargos.flatMap (fun (cargo, result, note) =>
      [Piece.hex cargo, .wordHex (result.code n), .line note])
    ++ [Piece.wordHex ((g.default.map (·.code n)).getD 0), .line g.defaultNote])

namespace Node

def paramNotes (n : Numbering) (params : List (Nat × String)) : List Piece :=
  params.map fun (cell, name) =>
    .comment (name ++ " : register " ++ hexText 1 (n.registers cell))

def numbered (node : Node) (notes body : List Piece) : List Piece :=
  Piece.comment ("Name: " ++ node.name) :: notes
    ++ Piece.sprite ([Piece.hex 2, .hex node.feature, .hex (node.id.getD 0)] ++ body)

def pieces (n : Numbering) (node : Node) : List Piece :=
  match node.body with
  | .chain c => node.numbered (paramNotes n c.params) (c.body n)
  | .random r => node.numbered [] (r.body n)
  | .layout l params _ => node.numbered (paramNotes n params) (l.pieces n.registers)
  | .production p => node.numbered [] (p.body n)
  | .sets loaded loading =>
    node.numbered [] ([Piece.byte loaded.length, .byte loading.length, .line] ++ loaded.map .word
      ++ [Piece.line] ++ loading.map .word ++ [Piece.line])
  | .item g => g.pieces n node.feature

end Node

namespace Graph

def numbering (g : Graph) : Numbering :=
  { registers := fun cell => (g.register cell).getD 0
    nodes := fun i => ((g.node i).id.map Int.ofNat).getD 0
    goesOn := fun load => g.goesOn.contains load }

end Graph

end NewGrf
