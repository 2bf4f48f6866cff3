import NewGrf.Action.Basic
import NewGrf.Language.Wording
import NewGrf.Output.Nfo
import NewGrf.Property.Write
import NewGrf.Sprite.Recolour

namespace NewGrf

inductive Entry where
  | data (pieces : List Piece)
  /-- One image, given for several zoom levels and colour depths. A blank line follows the last one
  of a list. -/
  | images (sprites : List ImageSprite) (last : Bool)
  | file (name : String)
  deriving Inhabited

namespace Entry

/-- What is written before a value that does not fit. -/
def fitting : Entry → Entry
  | data pieces => data (pieces.takeWhile Piece.fits)
  | e => e

def fits : Entry → Bool
  | data pieces => pieces.all Piece.fits
  | _ => true

end Entry

def Nfo.writeEntry : Entry → Nfo.Write Unit
  | .data pieces => pieces.forM Nfo.write
  | .images sprites last => do
    Nfo.images sprites
    if last then Nfo.line "" "\t"
  | .file name => Nfo.attach name

namespace ParamStep

private def operandText (number : Int) (data : Option Int) : String :=
  if number == 0xFF then (data.map toString).getD "None" else "param[" ++ toString number ++ "]"

def pieces (a : ParamStep) : List Piece :=
  let left := operandText a.left a.data
  let right := operandText a.right a.data
  let (code, mnemonic) := a.op.assignCode?.getD (0, "")
  let text := if a.op == .assign then left else a.op.write left right
  Piece.comment ("param[" ++ toString a.target ++ "] = " ++ text) :: Piece.sprite
    ([Piece.hex 0x0D, .hex a.target, .byteHex code (some mnemonic), .hex a.left, .hex a.right]
      ++ (a.data.map Piece.dwordHex).toList ++ [Piece.line])

def settled (a : ParamStep) : Build ParamStep := do
  match a.count with
  | some p =>
    let kept := p.isOwn && !(← Build.isTurned a.count)
    pure (if kept then { a with data := a.data.map fun v => -v } else a)
  | none => pure a

end ParamStep

def Reserve.pieces (r : Reserve) : List Piece :=
  Piece.comment ("param[" ++ toString r.target ++ "] = param[\\DR]") :: Piece.sprite
    [Piece.hex 0x0D, .hex r.target, .byteHex 0 (some "\\D="), .byteHex 0 (some "\\DR"), .hex 0xFE,
      .dwordHex (Number.signed32 (0xFF + r.feature * 0x100 + r.count * 0x10000)), .line]

def Patch.pieces (p : Patch) : List Piece :=
  [.hex p.param, .hex p.size, .hex 0xFF, .wordHex p.offset, .line]

namespace Skip

/-- The value to compare with; one of eight bytes has a mask in its upper half. -/
def valuePieces (s : Skip) : List Piece :=
  if s.size == 8 then
    [.dwordHex (Number.unsigned32 s.value), .dwordHex (Number.shiftRight s.value 32)]
  else Piece.ofSize s.value s.size

def pieces (s : Skip) : List Piece :=
  Piece.sprite ([Piece.hex s.kind, .hex s.param, .hex s.size, .byteHex s.code s.mnemonic]
    ++ s.valuePieces ++ [Piece.hex s.target, .line])

end Skip

def TextAction.pieces (t : TextAction) : List Piece :=
  let lang : Int := if t.size == 2 then Number.bitOr t.lang 0x80 else t.lang
  Piece.sprite ([Piece.hex 4, .hex t.feature, .hex lang, .hex t.texts.length]
    ++ Piece.ofSize t.first t.size ++ t.texts.map .string ++ [Piece.line])

def PropertyAction.pieces (p : PropertyAction) : Build (List Piece) := do
  let body ← p.properties.mapM PropertyData.pieces
  pure (Piece.sprite ([Piece.hex 0, .hex p.feature, .byte p.properties.length, .hex p.count,
    .hex 0xFF, .wordHex p.first, .line] ++ body.flatten))

def Message.pieces (m : Message) : List Piece :=
  let text : List Piece := match m.text with
    | .known n => [.hex n]
    | .own t => [.hex 0xFF, .string t]
  let data : List Piece := match m.data with
    | some d => Piece.string d :: m.params.map .hex
    | none => []
  Piece.sprite ([Piece.hex 0x0B, .hex m.severity, .hex m.lang] ++ text ++ data ++ [Piece.line])

namespace SpriteAction

def entry (s : SpriteAction) : Build Entry := do
  let close : List Piece := if s.last then [.line] else []
  match s.shape with
  | .images sprites =>
    match sprites with
    | [] | none :: _ => pure (.data (Piece.emptySprite ++ close))
    | _ => pure (.images (sprites.filterMap fun i => i) s.last)
  | .recolour lines =>
    let table ← Recolour.written lines
    let rows := table.zipIdx.flatMap fun (c, i) =>
      if i % 16 == 0 then [Piece.line, .hex c] else [Piece.hex c]
    pure (.data (Piece.sprite (Piece.hex 0 :: rows ++ close)))

end SpriteAction

def Action.entry : Action → Build Entry
  | .assign a => do pure (.data (← a.settled).pieces)
  | .reserve r => pure (.data r.pieces)
  | .patch ps => pure (.data (Piece.sprite
      ([Piece.hex 6, .line] ++ ps.flatMap Patch.pieces ++ [Piece.hex 0xFF, .line])))
  | .skip s => pure (.data s.pieces)
  | .label n => pure (.data (Piece.sprite [Piece.hex 0x10, .hex n, .line]))
  | .properties p => do pure (.data (← p.pieces))
  | .texts t => pure (.data t.pieces)
  | .info n => do
    let s ← get
    let late : InfoNode.Late := { palette := s.paletteLetter, depth := s.depthLetter }
    pure (.data (Piece.sprite (Piece.hex 0x14 :: n.pieces late ++ [Piece.hex 0])))
  | .head grfid name desc => do
    let name ← Language.wording name
    let desc ← Language.wording desc
    pure (.data (Piece.sprite [.hex 8, .hex 8, .ascii grfid, .string name, .string desc]))
  | .count n => pure (.data (Piece.sprite [.dword n, .line]))
  | .message m => pure (.data m.pieces)
  | .turnOff ids => pure (.data (Piece.sprite
      ([Piece.hex 0x0E, .byte ids.length] ++ ids.flatMap (fun i => [Piece.line, .dwordHex i])
        ++ [Piece.line])))
  | .town index => do
    let block := (← get).towns.blocks[index]?.getD { parts := [], pos := .line "" 0 }
    pure (.data block.sprite)
  | .sprite s => s.entry
  | .replace sets => pure (.data (Piece.sprite
      ([Piece.hex 0x0A, .byte sets.length]
        ++ sets.flatMap (fun (n, first) => [Piece.byte n, .word first]) ++ [Piece.line])))
  | .extra kind n offset =>
    let (kind, tail) : Int × List Piece := match offset with
      | some o => (Number.bitOr kind 0x80, [Piece.hex 0xFF, .word o])
      | none => (kind, [])
    pure (.data (Piece.sprite
      ([Piece.hex 5, .hex kind, .hex 0xFF, .word n] ++ tail ++ [Piece.line])))
  | .glyphs sets => pure (.data (Piece.sprite
      ([Piece.hex 0x12, .byte sets.length, .line]
        ++ sets.flatMap fun (size, n, first) => [Piece.hex size, .byte n, .word first, .line])))
  | .soundCount n => pure (.data (Piece.sprite [Piece.hex 0x11, .word n]))
  | .soundFile name _ => pure (.file name)
  | .importSound owner number => pure (.data (Piece.sprite
      [.hex 0xFE, .hex 0, .dwordHex owner, .wordHex number]))
  | .spriteSets feature first sets sprites =>
    let head : List Piece := if first == 0 && sets < 256 then [Piece.byte sets]
      else .hex 0 :: Piece.ofSize first 3 ++ Piece.ofSize sets 3
    pure (.data (Piece.sprite
      ([Piece.hex 1, .hex feature] ++ head ++ Piece.ofSize sprites 3 ++ [Piece.line])))
  | .collection _ => pure (.data [])
  | .node i | .graphics i => do
    let graph := (← get).graph
    if let .layout _ _ numbers := (graph.node i).body then
      numbers.forM fun e => discard e.reduce
    pure (.data ((graph.node i).pieces graph.numbering))

end NewGrf
