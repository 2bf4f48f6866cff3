import NewGrf.Expr.Reduce
import NewGrf.Heap

namespace NewGrf.Town

def maxPieces : Nat := 255

/-- A piece with its place in the part, which tells it from pieces that are equal to it. -/
abbrev Placed := Piece × Nat

/-- Pieces that go into one block, and the sum of their probabilities. -/
structure Bin where
  weight : Int
  index : Nat
  pieces : List Placed
  deriving Inhabited

def Bin.before (a b : Bin) : Bool :=
  a.weight < b.weight || (a.weight == b.weight && a.index < b.index)

/-- The least power of two from a start that is not less than a number. -/
def powerFrom (n : Nat) : Nat → Nat → Nat
  | 0, p => p
  | fuel + 1, p => if p < n then powerFrom n fuel (p * 2) else p

/-- The number of blocks to spread pieces over: a power of two, if there are few. -/
def binCount (pieces : Nat) : Nat :=
  let needed := (pieces + maxPieces - 1) / maxPieces
  let power := powerFrom needed needed 1
  if power < maxPieces then power else needed

/-- Puts a piece into the lightest block that has room. Blocks without room are done. -/
def putInto (piece : Placed) : Nat → Array Bin → List Bin → Array Bin × List Bin
  | 0, heap, full => (heap, full)
  | fuel + 1, heap, full =>
    match Heap.pop? Bin.before heap with
    | none => (heap, full)
    | some (bin, rest) =>
      if bin.pieces.length < maxPieces then
        let bin := { bin with
          weight := bin.weight + piece.1.probability, pieces := bin.pieces ++ [piece] }
        (Heap.push Bin.before rest bin, full)
      else putInto piece fuel rest (full ++ [bin])

def spread (pieces : List Piece) : List Bin :=
  let count := binCount pieces.length
  let empty : Array Bin := (List.range count).foldl (fun h i =>
    Heap.push Bin.before h { weight := 0, index := i, pieces := [] }) #[]
  let order := pieces.zipIdx.mergeSort fun a b =>
    a.1.probability > b.1.probability || (a.1.probability == b.1.probability && a.2 ≥ b.2)
  let (heap, full) := order.foldl (fun (heap, full) p => putInto p (count + 1) heap full)
    (empty, [])
  full ++ heap.toList

/-- The number of bits that can tell so many cases apart, at least one. -/
def bitsFor (cases : Int) : Nat → Nat → Nat
  | 0, n => n
  | fuel + 1, n => if Number.twoPow n < cases then bitsFor cases fuel (n + 1) else n

/-- Blocks that were made, and what the part has left with references to them. -/
structure Moving where
  blocks : List Block := []
  own : List (Piece × Option Nat)

/-- Makes a block of some pieces, takes them out of the part and refers to the block there. -/
def moveBin (pos : Position) (bits : Nat) (m : Moving) (bin : Bin) : Build Moving := do
  let serial := (← get).towns.serial + 1
  modify fun s => { s with towns := { s.towns with serial } }
  let name := "**townname #" ++ toString serial ++ "**"
  let block : Block :=
    { title := name, name := some name, pos
      parts := [{ pieces := bin.pieces.map Prod.fst, pos, bits := some bits }] }
  let kept := m.own.filter fun x => !bin.pieces.any fun moved => x.2 == some moved.2
  unless kept.length + bin.pieces.length == m.own.length do Build.crash
  let ref : Piece := { source := .named name, probability := 1, pos }
  pure { blocks := m.blocks ++ [block], own := kept ++ [(ref, none)] }

/-- Moves the pieces of a part that is too large to blocks of their own. All of these use the same
number of bits, so that their pieces keep their chances. -/
def movePieces (p : Part) : Build (List Block × Part) := do
  if p.pieces.length ≤ maxPieces then return ([], p)
  let bins := spread p.pieces
  let heaviest := (bins.map (·.weight)).foldl max 0
  let bits := bitsFor heaviest heaviest.toNat 1
  let own := p.pieces.zipIdx.map fun x => (x.1, some x.2)
  let moved ← bins.foldlM (moveBin p.pos bits) { own }
  pure (moved.blocks, { p with pieces := moved.own.map Prod.fst })

def readProbability (e : Expr) (pos : Position) : Build Int := do
  let (v, _) ← e.reduceConstant
  if v < 0 || v > 0x7F then
    Build.fail "Probability out of range (must be between 0 and 0x7f inclusive)." pos
  pure v

def readPiece : TownPiece → Build Piece
  | .text key text _ probability pos => do
    unless key.text == "text" do Build.fail "Expected 'text' prefix." pos
    pure { source := .text text, probability := ← readProbability probability pos, pos }
  | .block ref probability pos => do
    let source ← match ref with
      | .ident name _ => pure (Source.named name)
      | e => do
        let (v, _) ← e.reduceConstant
        if v < 0 || v > 0x7F then
          Build.fail "Reference number out of range (must be between 0 and 0x7f inclusive)." pos
        pure (.numbered v)
    pure { source, probability := ← readProbability probability pos, pos }

def readPart (pieces : List TownPiece) (pos : Position) : Build (List Block × Part) := do
  let kept ← pieces.filterMapM fun piece => do
    let p ← readPiece piece
    if p.probability == 0 then
      Build.warn "Dropping town name piece with 0 probability." p.pos .optimisation
      pure none
    else pure (some p)
  let (blocks, part) ← movePieces { pieces := kept, pos }
  if part.pieces.isEmpty then
    Build.fail "Expected names and/or town_name references in the part." pos
  if part.pieces.length > maxPieces then
    Build.fail ("Too many values in a part, found " ++ toString part.pieces.length
      ++ ", maximum is 255") pos
  pure (blocks, part)

structure Draft where
  before : List Block := []
  parts : List Part := []
  style : Option Expr := none

def addEntry (pos : Position) (d : Draft) : TownEntry → Build Draft
  | .part pieces p => do
    let (blocks, part) ← readPart pieces p
    pure { d with before := d.before ++ blocks, parts := d.parts ++ [part] }
  | .styles key value p => do
    unless key.text == "styles" do Build.fail "Expected 'styles' keyword." p
    if let .string _ (_ :: _) _ := value then
      Build.fail "Parameters of the 'styles' were not expected." p
    if d.style.isSome then Build.fail "'styles' is already defined." pos
    pure { d with style := some value }

def takeNumber (e : Expr) (pos : Position) : Build Int := do
  let (v, _) ← e.reduceConstant
  if v < 0 || v > 0x7F then
    Build.fail "ID must be a number between 0 and 0x7f (inclusive)" pos
  if (← get).towns.taken.contains v then
    Build.fail ("town names ID 0x" ++ hexLower v ++ " is already used.") pos
  modify fun s => { s with towns := { s.towns with taken := v :: s.towns.taken } }
  pure v

def read (t : TownNames) : Build (List Block) := do
  let d ← t.entries.foldlM (addEntry t.pos) {}
  if d.parts.isEmpty then Build.fail "Missing name parts in a town_names item." t.pos
  let block : Block := { style := d.style, parts := d.parts, pos := t.pos }
  let block ← match t.name with
    | none => pure block
    | some (.ident name _) => pure { block with title := name, name := some name }
    | some e => do pure { block with title := e.text, number := some (← takeNumber e t.pos) }
  pure (d.before ++ [block])

end NewGrf.Town
