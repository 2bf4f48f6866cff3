import NewGrf.Language.Wording
import NewGrf.Town.Prepare

namespace NewGrf.Town

def modifyRegistry (f : Registry → Registry) : Build Unit :=
  modify fun s => { s with towns := f s.towns }

def modifyBlock (index : Nat) (f : Block → Block) : Build Unit :=
  modifyRegistry fun r => { r with blocks := r.blocks.modify index f }

def indexOf (number : Int) : Build Nat := do pure (((← get).towns.ids.lookup number).getD 0)

def firstFree (taken : List Int) : Nat → Int → Option Int
  | 0, _ => none
  | fuel + 1, n =>
    if n ≥ total then none else if taken.contains n then firstFree taken fuel (n + 1) else some n

def newNumber : Build Int := do
  let r := (← get).towns
  match firstFree r.taken (total + 1) r.next with
  | some n =>
    modifyRegistry fun r => { r with taken := n :: r.taken, next := n + 1 }
    pure n
  | none =>
    Build.fail ("Too many town name blocks. Some of these are autogenerated."
      ++ " Please use less town names.")

def resolvePiece (p : Piece) : Build Piece := do
  let r := (← get).towns
  match p.source with
  | .text _ => pure p
  | .named name =>
    match r.names.get? name with
    | some n => pure { p with number := n }
    | none =>
      Build.fail ("Town names name \"" ++ name
        ++ "\" is not defined or points to a next town_names node") p.pos
  | .numbered n =>
    if r.numbers.contains n then pure { p with number := n }
    else
      Build.fail ("Town names number \"" ++ toString n
        ++ "\" is not defined or points to a next town_names node") p.pos

def resolve (parts : List Part) : Build (List Part) :=
  parts.mapM fun p => do pure { p with pieces := ← p.pieces.mapM resolvePiece }

def Part.references (p : Part) : List Int :=
  let numbers := p.pieces.filterMap fun piece => match piece.source with
    | .text _ => none
    | _ => some piece.number
  numbers.eraseDups.mergeSort fun a b => a ≤ b

/-- Lets a part use bits from a start on; bits that it has are only moved up. -/
def Part.startAt (p : Part) (start : Int) : Part :=
  let cases := Number.intTotal (p.pieces.map (·.probability))
  { p with
    firstBit := max p.firstBit start
    bits := some (p.bits.getD (bitsFor cases 64 1)) }

/-- Where the next part starts. A part with one piece needs no bits of its own. -/
def Part.nextStart (p : Part) (start : Int) : Int :=
  if p.pieces.length > 1 then start + (p.startAt start).bits.getD 0 else start

/-- Lets the parts of a block use bits from a start on, and moves those of the blocks that use it.
A block is used by later blocks only, which bounds the depth. The result is the next free bit. -/
def assignBits : Nat → Nat → Int → Build Int
  | 0, _, start => pure start
  | fuel + 1, index, start => do
    let block := (← get).towns.blocks[index]?.getD { parts := [], pos := .line "" 0 }
    (List.range block.parts.length).foldlM (fun start i => do
      let part := block.parts[i]?.getD { pieces := [], pos := block.pos }
      modifyBlock index fun b => { b with parts := b.parts.modify i (·.startAt start) }
      let start := part.nextStart start
      block.users.forM fun user => do
        discard (assignBits fuel (← indexOf user) start)
      pure start) start

def number (index : Nat) (b : Block) : Build Int := do
  match b.number with
  | some n =>
    modifyRegistry fun r => { r with numbers := n :: r.numbers, ids := (n, index) :: r.ids }
    pure n
  | none =>
    let n ← newNumber
    if let some name := b.name then
      if (← get).towns.names.contains name then
        Build.fail ("Cannot define town name \"" ++ name ++ "\", it is already in use") b.pos
      modifyRegistry fun r => { r with names := r.names.set name n }
    modifyRegistry fun r => { r with ids := (n, index) :: r.ids }
    modifyBlock index fun b => { b with number := some n }
    pure n

def styleNames (style : Option Expr) : Build (List (Nat × String)) := do
  match style with
  | none => pure []
  | some e =>
    Language.demandText e
    let langs ← Language.differing e
    let others ← langs.mapM fun lang => do pure (lang, ← Language.wording e lang)
    let all := others ++ [(Language.masterId, ← Language.wording e)]
    pure (all.mergeSort fun a b => a.1 < b.1 || (a.1 == b.1 && a.2 ≤ b.2))

/-- Places a block that a part of another one refers to, and tells it who uses it. -/
def use (own : Int) (fuel : Nat) (start top ref : Int) : Build Int := do
  let i ← indexOf ref
  let next ← assignBits fuel i start
  modifyBlock i fun b =>
    if b.users.contains own then b else { b with users := b.users ++ [own] }
  pure (max top next)

def placeParts (index : Nat) (parts : List Part) (pos : Position) (start : Int) : Build Int :=
  (List.range parts.length).foldlM (fun start i => do
    modifyBlock index fun b => { b with parts := b.parts.modify i (·.startAt start) }
    pure ((parts[i]?.getD { pieces := [], pos }).nextStart start)) start

/-- Links a block with the earlier ones that it uses. References of one part may share bits, those
of different parts may not. -/
def link (index : Nat) : Build Unit := do
  let b := (← get).towns.blocks[index]?.getD { parts := [], pos := .line "" 0 }
  let parts ← resolve b.parts
  modifyBlock index fun b => { b with parts }
  let own ← number index b
  let fuel := (← get).towns.blocks.size + 1
  let start ← (parts.map Part.references).foldlM
    (fun start refs => refs.foldlM (use own fuel start) start) 0
  let start ← placeParts index parts b.pos start
  if start > 32 then
    Build.fail ("Not enough random bits for the town name generation (" ++ toString start
      ++ " needed, 32 available)") b.pos
  let r := (← get).towns
  let styles ← styleNames b.style
  modifyRegistry fun _ => { r with blocks := r.blocks.modify index fun b => { b with styles } }

end NewGrf.Town
