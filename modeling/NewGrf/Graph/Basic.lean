import NewGrf.Chain.Basic
import NewGrf.Layout.Basic
import NewGrf.Script.Basic

namespace NewGrf

inductive Result where
  | number (value : Int)
  | node (index : Nat)
  deriving Repr, DecidableEq, Inhabited

structure ResultRange where
  low : Int
  high : Int
  result : Result
  note : String := ""
  deriving Repr, DecidableEq, Inhabited

/-- Computes a value and chooses by it. Without ranges the value itself is the result. -/
structure ChainNode where
  varRange : VarRange := .self
  params : List (Nat × String) := []
  chain : Chain := []
  ranges : List ResultRange := []
  default : Result := .number 0
  defaultNote : String := ""
  deriving Repr, DecidableEq, Inhabited

structure RandomResult where
  result : Result
  weight : Nat
  note : String
  deriving Repr, DecidableEq, Inhabited

structure RandomNode where
  kind : Int
  /-- How far to go along a chain of vehicles. -/
  count : Option Int
  triggers : Int
  firstBit : Nat
  /-- The number of draws, which is a power of two. -/
  draws : Nat
  choices : List RandomResult := []
  deriving Repr, DecidableEq, Inhabited

inductive Production where
  | amounts (values : List Int) (again : Int)
  | registers (values : List RegisterRef) (again : RegisterRef)
  | cargos (taken made : List (Int × RegisterRef)) (again : RegisterRef)
  deriving Repr, DecidableEq, Inhabited

structure ItemGraphics where
  id : Int
  isOverride : Bool := false
  cargos : List (Int × Result × String) := []
  default : Option Result := none
  defaultNote : String := ""
  deriving Repr, DecidableEq, Inhabited

inductive NodeBody where
  | chain (c : ChainNode)
  | random (r : RandomNode)
  /-- The numbers of the sprites are reduced once more when they are written. -/
  | layout (l : Layout) (params : List (Nat × String)) (numbers : List Expr)
  | production (p : Production)
  | sets (loaded loading : List Int)
  | item (g : ItemGraphics)
  deriving Inhabited

/-- A reference to a node. A node that is called comes back to the one that calls it. -/
structure Reference where
  target : Nat
  isCall : Bool := false
  deriving Repr, DecidableEq, Inhabited

structure Node where
  feature : Int
  name : String
  pos : Option Position
  body : NodeBody
  references : List Reference := []
  /-- How many references there are to the node that have not been let go. -/
  refCount : Nat := 0
  id : Option Nat := none
  registers : List Int := (List.range 0x7F).map fun (i : Nat) => (i : Int) + 0x80
  deriving Inhabited

structure Graph where
  nodes : Array Node := #[]
  /-- Numbers for nodes; the last one is given out first. -/
  freeIds : Array Nat := Array.range 0x100
  idPeak : Nat × Option Position := (0, none)
  cells : Array (Option Int) := #[]
  registerPeak : Nat × Option Position := (0, none)
  /-- How many loads there are, and those behind which a chain goes on in some place. -/
  loads : Nat := 0
  goesOn : List Nat := []
  deriving Inhabited

namespace Graph

def node (g : Graph) (i : Nat) : Node := g.nodes[i]?.getD default

def modifyNode (g : Graph) (i : Nat) (f : Node → Node) : Graph :=
  { g with nodes := g.nodes.modify i f }

def addNode (g : Graph) (n : Node) : Nat × Graph :=
  (g.nodes.size, { g with nodes := g.nodes.push n })

def addCell (g : Graph) : Nat × Graph := (g.cells.size, { g with cells := g.cells.push none })

def addLoad (g : Graph) : Nat × Graph := (g.loads, { g with loads := g.loads + 1 })

def addReference (g : Graph) (source : Nat) (r : Reference) : Graph :=
  (g.modifyNode source fun n => { n with references := n.references ++ [r] }).modifyNode r.target
    fun n => { n with refCount := n.refCount + 1 }

/-- Lets go of a reference. The number of a node that nothing refers to any more is free again. -/
def release (g : Graph) (r : Reference) : Graph :=
  let g := g.modifyNode r.target fun n => { n with refCount := n.refCount - 1 }
  let target := g.node r.target
  match target.refCount, target.id with
  | 0, some id => { g with freeIds := g.freeIds.push id }
  | _, _ => g

def releaseAll (g : Graph) (i : Nat) : Graph := (g.node i).references.foldl release g

private def noIdFault (pos : Option Position) : Fault :=
  { cause := .script ("Unable to allocate ID for [random]switch, sprite set/layout/group or "
      ++ "produce-block. Try reducing the number of such blocks."), pos }

/-- Gives a node a number. One that nothing refers to borrows a number that is free. -/
def giveId (g : Graph) (i : Nat) : Except Fault Graph :=
  let n := g.node i
  if n.refCount == 0 then
    match g.freeIds[0]? with
    | some id => .ok (g.modifyNode i fun n => { n with id := some id })
    | none => .error (noIdFault n.pos)
  else
    match g.freeIds.back? with
    | some id =>
      let g := { g.modifyNode i (fun n => { n with id := some id }) with freeIds := g.freeIds.pop }
      let used := 0x100 - g.freeIds.size
      .ok (if g.idPeak.1 < used then { g with idPeak := (used, n.pos) } else g)
    | none => .error (noIdFault n.pos)

/-- What happens to a node when its turn to be written has come: it lets go of the nodes that it
refers to, and gets its number. -/
def link (g : Graph) (i : Nat) : Except Fault Graph :=
  let g := g.releaseAll i
  match (g.node i).body with
  | .item _ => .ok g
  | .chain c => do
    let g ← g.giveId i
    pure { g with goesOn := g.goesOn ++ c.chain.loadsBefore }
  | _ => g.giveId i

/-- Takes a register away from a node, and from the nodes that it calls. With `all` it is taken away
from everything that can be reached. References go to earlier nodes only, which bounds the depth. -/
def removeRegister : Nat → Int → Bool → Graph → Nat → Graph
  | 0, _, _, g, _ => g
  | fuel + 1, register, all, g, i =>
    let n := g.node i
    let g :=
      if n.registers.contains register then
        let g := g.modifyNode i fun n => { n with registers := n.registers.erase register }
        let used := 0x7F - (g.node i).registers.length
        if g.registerPeak.1 < used then { g with registerPeak := (used, n.pos) } else g
      else g
    n.references.foldl (fun g r =>
      if all || r.isCall then removeRegister fuel register true g r.target else g) g

def takeRegister (g : Graph) (i : Nat) (register : Int) : Graph :=
  removeRegister (g.nodes.size + 1) register false g i

private def noRegisterFault (pos : Option Position) : Fault :=
  { cause := .script ("There are not enough registers available to perform all required "
      ++ "computations in switch blocks. Please reduce the complexity of your code."), pos }

/-- Gives a cell the first register that the node has left. -/
def giveRegister (g : Graph) (i cell : Nat) : Except Fault Graph :=
  let n := g.node i
  match n.registers with
  | [] => .error (noRegisterFault n.pos)
  | register :: _ =>
    let g := g.takeRegister i register
    .ok { g with cells := g.cells.setIfInBounds cell (some register) }

def register (g : Graph) (cell : Nat) : Option Int := (g.cells[cell]?).join

def loadedArguments (c : Chain) : List Nat := c.filterMap fun s => match s with
  | .term (.argument cell _ _) => some cell
  | _ => none

def storedCells (c : Chain) : List Nat := c.filterMap fun s => match s with
  | .term (.store cell _) => some cell
  | _ => none

/-- Gives registers to the cells of a node. Nodes get theirs from the last one to the first, so that
those of a caller are known before those of what it calls. -/
def giveRegisters (g : Graph) (i : Nat) : Except Fault Graph :=
  match (g.node i).body with
  | .chain c =>
    let g := (loadedArguments c.chain).foldl (fun g cell => match g.register cell with
      | some r => g.takeRegister i r
      | none => g) g
    let params := (c.params.map (·.1)).filter fun cell => (g.register cell).isNone
    (params ++ storedCells c.chain).foldlM (fun g cell => g.giveRegister i cell) g
  | .layout _ params _ => (params.map (·.1)).foldlM (fun g cell => g.giveRegister i cell) g
  | _ => .ok g

end Graph

end NewGrf
