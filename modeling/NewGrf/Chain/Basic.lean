import NewGrf.Operator
import NewGrf.Output.Piece

namespace NewGrf

/-- A reading of a variable: `(var >> shift) & mask`, then an addition, then a division or a
remainder, each only if present. -/
structure Reading where
  var : Int
  shift : Int := 0
  mask : Int
  param : Option Int := none
  add : Option Int := none
  div : Option Int := none
  mod : Option Int := none
  note : String := ""
  deriving Repr, DecidableEq, Inhabited

inductive Term where
  | read (r : Reading)
  | call (node : Nat) (note : String)
  | store (cell : Nat) (note : String)
  | pass (cell : Nat)
  /-- The value of a cell of this chain. A load that stands in several places has one number. -/
  | load (cell number : Nat)
  | argument (cell number : Nat) (name : String)
  deriving Repr, DecidableEq, Inhabited

inductive Step where
  | term (t : Term)
  | op (o : Operator)
  deriving Repr, DecidableEq, Inhabited

namespace Reading

/-- The variable that holds a constant: all of its bits are set. -/
def constant (value : Int) (note : String := "") : Reading := { var := 0x1A, mask := value, note }

def adjusts (r : Reading) : Bool := r.add.isSome || r.div.isSome || r.mod.isSome

def size (r : Reading) : Nat :=
  6 + (if r.param.isSome then 1 else 0) + (if r.adjusts then 8 else 0)

def shiftByte (r : Reading) (more : Bool) : Int :=
  let s := if more then Number.bitOr r.shift 0x20 else r.shift
  if r.mod.isSome then Number.bitOr s 0x80
  else if r.add.isSome || r.div.isSome then Number.bitOr s 0x40
  else s

def pieces (r : Reading) (more : Bool) : List Piece :=
  let adjustment : List Piece := match r.add with
    | some a => [Piece.dwordHex a, .dwordHex ((r.div <|> r.mod).getD 1)]
    | none => []
  Piece.hex r.var :: (r.param.map Piece.hex).toList
    ++ [Piece.hex (r.shiftByte more), .dwordHex r.mask]
    ++ adjustment ++ [Piece.line r.note]

end Reading

/-- What the numbers in a chain stand for when it is written. -/
structure Numbering where
  registers : Nat → Int
  nodes : Nat → Int
  /-- Loads after which a chain goes on in some place. -/
  goesOn : Nat → Bool

namespace Term

def size : Term → Nat
  | read r => r.size
  | store .. | pass _ => 6
  | call .. | load .. | argument .. => 7

def moreBit (more : Bool) : Int := if more then 0x20 else 0

/-- What is written; `more` tells that the chain goes on behind the term. -/
def pieces (n : Numbering) (more : Bool) : Term → List Piece
  | read r => r.pieces more
  | call node note =>
    [.hex 0x7E, .hex (n.nodes node), .hex (moreBit more), .dwordHex 0xFFFFFFFF, .line note]
  | store cell note => [.hex 0x1A, .hex (moreBit more), .dwordHex (n.registers cell), .line note]
  | pass cell => [.hex 0x1A, .hex (moreBit more), .dwordHex (n.registers cell), .line]
  | load cell number =>
    [.hex 0x7D, .hex (n.registers cell), .hex (moreBit (n.goesOn number)), .dwordHex 0xFFFFFFFF,
      .line]
  | argument cell number name =>
    [.hex 0x7D, .hex (n.registers cell), .hex (moreBit (n.goesOn number)), .dwordHex 0xFFFFFFFF,
      .line name]

def load? : Term → Option Nat
  | load _ number | argument _ number _ => some number
  | _ => none

end Term

namespace Step

def size : Step → Nat
  | term t => t.size
  | op _ => 1

def pieces (n : Numbering) (more : Bool) : Step → List Piece
  | term t => t.pieces n more
  | op o =>
    let (code, mnemonic) := o.switchCode?.getD (0, "")
    [.byteHex code (some mnemonic)]

def constant (value : Int) (note : String := "") : Step := term (.read (.constant value note))

end Step

abbrev Chain := List Step

namespace Chain

def size (c : Chain) : Nat := Number.total (c.map Step.size)

def pieces (n : Numbering) : Chain → List Piece
  | [] => []
  | [s] => s.pieces n false
  | s :: rest => s.pieces n true ++ pieces n rest

/-- The numbers of the loads behind which the chain goes on. -/
def loadsBefore : Chain → List Nat
  | [] | [_] => []
  | .term t :: rest => t.load?.toList ++ loadsBefore rest
  | .op _ :: rest => loadsBefore rest

end Chain

end NewGrf
