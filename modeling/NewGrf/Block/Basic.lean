import NewGrf.Dict
import NewGrf.Script.Basic

namespace NewGrf

inductive Block.Content where
  | switchBlock (s : Switch)
  | randomSwitch (s : RandomSwitch)
  | produceOld (p : ProduceOld)
  | produce (p : Produce)
  | spriteset (s : SpriteSet)
  | spritegroup (s : SpriteGroup)
  | spritelayout (s : SpriteLayout)
  | graphics (g : Graphics)
  deriving Inhabited

/-- Results that can stand in place of a block wherever it is used. -/
def Block.isPlainResult : Expr → Bool
  | .num .. | .string .. => true
  | .groupRef _ _ called group _ => !called && group.isNone
  | _ => false

/-- What is known about replacing a block by a simpler result. -/
inductive Block.Outcome where
  | unknown
  | itself
  | value (e : Expr) (plain : Block.isPlainResult e = true)
  deriving Inhabited

structure Block where
  content : Block.Content
  name : Option Ident
  pos : Position
  numParams : Nat := 0
  features : List Int := []
  users : List Nat := []
  uses : List Nat := []
  prepared : Bool := false
  nodes : List (Int × Nat) := []
  randomNode : Option Nat := none
  usedSets : List Nat := []
  labels : Dict Nat := []
  outcome : Block.Outcome := .unknown
  registers : List (Int × List Nat) := []
  deriving Inhabited

namespace Block

def isSpriteset (b : Block) : Bool :=
  match b.content with
  | .spriteset _ => true
  | _ => false

def hasOwnFeature (b : Block) : Bool :=
  match b.content with
  | .spriteset _ | .spritegroup _ | .spritelayout _ => false
  | _ => true

def isReferable (b : Block) : Bool :=
  match b.content with
  | .graphics _ => false
  | _ => true

end Block

end NewGrf
