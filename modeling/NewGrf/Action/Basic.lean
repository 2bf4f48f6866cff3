import NewGrf.FileInfo.Node
import NewGrf.Property.Data
import NewGrf.Sprite.Image

namespace NewGrf

/-- Sets a parameter to the result of an operation on two parameters. A parameter number of 255
stands for the data instead. -/
structure ParamStep where
  target : Int
  left : Int
  op : Operator
  right : Int
  data : Option Int := none
  count : Option Position := none
  deriving Repr, DecidableEq, Inhabited

structure Reserve where
  target : Int
  feature : Int
  count : Int
  deriving Repr, DecidableEq, Inhabited

/-- Overwrites bytes of the next action by those of a parameter. -/
structure Patch where
  param : Int
  size : Nat
  offset : Nat
  deriving Repr, DecidableEq, Inhabited

/-- Skips sprites if a condition holds. Skips of the first kind are not done while the file is
only scanned for what it needs. -/
structure Skip where
  kind : Nat
  param : Int
  size : Nat
  code : Nat
  mnemonic : Option String
  value : Int
  /-- How many sprites to skip, or the label to go on from; zero stands for all. -/
  target : Int
  deriving Repr, DecidableEq, Inhabited

structure TextAction where
  feature : Int
  lang : Nat
  /-- The number of bytes of the first number. A size of 3 stands for an extended byte. -/
  size : Nat
  first : Int
  texts : List String
  deriving Repr, DecidableEq, Inhabited

inductive MessageText where
  | known (number : Int)
  | own (text : String)
  deriving Repr, DecidableEq, Inhabited

structure Message where
  severity : Int
  lang : Nat
  text : MessageText
  data : Option String
  params : List Int
  deriving Repr, DecidableEq, Inhabited

inductive Action where
  | assign (a : ParamStep)
  | reserve (r : Reserve)
  | patch (ps : List Patch)
  | skip (s : Skip)
  | label (number : Int)
  | properties (p : PropertyAction)
  | texts (t : TextAction)
  | info (n : InfoNode)
  | head (grfid : String) (name desc : Expr)
  | count (n : Nat)
  | message (m : Message)
  | turnOff (ids : List Int)
  | town (index : Nat)
  | sprite (s : SpriteAction)
  | replace (sets : List (Nat × Int))
  | extra (kind : Int) (count : Nat) (offset : Option Int)
  | glyphs (sets : List (Int × Int × Int))
  | soundCount (n : Nat)
  | soundFile (name : String) (pos : Option Position)
  | importSound (owner number : Int)
  /-- Announces sprite sets: their feature, the first of them, how many there are, and how many
  sprites each of them has. -/
  | spriteSets (feature : Int) (first sets sprites : Nat)
  | collection (index : Nat)
  | node (index : Nat)
  | graphics (index : Nat)
  deriving Inhabited

namespace Action

def skippable7 : Action → Bool
  | assign _ | reserve _ | patch _ | info _ | head .. | message _ | town _ | extra ..
  | collection _ | node _ => false
  | skip s => s.kind == 7
  | _ => true

def skippable9 : Action → Bool
  | skip s => s.kind == 9 || s.target == 0
  | label _ | texts _ | collection _ | node _ | graphics _ => false
  | _ => true

/-- Whether it matters that the action is skipped. -/
def skipMatters : Action → Bool
  | label _ | collection _ | node _ => false
  | _ => true

end Action

namespace Skip

def always (kind : Nat) (target : Int) : Skip :=
  { kind, param := 0x9A, size := 1, code := 0, mnemonic := some "\\71", value := 0, target }

end Skip

end NewGrf
