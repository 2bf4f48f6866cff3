import NewGrf.Script.Basic

namespace NewGrf

structure Rect where
  x : Int
  y : Int
  width : Int
  height : Int
  deriving Repr, DecidableEq, Inhabited

structure ImageSprite where
  file : FileName
  /-- The part that is shown; nothing stands for the whole image. -/
  rect : Option Rect
  xrel : Int
  yrel : Int
  flags : Int := 0
  mask : Option FileName := none
  maskPos : Option (Int × Int) := none
  zoom : Nat := 0
  depth : Nat := 8
  /-- The places that brought the sprite about, from the outside in. -/
  places : List Position := []
  deriving Repr, DecidableEq, Inhabited

namespace ImageSprite

def noCrop : Int := 0x0040
def noAlpha : Int := 0x0100
def allowWhite : Int := 0x0200
def allowAnimation : Int := 0x0400

def flagNames : List (String × Int) := [
  ("CROP", 0), ("NOCROP", noCrop), ("ALPHA", 0), ("NOALPHA", noAlpha),
  ("WHITE", allowWhite), ("NOWHITE", 0), ("ANIM", allowAnimation), ("NOANIM", 0)]

def has (s : ImageSprite) (flag : Int) : Bool := Number.bitAnd s.flags flag != 0

def area (s : ImageSprite) : Rect := s.rect.getD ⟨0, 0, 0, 0⟩

/-- Where the mask lies: where it is said to, else where the image lies. -/
def maskPlace (s : ImageSprite) : Int × Int := s.maskPos.getD (s.area.x, s.area.y)

end ImageSprite

structure RecolourLine where
  low : Int
  high : Int
  toLow : Int
  toHigh : Option Int
  pos : Option Position
  deriving Repr, DecidableEq, Inhabited

inductive Sprite where
  | empty
  | image (s : ImageSprite)
  | recolour (lines : List RecolourLine)
  deriving Repr, Inhabited

inductive SpriteShape where
  /-- Images for several zoom levels and colour depths; nothing stands for one that shows
  nothing. -/
  | images (sprites : List (Option ImageSprite))
  | recolour (lines : List RecolourLine)
  deriving Repr, Inhabited

structure SpriteAction where
  shape : SpriteShape
  /-- The number that the script expects it to have. -/
  number : Option Int := none
  last : Bool := false
  deriving Repr, Inhabited

end NewGrf
