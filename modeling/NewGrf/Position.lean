namespace NewGrf

inductive Place where
  | line (file : String) (number : Nat)
  | pixel (file : String) (x y : Int)
  | image (file : String)
  | language (file : String)
  deriving Repr, DecidableEq, Inhabited

namespace Place

def file : Place → String
  | line f _ => f
  | pixel f _ _ => f
  | image f => f
  | language f => f

def text : Place → String
  | line f n => "\"" ++ f ++ "\", line " ++ toString n
  | pixel f x y => "\"" ++ f ++ "\" at [x: " ++ toString x ++ ", y: " ++ toString y ++ "]"
  | image f => "Image file \"" ++ f ++ "\""
  | language f => "Language file \"" ++ f ++ "\""

end Place

/-- A place together with the places that included its file, outermost first. -/
structure Position where
  place : Place
  includes : List Place := []
  token : Nat := 0
  /-- Tells apart values that are computed for one place. -/
  made : Nat := 0
  deriving Repr, DecidableEq, Inhabited

namespace Position

def line (file : String) (number : Nat) : Position :=
  { place := .line file number }

def text (p : Position) : String := p.place.text

/-- The same place, of no value in particular. -/
def loose (p : Position) : Position := { p with token := 0, made := 0 }

/-- Whether the position tells which value it belongs to. -/
def isOwn (p : Position) : Bool := p.token != 0 || p.made != 0

def nest? (ps : List Position) : Option Position :=
  ps.getLast?.map fun last =>
    { last with includes := last.includes ++ ps.dropLast.map Position.place }

end Position

end NewGrf
