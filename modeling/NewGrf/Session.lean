import NewGrf.Block.Basic
import NewGrf.Console
import NewGrf.Files.Tree
import NewGrf.FreeNumbers
import NewGrf.Graph.Basic
import NewGrf.IdSpace
import NewGrf.Language.Basic
import NewGrf.Property.Data
import NewGrf.Script.Basic
import NewGrf.Town.Basic

namespace NewGrf

structure NamedItem where
  id : Expr
  feature : Int
  deriving Inhabited

abbrev LabelNumbers := Dict Int

structure Names where
  constants : Dict Int := []
  params : Dict Int := []
  cargos : LabelNumbers := []
  rails : LabelNumbers := [("RAIL", 0), ("MONO", 1), ("MGLV", 2)]
  roads : LabelNumbers := [("ROAD", 0)]
  trams : LabelNumbers := [("ELRL", 0)]
  ownTables : List TrackKind := []
  items : Dict NamedItem := []
  settings : Dict Int := []
  settingBits : Dict (Int × Int) := []
  occurrences : Dict Nat := []
  deriving Inhabited

inductive Sound where
  | file (name : String) (volume : Int)
  | imported (owner number volume : Int)
  deriving Repr, DecidableEq, Inhabited

structure SpriteData where
  zoom : Nat
  depth : Nat
  sprites : List SpriteEntry
  file : Option FileName
  mask : Option FileName
  pos : Position
  deriving Inhabited

structure SpriteContainer where
  kind : String
  name : Option Ident
  data : List SpriteData := []
  deriving Inhabited

/-- Sprite sets of one feature with the same number of sprites, which are written in a row. -/
structure SpriteCollection where
  feature : Int
  first : Nat
  count : Nat
  sets : List Nat := []
  deriving Repr, Inhabited

/-- A sprite set of a station: one of the script, or one of the list that the station gives. -/
inductive StationSet where
  | block (id : Nat)
  | custom (index : Int)
  deriving Repr, DecidableEq, Inhabited

/-- The slots that the sprite sets of a station have. Slot 0 is the set that is shown by default,
and slot 2 has foundations. -/
structure StationSlots where
  slots : List (StationSet × Int) := []
  next : Int := 1
  deriving Repr, Inhabited

/-- What the layouts of a station need to be shown: its sprite sets, and a node that fills
registers. -/
structure StationLayouts where
  slots : StationSlots
  registers : Option (String × Nat)
  deriving Inhabited

structure CurrentItem where
  feature : Int := 0
  id : Expr := .num 0 none
  size : Option Int := none
  deriving Inhabited

/-- Texts that have been given numbers, each for one feature, in the order of the numbers. -/
structure TextNumbers where
  range : Int
  total : Nat
  used : List (Int × Expr × Int) := []
  deriving Inhabited

namespace TextNumbers

/-- The number that is given out after some others. The range for properties starts with the numbers
that every version of the game knows. -/
def numberAfter (t : TextNumbers) (count : Nat) : Int :=
  if t.range == 0xD0 then 0xD000 + count
  else if count < 0x400 then 0xDC00 + count
  else if count < 0x800 then 0xD800 + (count - 0x400)
  else 0xE000 + (count - 0x800)

def find? (t : TextNumbers) (feature : Int) (text : Expr) : Option Int :=
  (t.used.find? fun (f, e, _) => f == feature && e.same text).map fun (_, _, n) => n

def add? (t : TextNumbers) (feature : Int) (text : Expr) : Option (Int × TextNumbers) :=
  if t.used.length < t.total then
    let n := t.numberAfter t.used.length
    some (n, { t with used := t.used ++ [(feature, text, n)] })
  else none

end TextNumbers

structure Allowed where
  extraZoom : Bool := true
  fullColour : Bool := true
  deriving Repr, Inhabited

structure Session where
  console : Console := {}
  /-- The version of the program, and the place in it that reports on failing files name. -/
  version : String := ""
  location : String := ""
  rethrow : Bool := false
  files : FileTree := {}
  foundPaths : Dict String := []
  library : Language.Library := {}
  allowed : Allowed := {}
  names : Names := {}
  /-- While the arguments of a call are reduced, unknown names are let through. -/
  lenient : Bool := false
  blocks : Array Block := #[]
  blockIds : Dict Nat := []
  /-- The sounds in the order of their numbers, each with the place that asks for it first. -/
  sounds : List (Sound × Option Position) := []
  seenOnce : List String := []
  containers : Array SpriteContainer := #[]
  containerIds : Dict Nat := []
  templates : Dict Template := []
  fullColour : Bool := false
  idSpaces : Array IdSpace := IdSpace.all
  params : FreeNumbers := .ofList ((List.range 0x40).map fun (i : Nat) => (i : Int) + 0x40)
    "No free parameters available to use for internal computations."
    "No unique free parameters available for internal computations."
  labels : FreeNumbers := .ofList ((List.range 0xF0).map fun (i : Nat) => 0xFF - (i : Int))
    "No label available to use for large if-blocks and loops."
    "No unique label available to use for large if-blocks and loops."
  /-- Where the counts stand by which assignments shift to the right, once for each shift. -/
  turnedCounts : List Position := []
  /-- By how much variables are shifted, as far as that has changed, the latest change first. -/
  shifts : List (Position × Int) := []
  made : Nat := 0
  skipDepth : Nat := 0
  item : CurrentItem := {}
  grids : Dict TileGrid := []
  towns : Town.Registry := {}
  playerParams : Int := 0
  paletteLetter : String := "A"
  paletteName : String := "ANY"
  depthLetter : String := "8"
  callbackTexts : TextNumbers := { range := 0xD0, total := 0x400 }
  propertyTexts : TextNumbers := { range := 0xDC, total := 0x2800 }
  graph : Graph := {}
  collections : Array SpriteCollection := #[]
  failedNodes : List (Int × Nat) := []
  resultNodes : Nat := 0
  graphicsNodes : Nat := 0
  shownValues : Array Expr := #[]
  stationSlots : StationSlots := {}
  stationLayouts : List (Int × StationLayouts) := []
  deriving Inhabited

/-- Whether the count at a position is negated. One that was not read from the source is a new one
for each shift. -/
def Session.hasTurned (s : Session) (pos : Option Position) : Bool :=
  match pos with
  | some p => p.isOwn && s.turnedCounts.count p % 2 == 1
  | none => false

/-- By how much the variable is shifted whose shift has the position, if that has changed. -/
def Session.shiftAt (s : Session) (pos : Option Position) : Option Int :=
  pos.bind fun p => s.shifts.lookup p

/-- A step of a build. What it has done stays done when it fails. -/
abbrev Build := EStateM Stop Session

namespace Build

def stop {α : Type} (f : Fault) : Build α := throw (.fault f)

def fail {α : Type} (text : String) (pos : Option Position := none) : Build α :=
  stop { cause := .script text, pos }

/-- The program itself fails, on something that it does not expect. -/
def crash {α : Type} : Build α := throw (.system "internal" "")

def modifyConsole (f : Console → Console) : Build Unit :=
  modify fun s => { s with console := f s.console }

def warn (text : String) (pos : Option Position := none) (kind : Warning := .general) :
    Build Unit :=
  modifyConsole fun c => c.warn kind text pos

def info (text : String) : Build Unit := modifyConsole fun c => c.info text

def complain (text : String) (pos : Position) : Build Unit :=
  modifyConsole fun c => c.complain text pos

def progress (text : String) : Build Unit := modifyConsole fun c => c.beginProgress text

def endProgress : Build Unit := modifyConsole fun c => c.endProgress

def printAside (line : String) : Build Unit := modifyConsole fun c => c.printAside line

def modifyNames (f : Names → Names) : Build Unit :=
  modify fun s => { s with names := f s.names }

/-- A shift to the right is done as one to the left, by a count that is negated where it stands. So
a count that is shifted by several times is negated by each shift, and all see what it is in the
end. -/
def turnCount (pos : Option Position) : Build Unit :=
  match pos with
  | some p => modify fun s => { s with turnedCounts := p :: s.turnedCounts }
  | none => pure ()

def isTurned (pos : Option Position) : Build Bool := do pure ((← get).hasTurned pos)

/-- A position that tells the value to which it is given from all others. -/
def ownAt (pos : Position) : Build Position := do
  if pos.isOwn then return pos
  let made := (← get).made + 1
  modify fun s => { s with made }
  pure { pos with made }

def setShift (pos : Option Position) (shift : Int) : Build Unit :=
  match pos with
  | some p => modify fun s => { s with shifts := (p, shift) :: s.shifts }
  | none => pure ()

/-- An expression with its counts and shifts as they are at the moment. -/
def current (e : Expr) : Build Expr := do
  let s ← get
  pure (e.asOf s.hasTurned s.shiftAt)

def checkRange (value low high : Int) (name : String) (pos : Option Position) : Build Unit :=
  if low ≤ value ∧ value ≤ high then pure ()
  else stop { cause := .outOfRange name (toString value) (toString low) (toString high), pos }

def ofExcept {α : Type} : Except Fault α → Build α
  | .ok a => pure a
  | .error f => stop f

def check (f : Option Fault) : Build Unit :=
  match f with
  | some f => stop f
  | none => pure ()

def once (kind : String) (pos : Option Position) : Build Unit := do
  if (← get).seenOnce.contains kind then stop { cause := .repeated kind, pos }
  modify fun s => { s with seenOnce := kind :: s.seenOnce }

def block? (id : Nat) : Build Block := do pure ((← get).blocks[id]?.getD default)

def modifyBlock (id : Nat) (f : Block → Block) : Build Unit :=
  modify fun s => { s with blocks := s.blocks.modify id f }

def resolve (name : Ident) : Build Nat := do
  match (← get).blockIds.get? name.text with
  | some id => pure id
  | none => fail ("Unknown identifier encountered: '" ++ name.text ++ "'") name.pos

end Build

end NewGrf
