namespace NewGrf.Property

inductive ByItem (α : Type) where
  | fixed (a : α)
  | split (bound : Int) (below above : α)
  deriving Repr, Inhabited

def ByItem.get {α : Type} (id : Int) : ByItem α → α
  | fixed a => a
  | split bound below above => if id < bound then below else above

inductive ValueRule where
  | asIs
  | lowByte
  | highByte
  | vehicleLength
  | zero
  | classes (index : Nat)
  | atMost (limit : Int)
  | quarter
  /-- What is missing to the whole, in parts of 255. -/
  | missingPart
  | helicopter
  | largeAircraft
  /-- Bits that count from one are moved to count from zero. -/
  | bitsFromOne
  | stationFlags
  | cargoBits
  | animation (loopBit : Nat) (frames : Int)
  | years
  | year (index : Nat)
  | colours
  | availability
  | cargos (count : Nat)
  deriving Repr, DecidableEq, Inhabited

inductive TileRule where
  | same
  | zero
  | allBits
  /-- Numbers in a row, of a house of the same size. -/
  | oldHouse
  | buildingFlags
  | masked (mask : Int)
  deriving Repr, DecidableEq, Inhabited

inductive Special where
  | oneOrList (name : String) (one list : Int)
  | cargoList (number : Int)
  | acceptedCargos (number : Int)
  | platformLayouts
  | tileFlags
  | grids (number : Int)
  | airportGrids (number : Int)
  | productionMultiplier
  | sounds
  | conflictingTypes
  | inputMultiplier (number : Int)
  | cargoTypes
  | airportYears
  | objectSize
  | labels (number : Int) (title : String)
  | byteSequence (number : Int) (title : String) (count : Nat)
  deriving Repr, DecidableEq, Inhabited

structure Info where
  /-- The number of the property; -1 if nothing is written. -/
  number : Option (ByItem Int) := none
  size : Nat := 1
  /-- The range of text numbers; none stands for texts with the number of the item. -/
  text : Option (ByItem (Option Int)) := none
  label : Bool := false
  unit : Option String := none
  /-- Numerator and denominator of the factor from reference units. -/
  factor : Int × Int := (1, 1)
  /-- For speeds, the factor to the unit in which the game shows them. -/
  shown : Option (Int × Int) := none
  value : ValueRule := .asIs
  tiles : TileRule := .same
  special : Option Special := none
  /-- Only constants from this value on are written. -/
  atLeast : Option Int := none
  first : Bool := false
  required : Bool := false
  replacedBy : Option String := none
  deriving Repr, Inhabited

def byte (number : Int) : Info := { number := some (.fixed number) }

def word (number : Int) : Info := { byte number with size := 2 }

def dword (number : Int) : Info := { byte number with size := 4 }

def text (number : Int) (range : Int := 0xDC) : Info :=
  { word number with text := some (.fixed (some range)) }

def label (number : Int) : Info := { dword number with label := true }

def special (s : Special) : Info := { special := some s }

end NewGrf.Property
