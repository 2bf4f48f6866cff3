import NewGrf.Fault
import NewGrf.Position

namespace NewGrf

structure IdSpace where
  first : Int
  last : Int
  title : String
  dynamic : Bool := true
  /-- The numbers in use; the first number of a block has the size of the block. -/
  used : List (Int × Option Nat) := []
  /-- For each size of blocks, where to start the next search. -/
  starts : List (Nat × Int) := []
  deriving Repr, Inhabited

namespace IdSpace

def size? (s : IdSpace) (id : Int) : Option Nat := (s.used.lookup id).join

def isFree (s : IdSpace) (id : Int) : Bool := (s.used.lookup id).isNone

def lastUsed? (s : IdSpace) (id : Int) (count : Nat) : Option Int :=
  ((List.range count).reverse.map fun (i : Nat) => id + (i : Int)).find? (!s.isFree ·)

def mark (s : IdSpace) (id : Int) (count : Nat) : IdSpace :=
  let rest : List (Int × Option Nat) :=
    (List.range (count - 1)).map fun (i : Nat) => (id + (i : Int) + 1, none)
  { s with used := (id, some count) :: rest ++ s.used }

def search (s : IdSpace) (count : Nat) : Nat → Int → Option Int
  | 0, _ => none
  | fuel + 1, id =>
    if id < s.last - count + 1 then
      match s.lastUsed? id count with
      | none => some id
      | some last => search s count fuel (last + 1)
    else none

def startOf (s : IdSpace) (count : Nat) : Int :=
  match s.starts.lookup count with
  | some id => id
  | none =>
    ((s.starts.filter (·.1 < count)).map (·.2)).max?.getD s.first

def allocate (s : IdSpace) (count : Nat) (pos : Option Position) : Except Fault (Int × IdSpace) :=
  match s.search count (s.last + 1 - s.startOf count).toNat (s.startOf count) with
  | some id =>
    let starts := (count, id + count) :: s.starts.filter (·.1 != count)
    .ok (id, { s with starts }.mark id count)
  | none => .error
      { cause := .script
          ("Unable to allocate ID for item, no more free IDs available (maximum is "
            ++ toString s.last ++ ")"), pos }

/-- Whether the block is already there. Any other overlap with what is in use is a fault. -/
def isDefined (s : IdSpace) (id : Int) (count : Nat) (pos : Option Position) :
    Except Fault Bool :=
  let fault (text : String) : Except Fault Bool := .error { cause := .script text, pos }
  let span := toString id ++ ".." ++ toString (id + count - 1)
  if id < 0 ∨ s.last < id + count - 1 then
    fault ("Item ID must be in range 0.." ++ toString s.last ++ ", encountered " ++ span ++ ".")
  else if s.size? id == some count then .ok true
  else if (s.lastUsed? id count).isNone then .ok false
  else if (s.size? id).isSome then
    fault ("Item with ID " ++ toString id
      ++ " has already been defined, but with a different size.")
  else if s.isFree id then
    fault ("This multi-tile house requires that item IDs " ++ span
      ++ " are free, but they are not.")
  else
    fault ("Item ID " ++ toString id ++ " has already used as part of a multi-tile house.")

def all : Array IdSpace := #[
  { first := 116, last := 0xFFFF, title := "Train" },
  { first := 88, last := 0xFFFF, title := "Road Vehicle" },
  { first := 11, last := 0xFFFF, title := "Ship" },
  { first := 41, last := 0xFFFF, title := "Aircraft" },
  { first := 0, last := 0xFFFE, title := "Station" },
  { first := 0, last := 8, title := "Canal", dynamic := false },
  { first := 0, last := 15, title := "Bridge", dynamic := false },
  { first := 0, last := 4095, title := "House" },
  { first := 0, last := -1, title := "Global", dynamic := false },
  { first := 0, last := 254, title := "Industry Tile" },
  { first := 0, last := 127, title := "Industry" },
  { first := 0, last := 63, title := "Cargo" },
  { first := 0, last := -1, title := "Sound" },
  { first := 0, last := 127, title := "Airport" },
  { first := 0, last := -1, title := "Signal", dynamic := false },
  { first := 0, last := 64000, title := "Object" },
  { first := 0, last := 63, title := "Railtype" },
  { first := 0, last := 255, title := "Airport Tile" },
  { first := 0, last := 62, title := "Roadtype" },
  { first := 0, last := 62, title := "Tramtype" },
  { first := 0, last := 0xFFFE, title := "RoadStop" }]

end IdSpace

end NewGrf
