import NewGrf.Expr.Reduce
import NewGrf.Property.Info

namespace NewGrf.Property

/-- A number of the script, as a whole number or not. -/
inductive Quantity where
  | int (value : Int)
  | float (value : Float)
  deriving Inhabited

namespace Quantity

def ofExpr? : Expr → Option Quantity
  | .num v _ => some (.int v)
  | .float v _ => some (.float v)
  | _ => none

def toFloat : Quantity → Float
  | int v => Number.floatOfInt v
  | float v => v

def truncate : Quantity → Int
  | int v => v
  | float v => Number.truncate v

def times (q : Quantity) (n : Int) : Quantity :=
  match q with
  | int v => int (v * n)
  | float v => float (v * Number.floatOfInt n)

def isPositive : Quantity → Bool
  | int v => v > 0
  | float v => v > 0

def text : Quantity → String
  | int v => toString v
  | float v => Number.floatText v

/-- The distance to a whole number, and on which side that number lies. -/
def compare (q : Quantity) (n : Int) : Ordering :=
  match q with
  | int v => Ord.compare n v
  | float v =>
    let x := Number.floatOfInt n
    if x < v then .lt else if v < x then .gt else .eq

def isNearer (q : Quantity) (a b : Int) : Bool :=
  match q with
  | int v => (a - v).natAbs < (b - v).natAbs
  | float v => (Number.floatOfInt a - v).abs < (Number.floatOfInt b - v).abs

end Quantity

def shownSpeed (shown : Int × Int) (unit : Measure) (value : Int) : Int :=
  let speed := (value * shown.1).fdiv shown.2
  (Number.shiftRight (10 * speed * unit.showMul) unit.showShift).fdiv 16

def lowerTo (f : Int → Int) (wanted : Quantity) : Nat → Int → Int
  | 0, v => v
  | fuel + 1, v =>
    if wanted.compare (f v) == .gt then lowerTo f wanted fuel (Number.signed32 (v - 1)) else v

def raiseTo (f : Int → Int) (wanted : Quantity) : Nat → Int → Int
  | 0, v => v
  | fuel + 1, v =>
    if wanted.compare (f v) == .lt then raiseTo f wanted fuel (Number.signed32 (v + 1)) else v

/-- The value that is shown as the wanted one, or else as the nearest. What is shown rises by at
least one while the value rises by eight. -/
def adjustSpeed (f : Int → Int) (wanted : Quantity) (value : Int) : Int :=
  let steps (v : Int) : Nat := 8 * ((f v - wanted.truncate).natAbs + 2)
  let low := lowerTo f wanted (steps value) value
  let high := raiseTo f wanted (steps low) low
  if wanted.isNearer (f low) (f high) then low else high

def convert (info : Info) (value : Expr) (unit : Option Measure) : Build Expr := do
  if (unit.map (·.kind)) == some "nfo" then
    match value with
    | .float v p => pure (.int (Number.truncate (v + 0.5)) p)
    | e => pure e
  else
    let (mul, div) ← match unit with
      | none => pure info.factor
      | some u =>
        unless info.unit == some u.kind do Build.fail "Invalid unit for property" value.pos
        pure (info.factor.1 * u.factor.2, info.factor.2 * u.factor.1)
    let common := Number.gcd mul div
    let (mul, div) := (mul.fdiv common, div.fdiv common)
    match Quantity.ofExpr? value with
    | some q =>
      let scaled := q.toFloat * Number.floatOfInt mul / Number.floatOfInt div + 0.5
      let v := Number.signed32 (Number.truncate scaled)
      let v := match unit, info.shown with
        | some u, some shown => adjustSpeed (shownSpeed shown u) q v
        | _, _ => v
      pure (.num v value.pos)
    | none =>
      if mul == div then pure value
      else pure (((Expr.opInt .mul value mul).opInt .add (div.tdiv 2)).opInt .div div)

def pairOf (text : String) (count : Nat) (e : Expr) : Build (List Expr) :=
  match e with
  | .array vs p =>
    if vs.length == count then pure vs else Build.fail text p
  | e => Build.fail text e.pos

/-- Joins bytes into one value, the lowest first. -/
def joinBytes : List Expr → Expr
  | [] => .int 0
  | e :: es =>
    es.zipIdx.foldl (fun joined (b, i) =>
      Expr.op .or joined ((Expr.opInt .and b 0xFF).opInt .shiftLeft ((i : Int) * 8 + 8)))
      (Expr.opInt .and e 0xFF)

def yearByte (year : Expr) (pos : Option Position) : Expr :=
  ((year.opInt .sub 1920 pos).opInt .max 0).opInt .min 255

private def yearsText : String := "Availability years must be an array with exactly two values"

private def classesText : String :=
  "refittable_cargo_classes must be a constant or an array of 2 constants"

namespace ValueRule

def animationValue (loopBit : Nat) (frames : Int) (value : Expr) : Build Expr := do
  let vs ← pairOf "animation_info must be an array with exactly 2 constant values" 2 value
  match vs with
  | [looping, count] =>
    let (l, _) ← looping.reduceConstant
    let (n, _) ← count.reduceConstant
    unless l == 0 || l == 1 do
      Build.fail "First field of the animation_info array must be either 0 or 1" looping.pos
    unless 1 ≤ n && n ≤ frames do
      Build.fail ("Second field of the animation_info array must be between 1 and "
        ++ toString frames) count.pos
    pure (.int (Number.shiftLeft l loopBit + n - 1))
  | _ => pure value

def apply (rule : ValueRule) (value : Expr) : Build (Option Expr) :=
  match rule with
  | asIs => pure value
  | lowByte => do pure (← (value.opInt .and 0xFF).reduce)
  | highByte => do pure (← (value.opInt .shiftRight 8).reduce)
  | vehicleLength => do
    if let .num v p := value then Build.checkRange v 1 8 "vehicle length" p
    pure (← (Expr.op .sub (.int 8) value).reduce)
  | zero => pure (some (.int 0))
  | classes index =>
    match value with
    | .num .. => pure (if index == 0 then some value else none)
    | .array [a, b] _ =>
      let chosen := if index == 0 then a else b
      if chosen.isConstant then pure chosen else Build.fail classesText
    | _ => Build.fail classesText
  | atMost limit => do pure (← (value.opInt .min limit).reduce)
  | quarter => do pure (← ((value.opInt .add 3).opInt .div 4).reduce)
  | missingPart => do
    if let .num v p := value then
      unless 0 ≤ v && v ≤ 255 do Build.fail "speed fraction must be in range 0 .. 1" p
    pure (← (Expr.op .sub (.int 255) value).reduce)
  | helicopter => do
    if let .num v p := value then
      unless [0, 2, 3].contains v do Build.fail "Invalid value for aircraft_type" p
    pure (← (value.opInt .and 2).reduce)
  | largeAircraft => do pure (← (value.opInt .and 1).reduce)
  | bitsFromOne => do pure (← (value.opInt .shiftRight 1 value.pos).reduce)
  | stationFlags => do
    let extended := ((value.opInt .shiftRight 4 value.pos).opInt .and 1).opInt .mul 0x08
    pure (← (Expr.op .or value extended).reduce)
  | cargoBits =>
    match value with
    | .array vs p => do pure (← (Expr.bitmask vs p).reduce)
    | e => Build.fail "Cargo list must be an array" e.pos
  | animation loopBit frames => do pure (← animationValue loopBit frames value)
  | years => do
    match ← pairOf yearsText 2 value with
    | [low, high] =>
      let low := yearByte low value.pos
      let high := (yearByte high value.pos).opInt .shiftLeft 8
      pure (← (Expr.op .or high low).reduce)
    | _ => pure value
  | year index => do
    let vs ← pairOf yearsText 2 value
    pure (vs[index]?.getD value)
  | colours => do
    let vs ← pairOf "Random colours must be an array with exactly four values" 4 value
    vs.forM fun c => do
      if let .num v p := c then Build.checkRange v 0 15 "Random house colours" p
    pure (← (joinBytes vs).reduce)
  | availability => do
    match ← pairOf "availability_mask must be an array with exactly 2 values" 2 value with
    | [zones, climates] =>
      let low := (climates.opInt .and 0xF value.pos).opInt .shiftLeft 12
      let snow := climates.opInt .and 0x800 value.pos
      pure (← (Expr.op .or (Expr.op .or low zones) snow).reduce)
    | _ => pure value
  | cargos count =>
    let refuse (pos : Option Position) : Build (Option Expr) :=
      Build.fail ("Cargo list must be an array with no more than " ++ toString count ++ " values")
        pos
    match value with
    | .array vs p =>
      if vs.length > count then refuse p
      else do
        let missing := List.replicate (count - vs.length) (Expr.int 0xFF p)
        pure (← (joinBytes (vs ++ missing)).reduce)
    | e => refuse e.pos

end ValueRule

/-- The houses of the game, one tile each, that are not part of a larger one. -/
def isOldHouse (size : Int) (id : Int) : Bool :=
  let wide := [74, 76, 87]
  let deep := [7, 66, 68, 99]
  let square := [20, 32, 40]
  match size with
  | 0 => 0 ≤ id && id < 110 && !(wide ++ deep).any (fun h => h ≤ id && id < h + 2)
    && !square.any (fun h => h ≤ id && id < h + 4)
  | 2 => wide.contains id
  | 3 => deep.contains id
  | _ => square.contains id

def TileRule.apply (rule : TileRule) (value : Expr) (count : Nat) (size : Int) :
    Build (List Expr) := do
  let further : List Int := (List.range (count - 1)).map fun (i : Nat) => (i : Int) + 1
  match rule with
  | .same => pure (List.replicate count value)
  | .zero => pure (value :: further.map fun _ => .int 0 value.pos)
  | .allBits => pure (value :: further.map fun _ => .int 0xFF value.pos)
  | .oldHouse =>
    if let .num v p := value then
      unless isOldHouse size v do
        Build.fail
          "Substitute / override house type must have the same size as the newly defined house." p
    pure (value :: (← further.mapM fun i => (value.opInt .add i).reduce))
  | .buildingFlags =>
    if let .num v p := value then
      unless Number.bitAnd v 0x1D == 0 do
        Build.fail "Invalid bits set in house property 'building_flags'." p
    let main ← (value.opInt .or (Number.shiftLeft 1 size.toNat)).reduce
    pure (main :: (← further.mapM fun _ => (value.opInt .and 0x20).reduce))
  | .masked mask => pure (value :: (← further.mapM fun _ => (value.opInt .and mask).reduce))

end NewGrf.Property
