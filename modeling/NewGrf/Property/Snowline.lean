import NewGrf.Property.BaseCost

namespace NewGrf.Snowline

def dayOf (day : Expr) : Build Nat := do
  match ← day.reduce with
  | .num v p =>
    if v < 1 || v > 365 then
      Build.fail "Day of the year must be between 1 and 365" p
    else pure (v - 1).toNat
  | d => Build.fail "Day of year is not a compile-time constant" d.pos

def heightIn (height : Expr) : Option Measure → Build Expr
  | none => do
    if height.constant?.any (· > 255) then
      Build.fail "Height must be at most 255" height.pos
    pure height
  | some unit => do
    unless unit.kind == "snowline" do
      Build.fail "Expected a snowline percentage (\"snow%\")" height.pos
    if height.constant?.any (· > 100) then
      Build.fail "Height must be at most 100 snow%" height.pos
    -- One percent is the reference unit of heights.
    let info : Property.Info := { factor := ((unit.factor.1 : Nat), (unit.factor.2 : Nat)) }
    Property.convert info height none

def point (linear : Bool) (e : SnowEntry) : Build (Nat × Expr) := do
  let number ← dayOf e.day
  let height ← e.height.reduce
  if height.constant?.any (· < 0) then Build.fail "Height must be at least 0" height.pos
  let height ← heightIn height e.unit
  if linear && !height.isConstant then
    Build.fail "Height is not a compile-time constant" height.pos
  pure (number, height)

/-- A day of the year, from 0 on. Behind the last day comes the first one again. -/
abbrev Day := Fin 365

instance neZero_days : @NeZero Nat Zero.ofOfNat0 365 := ⟨by decide⟩

/-- The heights of the days that have one. -/
abbrev Days := Vector (Option Expr) 365

def between (start finish : Nat) (low high : Int) (day : Nat) : Int :=
  let slope := Number.floatOfInt (high - low) / Number.floatOfInt ((finish : Int) - start)
  low + Number.roundHalfEven (slope * Number.floatOfInt ((day : Int) - start))

/-- The height on a day between two others that have one. -/
def heightBetween (linear : Bool) (start finish : Nat) (low high : Expr) (day : Nat) : Expr :=
  if linear then
    match low.constant?, high.constant? with
    | some l, some h => .int (between start finish l h day)
    | _, _ => low
  else low

/-- How many days it takes until the first day with a height comes round. -/
def daysUntil (first day : Day) : Nat := (first - day).val

theorem daysUntil_succ {first day : Day} (other : day ≠ first) :
    daysUntil first (day + 1) + 1 = daysUntil first day := by
  have apart := Fin.val_ne_of_ne other
  simp only [daysUntil, Fin.sub_def, Fin.add_def]
  omega

/-- The next day with a height from a day on, but none behind the first one. -/
def nextPoint (days : Days) (first day : Day) : Day :=
  if other : day = first then first
  else if (days.get day).isSome then day
  else
    have := daysUntil_succ other
    nextPoint days first (day + 1)
termination_by daysUntil first day

theorem daysUntil_nextPoint (days : Days) (first day : Day) :
    daysUntil first (nextPoint days first day) ≤ daysUntil first day := by
  fun_induction nextPoint days first day with
  | case1 | case2 => simp
  | case3 day other _ closer ih => omega

theorem daysUntil_behind {days : Days} {first day : Day}
    (other : nextPoint days first day ≠ first) :
    daysUntil first (nextPoint days first day + 1) < daysUntil first day := by
  have closer := daysUntil_succ other
  have within := daysUntil_nextPoint days first day
  omega

/-- Fills the days between two that have a height, of which the second may be one of the next
year. -/
def fillGap (linear : Bool) (start finish : Day) (days : Days) : Days :=
  match days.get start, days.get finish with
  | some low, some high =>
    let unwrapped := if finish < start then finish.val + 365 else finish.val
    (List.range' (start + 1) (unwrapped - (start + 1))).foldl (fun days day =>
      let inYear := Fin.ofNat 365 day
      days.setIfInBounds inYear (some (heightBetween linear start unwrapped low high day))) days
  | _, _ => days

/-- Fills gap after gap from a day with a height on, until the first one comes round. A single day
says nothing about the others. -/
def fillGaps (linear : Bool) (first start : Day) (days : Days) : Days :=
  let finish := nextPoint days first (start + 1)
  let filled := fillGap linear start finish days
  if finish = first then filled
  else fillGaps linear first finish filled
termination_by daysUntil first (start + 1)
decreasing_by exact daysUntil_behind ‹_›

def monthLengths : List Nat := [31, 28, 31, 30, 31, 30, 31, 31, 30, 31, 30, 31]

/-- For each of twelve months of 32 days, the day of the year, if there is one. -/
def calendar : List (Option Nat) :=
  let starts := monthLengths.zipIdx.map fun (_, i) => Number.total (monthLengths.take i)
  (monthLengths.zip starts).flatMap fun (length, start) =>
    (List.range 32).map fun day => if day < length then some (start + day) else none

/-- Days that do not exist have the height of the one before. -/
def fill {α : Type} : Option α → List (Option α) → List (Option α)
  | _, [] => []
  | last, e :: es => (e <|> last) :: fill (e <|> last) es

/-- The height on a day of the calendar. -/
def heightAt (heights : Days) (day? : Option Nat) : Option Expr :=
  day?.bind fun day => heights[day]?.join

/-- The heights of all days of a leap year and of those that no year has. -/
def table (s : Snowline) : Build (List Expr) := do
  let linear := s.kind != "equal"
  let given ← s.entries.foldlM (fun days e => do
    let (day, height) ← point linear e
    pure (days.setIfInBounds day (some height))) (Vector.replicate 365 none)
  let some first := (List.finRange 365).find? fun day => (given.get day).isSome
    | Build.fail "No heights given for the snowline table" s.pos
  let heights := fillGaps linear first first given
  let days ← calendar.mapM fun day? =>
    match heightAt heights day? with
    | some e => do pure (some (← e.reduce))
    | none => pure none
  let once := fill days.getLast?.join days
  pure ((fill once.getLast?.join once).filterMap fun e => e)

structure Parts where
  before : List Action := []
  patches : List Patch := []
  bytes : List Int := []
  known : BaseCost.Known := []

def addPatch (t : Parts) (size : Nat) (param : Int) (before : List Action) : Parts :=
  { t with
    before := t.before ++ before
    patches := t.patches ++ [{ param, size, offset := 8 + t.bytes.length }]
    bytes := t.bytes ++ List.replicate size 0 }

/-- Adds heights to a table. Four that are not all constant are computed into one parameter. -/
def addHeights : List Expr → Parts → Build Parts
  | [], t => pure t
  | .num v _ :: rest, t => addHeights rest { t with bytes := t.bytes ++ [v] }
  | a :: b :: c :: d :: rest, t => do
    let joined ← (Expr.op .or (Expr.op .or (Expr.op .or a (b.opInt .shiftLeft 8))
      (c.opInt .shiftLeft 16)) (d.opInt .shiftLeft 24)).reduce
    let now ← Build.current joined
    match t.known.param? fun k => k.computed.same now with
    | some param => addHeights rest (addPatch t 4 param [])
    | none =>
      let (param, before, known) ← t.known.compute joined
      addHeights rest { addPatch t 4 param before with known }
  | a :: rest, t => do
    let (param, before, known) ← t.known.compute a
    addHeights rest { addPatch t 1 param before with known }

/-- The action that sets all heights, behind what it needs. -/
def tableActions (heights : List Expr) : Build (List Action) := do
  Assign.saveParams
  let t ← addHeights heights {}
  Assign.restoreParams
  let action : PropertyAction :=
    { feature := Property.gameFeature, first := 0, properties := [.byteTable 0x10 t.bytes] }
  pure (Assign.withPatches t.before t.patches (.properties action))

def actions (s : Snowline) : Build (List Action) := do
  tableActions (← table s)

end NewGrf.Snowline
