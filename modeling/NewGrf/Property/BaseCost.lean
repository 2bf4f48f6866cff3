import NewGrf.Property.Tables

namespace NewGrf.BaseCost

inductive Group where
  | construction | vehicles | running
  deriving Repr, DecidableEq, Inhabited

def groupOf? : String → Option Group
  | "PR_CONSTRUCTION" => some .construction
  | "PR_BUILD_VEHICLE" => some .vehicles
  | "PR_RUNNING" => some .running
  | _ => none

def names : List String := [
  "PR_STATION_VALUE", "PR_BUILD_RAIL", "PR_BUILD_ROAD", "PR_BUILD_SIGNALS", "PR_BUILD_BRIDGE",
  "PR_BUILD_DEPOT_TRAIN", "PR_BUILD_DEPOT_ROAD", "PR_BUILD_DEPOT_SHIP", "PR_BUILD_TUNNEL",
  "PR_BUILD_STATION_RAIL", "PR_BUILD_STATION_RAIL_LENGTH", "PR_BUILD_STATION_AIRPORT",
  "PR_BUILD_STATION_BUS", "PR_BUILD_STATION_TRUCK", "PR_BUILD_STATION_DOCK",
  "PR_BUILD_VEHICLE_TRAIN", "PR_BUILD_VEHICLE_WAGON", "PR_BUILD_VEHICLE_AIRCRAFT",
  "PR_BUILD_VEHICLE_ROAD", "PR_BUILD_VEHICLE_SHIP", "PR_BUILD_TREES", "PR_TERRAFORM",
  "PR_CLEAR_GRASS", "PR_CLEAR_ROUGH", "PR_CLEAR_ROCKS", "PR_CLEAR_FIELDS", "PR_CLEAR_TREES",
  "PR_CLEAR_RAIL", "PR_CLEAR_SIGNALS", "PR_CLEAR_BRIDGE", "PR_CLEAR_DEPOT_TRAIN",
  "PR_CLEAR_DEPOT_ROAD", "PR_CLEAR_DEPOT_SHIP", "PR_CLEAR_TUNNEL", "PR_CLEAR_WATER",
  "PR_CLEAR_STATION_RAIL", "PR_CLEAR_STATION_AIRPORT", "PR_CLEAR_STATION_BUS",
  "PR_CLEAR_STATION_TRUCK", "PR_CLEAR_STATION_DOCK", "PR_CLEAR_HOUSE", "PR_CLEAR_ROAD",
  "PR_RUNNING_TRAIN_STEAM", "PR_RUNNING_TRAIN_DIESEL", "PR_RUNNING_TRAIN_ELECTRIC",
  "PR_RUNNING_AIRCRAFT", "PR_RUNNING_ROADVEH", "PR_RUNNING_SHIP", "PR_BUILD_INDUSTRY",
  "PR_CLEAR_INDUSTRY", "PR_BUILD_UNMOVABLE", "PR_CLEAR_UNMOVABLE", "PR_BUILD_WAYPOINT_RAIL",
  "PR_CLEAR_WAYPOINT_RAIL", "PR_BUILD_WAYPOINT_BUOY", "PR_CLEAR_WAYPOINT_BUOY",
  "PR_TOWN_ACTION", "PR_BUILD_FOUNDATION", "PR_BUILD_INDUSTRY_RAW", "PR_BUILD_TOWN",
  "PR_BUILD_CANAL", "PR_CLEAR_CANAL", "PR_BUILD_AQUEDUCT", "PR_CLEAR_AQUEDUCT", "PR_BUILD_LOCK",
  "PR_CLEAR_LOCK", "PR_MAINTENANCE_RAIL", "PR_MAINTENANCE_ROAD", "PR_MAINTENANCE_CANAL",
  "PR_MAINTENANCE_STATION", "PR_MAINTENANCE_AIRPORT"]

def groupOfNumber? (n : Nat) : Option Group :=
  if n == 0 then none
  else if 15 ≤ n && n ≤ 19 then some .vehicles
  else if (42 ≤ n && n ≤ 47) || 66 ≤ n then some .running
  else some .construction

def costsNamed (name value : Expr) : Build (List (Expr × Expr)) := do
  match name with
  | .ident n p =>
    match names.idxOf? n, groupOf? n with
    | some i, _ => pure [(.int i, value)]
    | none, some g =>
      let numbers := (List.range names.length).filter fun i => groupOfNumber? i == some g
      pure (numbers.map fun (i : Nat) => (Expr.int i p, value))
    | none, none =>
      Build.fail ("Unrecognized base cost identifier '" ++ n ++ "' encountered") p
  | e =>
    let e ← e.reduce
    if let .num v p := e then Build.checkRange v 0 names.length "Base cost number" p
    pure [(e, value)]

def prepareOne (name value : Expr) : Build (List (Expr × Expr)) := do
  let value ← value.reduce Scope.general
  if let .num v p := value then Build.checkRange v (-8) 16 "Base cost value" p
  costsNamed name (← (value.opInt .add 8).reduce)

def prepare (costs : List (Expr × Expr)) : Build (List (Expr × Expr)) := do
  pure (← costs.mapM fun (name, value) => prepareOne name value).flatten

def follows : Expr → Expr → Bool
  | .num a _, .num b _ => b == a + 1
  | _, _ => false

def runs : List (Expr × Expr) → List (List (Expr × Expr))
  | [] => []
  | cost :: costs =>
    match costs, runs costs with
    | next :: _, run :: rest =>
      if follows cost.1 next.1 then (cost :: run) :: rest else [cost] :: run :: rest
    | _, rest => [cost] :: rest

structure KnownValue where
  value : Expr
  /-- The value with its counts as they were when it had been computed. -/
  computed : Expr
  param : Int
  /-- Where the name of the cost stands. A group of costs has one name and one value. -/
  name : Option Position

abbrev Known := List KnownValue

namespace Known

def param? (known : Known) (isIt : KnownValue → Bool) : Option Int :=
  (known.find? isIt).map (·.param)

def compute (known : Known) (value : Expr) (name : Option Position := none) :
    Build (Int × List Action × Known) := do
  let (param, before) ← Assign.intoParam Assign.compile value
  pure (param, before, { value, computed := ← Build.current value, param, name } :: known)

end Known

/-- The parameter that the value of a cost is in, with the actions that put it there if it is a new
one. -/
def inParam (known : Known) (cost : Expr × Expr) : Build (Int × List Action × Known) := do
  let now ← Build.current cost.2
  let isIt (k : KnownValue) : Bool :=
    k.computed.same now || (k.name == cost.1.pos && cost.1.pos.any Position.isOwn)
  match known.param? isIt with
  | some param => pure (param, [], known)
  | none => known.compute cost.2 cost.1.pos

structure Run where
  before : List Action
  patches : List Patch
  values : List (PropertyValue × Option Position)
  known : Known

def addValue (r : Run) (cost : Expr × Expr) : Build Run := do
  match cost.2 with
  | .num v p => pure { r with values := r.values ++ [(.number v, p)] }
  | _ =>
    let (param, before, known) ← inParam r.known cost
    pure {
      before := r.before ++ before
      patches := r.patches ++ [{ param, size := 1, offset := 8 + r.values.length }]
      values := r.values ++ [(.number 0, none)]
      known }

def runActions (known : Known) (run : List (Expr × Expr)) : Build (List Action × Known) := do
  match run with
  | [] => pure ([], known)
  | (name, _) :: _ =>
    let (first, before, patches) ← Assign.field name 5 2
    let r ← run.foldlM addValue { before, patches, values := [], known }
    let data ← Property.valuesOf 0x08 r.values 1
    let action : PropertyAction :=
      { feature := Property.gameFeature, first, count := run.length, properties := [data] }
    pure (Assign.withPatches r.before r.patches (.properties action), r.known)

def actions (costs : List (Expr × Expr)) : Build (List Action) := do
  Assign.saveParams
  let (done, _) ← (runs costs).foldlM (fun (done, known) run => do
    let (more, known) ← runActions known run
    pure (done ++ more, known)) (([], []) : List Action × Known)
  Assign.restoreParams
  pure done

end NewGrf.BaseCost
