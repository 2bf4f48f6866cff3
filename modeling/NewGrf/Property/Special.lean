import NewGrf.Property.Value

namespace NewGrf.Property

def valuesOf (number : Int) (values : List (PropertyValue × Option Position)) (size : Nat) :
    Build PropertyData := do
  let limit : Int := Number.twoPow (8 * size)
  values.forM fun (value, pos) => do
    if let .number v := value then
      if limit ≤ v then Build.fail "Action 0 property too large" pos
      if v < 0 && v + limit.fdiv 2 < 0 then Build.fail "Action 0 property too small" pos
  pure (.values number (values.map (·.1)) size)

def valueOf (number value : Int) (size : Nat) (pos : Option Position := none) :
    Build PropertyData :=
  valuesOf number [(.number value, pos)] size

def constantsOf (es : List Expr) : Build (List Int) := es.mapM fun e => do
  pure (← e.reduceConstant).1

def oneOrList (name : String) (one list : Int) : Expr → Build (List PropertyData)
  | .num v p => do pure [← valueOf one v 1 p]
  | .array [e] _ => do
    let (v, p) ← e.reduceConstant
    pure [← valueOf one v 1 p]
  | .array es _ => do pure [.lists list [← constantsOf es] 1 false]
  | _ => Build.fail ("'" ++ name ++ "' must be a constant or an array of constants")

def cargoList (number : Int) (values : List Expr) : Build (List PropertyData) := do
  let arrays ← values.mapM fun v => match v with
    | .array es _ => pure es
    | e => Build.fail "Value of cargolist property must be an array" e.pos
  pure [.lists number (← arrays.mapM constantsOf) 1 false]

def acceptedCargo : Expr → Build Int
  | .array [cargo, amount] _ => do
    let (c, _) ← cargo.reduceConstant
    let (a, _) ← amount.reduceConstant
    pure (Number.bitOr (Number.shiftLeft a 8) c)
  | e =>
    Build.fail ("Each element of accepted_cargos must be an array with two elements: cargoid and"
      ++ " amount") e.pos

def acceptedCargos (number : Int) (values : List Expr) : Build (List PropertyData) := do
  let text := "accepted_cargos must be an array with no more than 16 values"
  let lists ← values.mapM fun v => match v with
    | .array es p =>
      if es.length > 16 then Build.fail text p else es.mapM acceptedCargo
    | e => Build.fail text e.pos
  pure [.lists number lists 2 false]

def platformOf (length count : Nat) : Expr → Build (List Int)
  | .array [] _ => Build.fail "A platform must be an array of tile types"
  | .array tiles p => do
    if tiles.length ≠ length then
      Build.fail "All platforms in a station layout must have the same length" p
    tiles.forM fun t => do
      unless (← t.reduceConstant).1 % 2 == 0 do
        Build.warn ("Invalid tile " ++ t.text ++ " in layout " ++ toString length ++ "x"
          ++ toString count) t.pos
    tiles.mapM fun t => do pure (← (t.opInt .and 0xFE).reduceConstant).1
  | _ => Build.fail "A platform must be an array of tile types"

/-- Adds the layout of stations of one size. A later layout takes the place of an earlier one. -/
def addPlatforms (layouts : List PlatformLayout) (e : Expr) : Build (List PlatformLayout) := do
  match e with
  | .array (row :: rows) p =>
    let length := match row with
      | .array tiles _ => tiles.length
      | _ => 0
    let count := rows.length + 1
    let isSame (l : PlatformLayout) : Bool := l.length == length && l.platforms.length == count
    let known := layouts.any isSame
    if known then
      Build.warn ("Redefinition of layout " ++ toString length ++ "x" ++ toString count) p
    let layout := { length, platforms := ← (row :: rows).mapM (platformOf length count) }
    pure (if known then layouts.map fun l => if isSame l then layout else l
      else layouts ++ [layout])
  | e => Build.fail "A station layout must be an array of platforms" e.pos

def platformLayouts : Expr → Build (List PropertyData)
  | .num v p => do pure [← valueOf 0x0F v (if v < 0xFF then 1 else 3) p]
  | .array (e :: es) _ => do pure [.platforms 0x0E (← (e :: es).foldlM addPlatforms [])]
  | e =>
    Build.fail "station_layouts must be an array of layouts, or the ID of a station" e.pos

def bitOfEach (bit : Nat) (values : List Int) : Int :=
  values.zipIdx.foldl (fun bits (v, i) =>
    if Number.bitAnd v (Number.twoPow bit) == 0 then bits else bits + Number.twoPow i) 0

def tileFlags : Expr → Build (List PropertyData)
  | .array es p => do
    if es.length % 2 ≠ 0 then Build.fail "Flag list must be an array of even length" p
    if es.length > 8 then pure [.lists 0x1E [← constantsOf es] 1 true]
    else
      let flags := es.map fun e => e.constant?.getD 0
      pure [← valueOf 0x11 (bitOfEach 0 flags) 1, ← valueOf 0x14 (bitOfEach 1 flags) 1,
        ← valueOf 0x15 (bitOfEach 2 flags) 1]
  | e => Build.fail "Flag list must be an array of even length" e.pos

def gridsOf (value : Expr) (check : TileGrid → Build Unit) : Build (List TileGrid) := do
  let text := "layouts must be an array of layout names"
  match value with
  | .array es p =>
    let names ← es.mapM fun e => match e with
      | .ident name pos => pure (name, pos)
      | _ => Build.fail text p
    names.mapM fun (name, pos) => do
      match (← get).grids.get? name with
      | some g => do
        check g
        pure g
      | none => Build.fail ("Unknown layout name '" ++ name ++ "'") pos
  | e => Build.fail text e.pos

def checkRotation (g : TileGrid) : Build Unit :=
  match g.properties.get? "rotation" with
  | none => Build.fail "Airport layouts must have the 'rotation' property" g.pos
  | some (v, p) =>
    if [0, 2, 4, 6].contains v then pure ()
    else Build.fail "Airport layout rotation is not a valid direction." p

def productionMultiplier (value : Expr) : Build (List PropertyData) := do
  let text := "Prod multiplier must be an array of up to two values"
  match value with
  | .array es p =>
    if es.length > 2 then Build.fail text p
    [(0x12, es[0]?), (0x13, es[1]?)].mapM fun (number, e?) => do
      match e? with
      | some e =>
        let (v, p) ← e.reduceConstant
        valueOf number v 1 p
      | none => valueOf number 0 1
  | e => Build.fail text e.pos

def soundList (value : Expr) : Build (List PropertyData) :=
  let text := "random_sound_effects must be an array with sounds effects"
  match value with
  | .array es p => do
    let sounds ← es.mapM fun e => match e with
      | .num v _ => pure v
      | _ => Build.fail text p
    pure [.sounds 0x15 sounds]
  | e => Build.fail text e.pos

def conflictingTypes : Expr → Build (List PropertyData)
  | .array es p => do
    if es.length > 3 then
      Build.fail "conflicting_ind_types may have at most three entries" p
    let types ← constantsOf es
    pure [.bytes 0x16 (types ++ List.replicate (3 - types.length) 0xFF)]
  | e => Build.fail "conflicting_ind_types must be an array of industry types" e.pos

/-- A multiplier of up to 256, in parts of 256. -/
def multiplier (value : Quantity) (pos : Option Position) : Build Int := do
  let inside := match value with
    | .int v => 0 ≤ v && v ≤ 256
    | .float v => 0 ≤ v && v ≤ 256
  unless inside do
    Build.stop { cause := .outOfRange "input_multiplier" value.text "0" "256", pos }
  pure (value.times 256).truncate

def inputMultiplier (number : Int) (value : Expr) : Build (List PropertyData) := do
  let text := "Input multiplier must be an array of up to two values"
  match value with
  | .array es p =>
    if es.length > 2 then Build.fail text p
    let reduced ← [es[0]?, es[1]?].mapM fun e? => (e?.getD (.int 0)).reduce
    let quantities ← reduced.mapM fun e => match Quantity.ofExpr? e with
      | some q => pure (q, e.pos)
      | none => Build.fail "Expected a compile-time constant" p
    match ← quantities.mapM fun (q, pos) => multiplier q pos with
    | [low, high] =>
      pure [← valueOf number (Number.signed32 (Number.bitOr low (Number.shiftLeft high 16))) 4]
    | _ => pure []
  | e => Build.fail text e.pos

def produced (label : Int) (values : List Expr) (pos : Option Position) : Build (Int × Quantity) :=
  match values with
  | [e] =>
    match Quantity.ofExpr? e with
    | some q => pure (label, q)
    | none =>
      Build.fail "Cargo types produce_cargo() expressions must have numeric constant values" pos
  | _ => Build.fail "Cargo types produce_cargo() expressions require 2 arguments" pos

/-- What an industry does with cargo: it makes some from nothing, or some out of another. -/
inductive CargoUse where
  | make (cargo : Int) (factor : Quantity)
  | accept (cargo : Int) (makes : List (Int × Quantity))
  deriving Inhabited

namespace CargoUse

def ofExpr : Expr → Build CargoUse
  | .cargo false _ number values pos => do
    let (c, q) ← produced number values pos
    pure (make c q)
  | .cargo true _ number values _ => do
    let makes ← values.mapM fun v => match v with
      | .cargo false _ n vs p => produced n vs p
      | e =>
        Build.fail
          "Cargo types accept_cargo() expressions must only contain produce_cargo() expressions"
          e.pos
    pure (accept number makes)
  | e => Build.fail "" e.pos

def accepted? : CargoUse → Option Int
  | make .. => none
  | accept c _ => some c

def made : CargoUse → List Int
  | make c _ => [c]
  | accept _ ms => ms.map (·.1)

end CargoUse

def setIn (cargos : List Int) (row : List Int) (cargo value : Int) : List Int :=
  row.set (cargos.idxOf cargo) value

def cargoTypes (value : Expr) : Build (List PropertyData) := do
  let isUse (e : Expr) : Bool := match e with
    | .cargo .. => true
    | _ => false
  let items := match value with
    | .array es _ => es
    | _ => []
  unless items.all isUse do
    Build.fail ("Cargo types definition must be an array produce_cargo() and accept_cargo()"
      ++ " expressions") value.pos
  let uses ← items.mapM CargoUse.ofExpr
  let inputs := (uses.filterMap CargoUse.accepted?).eraseDups
  let outputs := (uses.flatMap CargoUse.made).eraseDups
  if inputs.length > 16 then
    Build.fail "Cargo types definition contains more than 16 different accept_cargo() cargotypes"
      value.pos
  if outputs.length > 16 then
    Build.fail "Cargo types definition contains more than 16 different produce_cargo() cargotypes"
      value.pos
  let zeros : List Int := List.replicate outputs.length 0
  let factors := uses.foldl (fun row u => match u with
    | .make c q => setIn outputs row c q.truncate
    | .accept .. => row) zeros
  let matrix := uses.foldl (fun (rows : List (List Int)) u => match u with
    | .make .. => rows
    | .accept c ms =>
      rows.modify (inputs.idxOf c) fun row =>
        ms.foldl (fun row (m, q) => setIn outputs row m (q.times 256).truncate) row)
    (inputs.map fun _ => zeros)
  let multiplies := uses.any fun u => match u with
    | .make .. => false
    | .accept _ ms => ms.any fun (_, q) => q.isPositive
  pure [.lists 0x25 [outputs] 1 false, .lists 0x26 [inputs] 1 false, .lists 0x27 [factors] 1 false,
    .matrix 0x28 (if multiplies then matrix else [])]

def airportYears (value : Expr) : Build (List PropertyData) := do
  match ← pairOf "Availability years must be an array with exactly two values" 2 value with
  | [first, last] =>
    let (a, _) ← first.reduceConstant
    let (b, _) ← last.reduceConstant
    pure [← valueOf 0x0C (Number.signed32 (Number.bitOr (Number.shiftLeft b 16) a)) 4]
  | _ => pure []

def objectSize (value : Expr) : Build (List PropertyData) := do
  match ← pairOf "Object size must be an array with exactly two values" 2 value with
  | [width, depth] =>
    let (x, _) ← width.reduceConstant
    let (y, _) ← depth.reduceConstant
    unless 1 ≤ x && x ≤ 15 && 1 ≤ y && y ≤ 15 do
      Build.fail "The size of an object must be at least 1x1 and at most 15x15 tiles" value.pos
    pure [← valueOf 0x0C (Number.bitOr (Number.shiftLeft y 4) x) 1]
  | _ => pure []

/-- What is written for a property that has a form of its own. There is one value for each item. -/
def Special.apply (s : Special) (values : List Expr) : Build (List PropertyData) := do
  let value := values.head?.getD default
  match s with
  | .oneOrList name one list => Property.oneOrList name one list value
  | .cargoList number => Property.cargoList number values
  | .acceptedCargos number => Property.acceptedCargos number values
  | .platformLayouts => Property.platformLayouts value
  | .tileFlags => Property.tileFlags value
  | .grids number => pure [.grids number (← gridsOf value fun _ => pure ()) false]
  | .airportGrids number => pure [.grids number (← gridsOf value checkRotation) true]
  | .productionMultiplier => Property.productionMultiplier value
  | .sounds => soundList value
  | .conflictingTypes => Property.conflictingTypes value
  | .inputMultiplier number => Property.inputMultiplier number value
  | .cargoTypes => Property.cargoTypes value
  | .airportYears => Property.airportYears value
  | .objectSize => Property.objectSize value
  | .labels number title =>
    match value with
    | .array es _ => pure [.labels number es]
    | e => Build.fail (title ++ " list must be an array of literal strings") e.pos
  | .byteSequence number title count =>
    let text := title ++ " must be an array of " ++ toString count ++ " bytes"
    let es ← pairOf text count value
    pure [.lateBytes number es title value.pos]

end NewGrf.Property
