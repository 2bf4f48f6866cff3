import NewGrf.Graphics.Callback
import NewGrf.Layout.Compile
import NewGrf.Layout.Station
import NewGrf.Property.Block

namespace NewGrf

namespace Graphics

open Chain (compile)

/-- A value of the block, by its number. A value may be computed in several places. -/
abbrev Shown := Nat

namespace Shown

def ofExpr (e : Expr) : Build Shown := do
  let values := (← get).shownValues
  modify fun s => { s with shownValues := values.push e }
  pure values.size

def value (s : Shown) : Build Expr := do pure ((← get).shownValues[s]?.getD (.int 0))

def same (a b : Shown) : Build Bool := do
  pure (a == b || (← Build.current (← a.value)).same (← Build.current (← b.value)))

end Shown

/-- Results by the values that lead to them. A length of a vehicle is turned into what is
missing. -/
abbrev Choices := List (Int × Shown × Bool)

def Choices.put (c : Choices) (value : Int) (s : Shown) (isLength : Bool := false) : Choices :=
  c.filter (·.1 != value) ++ [(value, s, isLength)]

def sorted (c : Choices) : Choices := c.mergeSort fun a b => a.1 ≤ b.1

def failed : Expr := .groupRef ⟨"CB_FAILED", none⟩ [] false none none

def missingLength (e : Expr) : Expr := .op .sub (.int 8) e

/-- How the result of a block is turned into what is missing of a length. -/
abbrev LengthOf := Nat → Expr → Drafting (Result × String)

def draftRanges (lengthOf : LengthOf) (node : Nat) :
    Choices → Nat → Drafting (List ResultRange × Nat)
  | [], offset => pure ([], offset)
  | (value, shown, isLength) :: rest, offset => do
    let plain (e : Expr) : Drafting (Result × String) :=
      Chain.result compile node .self offset (some e)
    let e ← shown.value
    let (result, note) ← match e, isLength with
      | e, false => plain e
      | .groupRef name .., true => if name.text == "CB_FAILED" then plain e else lengthOf node e
      | e, true => do plain (← (missingLength e).reduce)
    let (ranges, offset) ← draftRanges lengthOf node rest (offset + 10)
    pure ({ low := value, high := value, result, note } :: ranges, offset)

def shownResult (node offset : Nat) (s : Shown) : Drafting (Result × String) := do
  Chain.result compile node .self offset (some (← s.value))

def choosingWith (lengthOf : LengthOf) (d : Chain.Draft) (choices : Choices)
    (default : Shown) (pos : Position) : Build (List Action × Nat × String) := do
  let name := "@action3_" ++ toString (← get).graphicsNodes
  modify fun s => { s with graphicsNodes := s.graphicsNodes + 1 }
  let node ← Chain.newNode d name (some pos) {}
  let draft : Drafting Unit := do
    Drafting.emit d.before
    Drafting.patch d.nodePatches
    let (ranges, offset) ← draftRanges lengthOf node (sorted choices) (5 + d.size)
    let (default, defaultNote) ← shownResult node offset default
    Build.setBody node (.chain { chain := d.chain, ranges, default, defaultNote })
  let ((), draft) ← draft.run {}
  pure (draft.actions ++ Action.patching draft.patches ++ [.node node], node, name)

def calledLength (feature : Int) (pos : Position) : LengthOf := fun parent e => do
  match e with
  | .groupRef name args _ group p =>
    let d ← Chain.run feature .self (Chain.pushCall compile name args true group p)
    let plain : LengthOf := fun _ _ => pure (.number 0, "")
    let length ← Shown.ofExpr (missingLength (Expr.var 0x1C))
    let (actions, node, own) ← choosingWith plain d [(0xFFFF, ← Shown.ofExpr failed, false)]
      length pos
    Build.refer parent node
    Drafting.emit actions
    pure (.node node, own ++ ";")
  | _ => pure (.number 0, "")

def choosing (d : Chain.Draft) (choices : Choices) (default : Shown) (pos : Position) :
    Build (List Action × Shown) := do
  let (actions, node, name) ← choosingWith (calledLength d.feature pos) d choices default pos
  pure (actions, ← Shown.ofExpr (.groupRef ⟨name, none⟩ [] false (some node) none))

/-- Graphics by cargo; nothing stands for all other cargos. -/
abbrev ByCargo := List (Option Int × Shown)

def cargoOrder : Option Int → Int
  | none => -1
  | some n => n

def ByCargo.put (c : ByCargo) (cargo : Option Int) (s : Shown) : ByCargo :=
  if c.any (·.1 == cargo) then c.map fun (k, v) => if k == cargo then (k, s) else (k, v)
  else c ++ [(cargo, s)]

def ByCargo.sorted (c : ByCargo) : ByCargo :=
  c.mergeSort fun a b => cargoOrder a.1 ≤ cargoOrder b.1

structure Reader where
  cargos : ByCargo := []
  seen : List String := []
  callbacks : List (Callback.Info × Shown) := []
  rotor : Option Shown := none
  layouts : Option StationLayouts := none
  customSets : List Shown := []
  prepare : Option Shown := none
  purchasePrepare : Option Shown := none
  foundations : Option Shown := none
  actions : List Action := []
  deriving Inhabited

def Reader.enter (r : Reader) (cargo : Option Int) (s : Shown) : Reader :=
  { r with cargos := r.cargos.put cargo s }

def readLayouts (feature id : Int) (name : Ident) (value : Expr) (r : Reader) :
    Build Reader := do
  let (actions, layouts) ← match value with
    | .num source _ =>
      match (← get).stationLayouts.lookup source with
      | none => Build.fail "Unknown station" name.pos
      | some layouts => pure ([Station.copyLayouts feature id source], layouts)
    | .array es _ =>
      if es.length % 2 == 0 then Station.layouts feature id es
      else
        Build.fail ("'" ++ name.text ++ "' must be an array of even length, or the ID of a station")
          name.pos
    | _ =>
      Build.fail ("'" ++ name.text ++ "' must be an array of even length, or the ID of a station")
        name.pos
  modify fun s => { s with
    stationLayouts := (id, layouts) :: s.stationLayouts.filter (·.1 != id) }
  pure { r with layouts := some layouts, actions := r.actions ++ actions }

def readMeaning (feature id : Int) (tile : Option Char) (name : Ident) (value : Shown)
    (r : Reader) (m : Callback.Meaning) : Build Reader := do
  match m with
  | .cargo number =>
    if r.cargos.any (·.1 == number) then
      Build.fail ("Graphics for '" ++ name.text ++ "' are defined multiple times.") name.pos
    pure (r.enter number value)
  | .callback info =>
    if tile.isSome && info.tiles.isSome && info.tiles != tile then pure r
    else pure { r with callbacks := r.callbacks ++ [(info, value)] }
  | .override => pure { r with rotor := some value }
  | .layouts => do readLayouts feature id name (← value.value) r
  | .prepareLayout purchase =>
    pure (if purchase then { r with purchasePrepare := some value }
      else { r with prepare := some value })
  | .foundations => pure { r with foundations := some value }
  | .customSets =>
    match ← value.value with
    | .array es _ =>
      if 6 < es.length then
        Build.fail ("'" ++ name.text ++ "' must be an array of at most 6 elements") name.pos
      pure { r with customSets := ← es.mapM Shown.ofExpr }
    | _ => Build.fail ("'" ++ name.text ++ "' must be an array of at most 6 elements") name.pos

def readDef (feature id : Int) (tile : Option Char) (r : Reader) (d : Expr × Shown) :
    Build Reader := do
  let (key, value) := d
  let meanings : Option (Ident × List Callback.Meaning) := match key with
    | .ident name pos => ((Callback.ofFeature feature).lookup name).map fun ms => (⟨name, pos⟩, ms)
    | _ => none
  match meanings with
  | some (name, ms) =>
    if r.seen.contains name.text then
      Build.fail ("Callback '" ++ name.text ++ "' is defined multiple times.") name.pos
    ms.foldlM (readMeaning feature id tile name value) { r with seen := name.text :: r.seen }
  | none =>
    let (cargo, pos) ← key.reduceConstant Scope.general
    if 5 ≤ feature then
      Build.fail
        "Associating graphics with a specific cargo is possible only for vehicles and stations." pos
    if r.cargos.any (·.1 == some cargo) then
      Build.fail ("Graphics for cargo " ++ toString cargo ++ " are defined multiple times.") pos
    pure (r.enter (some cargo) value)

def readDefault (feature : Int) (value : Option (Option Position × Shown)) (r : Reader) :
    Build Reader := do
  match value with
  | none => pure r
  | some (pos, shown) =>
    unless (Callback.ofFeature feature).any (·.1 == "default") do
      Build.fail ("Default graphics may not be defined for this feature (0x" ++ hexText 2 feature
        ++ ").") pos
    if r.cargos.any (·.1.isNone) then Build.fail "Default graphics are defined twice." pos
    pure (r.enter none shown)

def value? (r : Reader) (cargo : Option Int) : Option Shown :=
  (r.cargos.find? (·.1 == cargo)).map (·.2)

def withDefault (r : Reader) : Build Reader := do
  if (value? r none).isSome then pure r else pure (r.enter none (← Shown.ofExpr failed))

def withPurchase (r : Reader) : Reader :=
  match value? r (some 0xFF), value? r none with
  | none, some s => { r with cargos := r.cargos.put (some 0xFF) s }
  | _, _ => r

/-- The sprite sets of a station, by their slots. Those that are shown by default are left out. -/
def slotChoices (feature : Int) (custom : List Shown) (default : Shown) :
    List (StationSet × Int) → Choices → Build (List Action × Choices)
  | [], choices => pure ([], choices)
  | (set, slot) :: rest, choices => do
    let (before, ref) ← match set with
      | .block id => do
        let before ← SpriteSet.showing id feature none
        let b ← Build.block? id
        let ref : Expr :=
          .groupRef (b.name.getD ⟨"", none⟩) [] false (b.nodes.lookup feature) none
        pure (before, ← Shown.ofExpr ref)
      | .custom i =>
        if (custom.length : Int) < i then Build.fail "Index out of range"
        let place := if i < 0 then i + custom.length else i
        pure ([], custom[place.toNat]?.getD 0)
    let choices := if ← ref.same default then choices else choices.put slot ref
    let (more, choices) ← slotChoices feature custom default rest choices
    pure (before ++ more, choices)

def pushPreparation (feature id : Int) (purchase : Bool) (r : Reader) :
    Chain.Adding Reader := do
  let r ← match r.purchasePrepare, purchase, r.prepare with
    | some s, true, _ => do
      Chain.pushAll compile (← s.value)
      Chain.pushOp .last
      pure r
    | _, _, some s => do
      let (r, s) ← match ← s.value with
        | .groupRef .. => pure (r, s)
        | e => do
          let name := "Station Layout@prepare - Id " ++ hexText 2 id
          let (actions, i) ← Chain.returning compile e feature name .self
          let ref ← Shown.ofExpr (.groupRef ⟨name, none⟩ [] false (some i) none)
          pure ({ r with actions := r.actions ++ actions, prepare := some ref }, ref)
      compile (← s.value)
      Chain.pushOp .last
      pure r
    | _, _, _ => pure r
  if let some (name, node) := r.layouts.bind (·.registers) then
    Chain.pushTerm (.call node name)
    Chain.pushOp .last
    modify fun d => { d with calls := d.calls ++ [node] }
  pure r

/-- Puts the choice of a sprite set in front of the graphics of a station. -/
def chooseSets (feature id : Int) (g : Graphics) (r : Reader) (cargo : Option Int)
    (shown : Shown) : Build Reader := do
  let (r, d) ← (pushPreparation feature id (cargo == some 0xFF) r).run { feature, range := .self }
  let first : Choices := match r.foundations with
    | some s => [(0x02, s, false)]
    | none => []
  let slots := (r.layouts.map (·.slots.slots)).getD []
  let (before, choices) ← slotChoices feature r.customSets shown slots first
  let r := { r with actions := r.actions ++ before }
  if choices.isEmpty && d.steps.isEmpty then return r
  let choices := if choices.isEmpty then choices.put 0 shown else choices
  let ((), d) ← (compile (Expr.var 0x10 0 0xFF)).run d
  let (actions, ref) ← choosing d choices shown g.pos
  pure ({ r with actions := r.actions ++ actions }.enter cargo ref)

def stationSets (feature id : Int) (g : Graphics) (r : Reader) : Build Reader := do
  if r.layouts.isNone && r.foundations.isNone then return r
  let r ← withDefault r
  let r := if r.purchasePrepare.isSome then withPurchase r else r
  r.cargos.sorted.foldlM (fun r (cargo, shown) => chooseSets feature id g r cargo shown) r

structure Lookup where
  flags : Int := 0
  normal : Choices := []
  purchase : Choices := []
  properties : Choices := []
  purchaseProperties : Choices := []
  production : Choices := []

def addCallback (feature : Int) (r : Reader) (l : Lookup)
    (c : Callback.Info × Shown) : Reader × Lookup :=
  let (info, value) := c
  let flags := match info.flag with
    | some bit => Number.bitOr l.flags (Number.twoPow bit)
    | none => l.flags
  let l := { l with flags }
  let (normal, purchase) := match info.purchase with
    | .never => (true, false)
    | .also => (true, true)
    | .only => (false, true)
    | .unless name => (true, !r.seen.contains name)
  let r := if info.purchase == .only then withPurchase r else r
  let put (c : Choices) (wanted : Bool) (key : Int) : Choices :=
    if wanted then c.put key value info.isLength else c
  let l :=
    if info.number == 0x36 then
      { l with properties := put l.properties normal info.part
               purchaseProperties := put l.purchaseProperties purchase info.part }
    else if feature == 0x0A && info.number == 0x00 then
      { l with production := put l.production true info.part }
    else
      { l with normal := put l.normal normal info.number
               purchase := put l.purchase purchase info.number }
  (r, l)

/-- The properties that hold the flags of callbacks: number, size, and how far the flags are
shifted. -/
def flagProperties (feature : Int) : List (Int × Nat × Nat) :=
  let two (low high : Int) : List (Int × Nat × Nat) := [(low, 1, 0), (high, 1, 8)]
  match feature with
  | 0x00 => two 0x1E 0x31
  | 0x01 => two 0x17 0x28
  | 0x02 => two 0x12 0x22
  | 0x03 => two 0x14 0x22
  | 0x04 => [(0x0B, 1, 0)]
  | 0x05 => [(0x08, 1, 0)]
  | 0x07 => two 0x14 0x1D
  | 0x09 => [(0x0E, 1, 0)]
  | 0x0A => two 0x21 0x22
  | 0x0B => [(0x1A, 1, 0)]
  | 0x0F => [(0x15, 2, 0)]
  | 0x11 => [(0x0E, 1, 0)]
  | 0x14 => [(0x11, 1, 0)]
  | _ => []

def flagActions (feature id flags : Int) : List Action :=
  let properties := (flagProperties feature).filterMap fun (number, size, shift) =>
    let whole := (flagProperties feature).length == 1
    let value := if whole then flags else Number.bitAnd (Number.shiftRight flags shift) 0xFF
    if value == 0 then none else some (PropertyData.values number [.number value] size)
  [.properties { feature, first := id, properties }]

def tilePlace : Char → Int
  | 'e' => 0x010100
  | 'w' => 0x020001
  | 's' => 0x030101
  | _ => 0x000000

/-- What is computed before callbacks are told apart. Houses leave their number and place in a
register. -/
def callbackNumber (tile : Option (Char × Expr)) : Build Expr := do
  let number := Expr.var 0x0C 0 0xFFFF
  match tile with
  | none => pure number
  | some (tile, north) =>
    let place ← (Expr.op .or (.int (tilePlace tile)) (.opInt .shiftLeft north 24)).reduce
    pure (.op .last (.opInt .storeTemp place 0xFF) number)

def chooseCallbacks (feature : Int) (g : Graphics) (tile : Option (Char × Expr))
    (l : Lookup) (default : Shown) (r : Reader) (cargo : Option Int) (shown : Shown) :
    Build Reader := do
  let choices := if cargo == some 0xFF then l.purchase else l.normal
  if choices.isEmpty && feature != 0x07 then return r
  let choices := if ← shown.same default then choices else choices.put 0 shown
  let e ← callbackNumber tile
  let choices := if feature == 0x07 && choices.isEmpty then choices.put 0 default else choices
  let d ← Chain.ofExpr feature .self e
  let (actions, ref) ← choosing d choices default g.pos
  pure ({ r with actions := r.actions ++ actions }.enter cargo ref)

def choosePart (feature : Int) (g : Graphics) (var : Int) (parts : Choices)
    (default : Shown) (target : Choices) (number : Int) (r : Reader) :
    Build (Reader × Choices) := do
  if parts.isEmpty then return (r, target)
  let d ← Chain.ofExpr feature .self (Expr.var var 0 0xFF)
  let (actions, ref) ← choosing d parts default g.pos
  pure ({ r with actions := r.actions ++ actions }, target.put number ref)

def callbackChoices (feature id : Int) (g : Graphics) (tile : Option (Char × Expr))
    (r : Reader) : Build Reader := do
  if r.callbacks.isEmpty && feature != 0x07 then return r
  let r ← withDefault r
  let default := (value? r none).getD 0
  let (r, l) := r.callbacks.foldl (fun (r, l) c => addCallback feature r l c) (r, {})
  let r := if l.flags == 0 then r
    else { r with actions := r.actions ++ flagActions feature id l.flags }
  let (r, normal) ← choosePart feature g 0x10 l.properties default l.normal 0x36 r
  let (r, purchase) ←
    choosePart feature g 0x10 l.purchaseProperties default l.purchase 0x36 r
  let (r, normal) ← choosePart feature g 0x18 l.production default normal 0x00 r
  let l := { l with normal, purchase }
  r.cargos.sorted.foldlM
    (fun r (cargo, shown) => chooseCallbacks feature g tile l default r cargo shown) r

/-- Starts the action that gives an item its graphics; its number may have to be patched. -/
def newItem (feature : Int) (id : Expr) (isOverride : Bool) : Drafting (Nat × Int) := do
  let vehicle := feature ≤ 3
  let (number, before, patches) ←
    Assign.field id (if vehicle then 4 else 3) (if vehicle then 2 else 1)
  Drafting.emit before
  Drafting.patch patches
  let node ← Build.newNode
    { feature, name := "", pos := none, body := .item { id := number, isOverride } }
  pure (node, number)

def draftCargos (node : Nat) :
    ByCargo → Nat → Drafting (List (Int × Result × String) × Nat)
  | [], offset => pure ([], offset)
  | (none, _) :: rest, offset => draftCargos node rest offset
  | (some cargo, shown) :: rest, offset => do
    let (result, note) ← shownResult node (offset + 1) shown
    let (cargos, offset) ← draftCargos node rest (offset + 3)
    pure ((cargo, result, note) :: cargos, offset)

def firstResult (feature : Int) : Nat := if feature ≤ 3 then 7 else 5

def fillItem (feature : Int) (node : Nat) (number : Int) (isOverride : Bool)
    (cargos : ByCargo) : Drafting Unit := do
  let (byCargo, offset) ← draftCargos node cargos.sorted (firstResult feature)
  let (default, defaultNote) ← match cargos.find? (·.1.isNone) with
    | some (_, shown) => do
      let (result, note) ← shownResult node offset shown
      pure (some result, note)
    | none => pure (none, "")
  Build.setBody node (.item { id := number, isOverride, cargos := byCargo, default, defaultNote })

/-- The values of a block: those that are given under names or for cargos, and the default one. -/
structure Values where
  defs : List (Expr × Shown)
  default : Option (Option Position × Shown)

def valuesOf (g : Graphics) : Build Values := do
  modify fun s => { s with shownValues := #[] }
  let defs ← g.defs.mapM fun d => do pure (d.cargo, ← Shown.ofExpr (d.result.value.getD failed))
  let default ← g.default.mapM fun c => do pure (c.pos, ← Shown.ofExpr (c.value.getD failed))
  pure { defs, default }

def actionsFor (g : Graphics) (values : Values) (feature : Int) (id : Expr)
    (isOverride : Bool) (tile : Option (Char × Expr)) : Build (List Action) := do
  Assign.saveParams
  let ((node, number), d) ← (newItem feature id isOverride).run {}
  let r ← values.defs.foldlM (readDef feature number (tile.map (·.1))) {}
  let r ← readDefault feature values.default r
  let r ← stationSets feature number g r
  let r ← callbackChoices feature number g tile r
  let ((), d) ← (fillItem feature node number isOverride r.cargos).run d
  let rotor : Drafting (List Action) := match r.rotor with
    | none => pure []
    | some s => do
      -- The actions before it come in front of both items, its patches just in front of it.
      let ((other, number), own) ← (newItem feature id true).run {}
      Drafting.emit own.actions
      let ((), filled) ← (fillItem feature other number true
        [(none, s)]).run { patches := own.patches }
      Drafting.emit filled.actions
      pure (Action.patching filled.patches ++ [.graphics other])
  let (last, d) ← rotor.run d
  Assign.restoreParams
  pure (r.actions ++ d.actions ++ Action.patching d.patches ++ [.graphics node] ++ last)

def houseTilesOf (size : Int) : List Char :=
  if size == 2 then ['n', 'w'] else if size == 3 then ['n', 'e']
  else if size == 4 then ['n', 'e', 'w', 's'] else ['n']

def actions (block : Nat) (g : Graphics) (id : Expr) (isOverride : Bool) : Build (List Action) := do
  let item := (← get).item
  let sets ← SpriteSet.showingAll block
  let values ← valuesOf g
  if item.feature != 0x07 then
    return sets ++ (← actionsFor g values item.feature id isOverride none)
  let tiles ← (houseTilesOf (item.size.getD 0)).zipIdx.mapM fun (tile, i) => do
    let own ← if i == 0 then pure id else (Expr.opInt .add id i).reduce
    actionsFor g values item.feature own isOverride (some (tile, id))
  pure (sets ++ tiles.flatten)

end Graphics

end NewGrf
