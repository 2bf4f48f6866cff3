import NewGrf.Switch.Prepare
import NewGrf.Switch.Random

namespace NewGrf.Layout

/-- Values that are to be stored before a layout is shown, and their cells. Equal values share a
cell. -/
abbrev Stores := List (Expr × Nat)

structure Reader where
  feature : Int
  tables : Scope
  stores : Stores := []
  deriving Inhabited

abbrev Reading := StateT Reader Build

def store (e : Expr) : Reading Nat := do
  match (← get).stores.find? (·.1.same e) with
  | some (_, cell) => pure cell
  | none =>
    let cell ← Build.newCell
    modify fun r => { r with stores := r.stores ++ [(e, cell)] }
    pure cell

/-- A register that holds a value. A register that the script itself names is used as it is, but not
for a station, where it might change in between. -/
def registerFor (e : Expr) : Reading RegisterRef := do
  match e, (← get).feature == 0x04 with
  | .storage .loadTemp _ (.num n _) _ _, false => pure (.fixed n)
  | e, _ => do pure (.cell (← store e))

structure Draft where
  sprite : Sprite
  pos : Option Position
  number : Expr := .int 0
  palette : Expr := .int 0
  recolourMode : Int := 0
  alwaysDraw : Bool := false
  fromSet : Bool := false
  given : List String := []
  deriving Inhabited

def scope (feature : Int) : Variable.Scope :=
  (Variable.Scope.ofRange? feature .self).getD Variable.Scope.towns

def labelsOf (set : Option Nat) : Build (Dict Nat) := do
  match set with
  | none => pure []
  | some id => pure (← Build.block? id).labels

def offset (args : List Expr) (set : Option Nat) (pos : Option Position) :
    Reading (Option Expr) := do
  match args with
  | [] => pure none
  | [e] =>
    let r ← get
    let labels ← labelsOf set
    let table : NameTable := fun name pos =>
      pure ((labels.get? name).map fun (n : Nat) => Expr.int n pos)
    let e ← e.reduceIn (scope r.feature) (r.tables ++ [table])
    match set, e with
    | some id, .num v _ =>
      let count := (← SpriteSet.spritesOf id).length
      Build.checkRange v 0 ((count : Int) - 1) "offset within spriteset" pos
    | _, _ => pure ()
    pure (some e)
  | _ => Build.fail ("Expected 0 or 1 parameter, got " ++ toString args.length) pos

/-- A sprite or a palette: a constant or something to patch in, the register with an offset, whether
it comes from a sprite set, and the slot of that set for a station. -/
structure Source where
  number : Expr
  register : Option RegisterRef := none
  fromSet : Bool := false
  slot : Option Int := none

def stationSprite : Int := 0x42D

def source (title : String) (value : Expr) : Reading Source := do
  match value with
  | .groupRef name args _ _ pos =>
    let id ← Build.resolve name
    let offset ← offset args (some id) pos
    let n ← SpriteSet.number id (← get).feature
    Build.checkRange n 0 0x3FFF "sprite" pos
    pure { number := .int n, register := ← offset.mapM registerFor, fromSet := true }
  | .stationSprites set args slot pos =>
    let offset ← offset args set pos
    pure { number := .int stationSprite, register := ← offset.mapM registerFor, fromSet := true
           slot }
  | .num v pos =>
    Build.checkRange v 0 0x3FFF title pos
    pure { number := value }
  | e =>
    if e.inAssignment then pure { number := e }
    else pure { number := .int 0, register := some (← registerFor e) }

/-- The registers of a position. Those of a building are written together for both axes. -/
def setPosition (name : String) (e : Expr) (s : Sprite) : Reading Sprite := do
  let own ← registerFor e
  let r := s.registers
  let building := s.kind == .building
  match name with
  | "xoffset" =>
    let y ← if building && r.y.isNone then pure (some (← registerFor (.int 0))) else pure r.y
    pure { s with registers := { r with x := some own, y } }
  | "yoffset" =>
    let x ← if building && r.x.isNone then pure (some (← registerFor (.int 0))) else pure r.x
    pure { s with registers := { r with x, y := some own } }
  | _ => pure { s with registers := { r with z := some own } }

def isOffset (name : String) : Bool := ["xoffset", "yoffset", "zoffset"].contains name

def setBox (name : String) (v : Int) (s : Sprite) : Sprite :=
  match name with
  | "xoffset" => { s with x := v }
  | "yoffset" => { s with y := v }
  | "zoffset" => { s with z := v }
  | "xextent" => { s with xExtent := v }
  | "yextent" => { s with yExtent := v }
  | _ => { s with zExtent := v }

def boxValue (name : String) (value : Expr) (s : Sprite) : Reading Sprite := do
  match s.kind with
  | .ground => Build.fail (name ++ " can not be set for ground sprites") value.pos
  | .child =>
    unless name == "xoffset" || name == "yoffset" do
      Build.fail (name ++ " can not be set for child sprites") value.pos
    match value with
    | .num v pos =>
      Build.checkRange v 0 255 name pos
      pure (setBox name v s)
    | e => setPosition name e s
  | .building =>
    match value, isOffset name with
    | .num v pos, true =>
      Build.checkRange v (-128) 127 name pos
      pure (setBox name v s)
    | .num v pos, false =>
      Build.checkRange v 0 255 name pos
      pure (setBox name v s)
    | e, true => setPosition name e s
    | e, false =>
      Build.fail ("Value of '" ++ name ++ "' must be a compile-time constant number.") e.pos

def boxNames : List String :=
  ["xoffset", "yoffset", "zoffset", "xextent", "yextent", "zextent"]

def paramNames : List String :=
  ["sprite", "recolour_mode", "palette", "always_draw", "hide_sprite"] ++ boxNames

def setParam (d : Draft) (name : String) (value : Expr) : Reading Draft := do
  unless paramNames.contains name do
    Build.fail ("Unknown sprite parameter '" ++ name ++ "'") value.pos
  if d.given.contains name then
    Build.fail ("Sprite parameter '" ++ name ++ "' can be set only once per sprite.") value.pos
  let s := d.sprite
  let d ← match name with
    | "sprite" => do
      let src ← source "sprite" value
      pure { d with
        number := src.number, fromSet := src.fromSet
        sprite := { s with registers := { s.registers with sprite := src.register }
                           spriteSlot := src.slot } }
    | "palette" => do
      let src ← source "palette" value
      pure { d with
        palette := src.number
        sprite := { s with registers := { s.registers with palette := src.register }
                           paletteFromSet := src.fromSet, paletteSlot := src.slot } }
    | "recolour_mode" =>
      match value with
      | .num v _ => do
        unless 0 ≤ v && v ≤ 2 do
          Build.fail ("Value of 'recolour_mode' must be RECOLOUR_NONE, RECOLOUR_TRANSPARENT or "
            ++ "RECOLOUR_REMAP.")
        pure { d with recolourMode := v }
      | e => Build.fail "Expected a compile-time constant." e.pos
    | "always_draw" =>
      match value with
      | .num v pos => do
        if s.kind == .ground then
          Build.fail ("'always_draw' may not be set for groundsprites, these are always drawn "
            ++ "anyways.") pos
        unless v == 0 || v == 1 do Build.fail "Value of 'always_draw' should be 0 or 1" pos
        pure { d with alwaysDraw := v == 1 }
      | e => Build.fail "Expected a compile-time constant number." e.pos
    | "hide_sprite" => do
      let r ← registerFor (← (Expr.not value none).reduce)
      pure { d with sprite := { s with registers := { s.registers with hide := some r } } }
    | name => do pure { d with sprite := ← boxValue name value s }
  pure { d with given := d.given ++ [name] }

/-- The number that is written for a sprite: the sprite in bits 0 to 13, how it is recoloured in 14
and 15, the palette in 16 to 29, whether it is always drawn in 30, and whether it is from a set. -/
def Draft.writtenNumber (d : Draft) : Build Expr := do
  unless d.given.contains "sprite" do
    Build.fail "'sprite' must be set for this layout sprite" d.pos
  let palette := d.given.contains "palette"
  if d.recolourMode == 0 && palette then
    Build.fail "'palette' may not be set when 'recolour_mode' is RECOLOUR_NONE."
  if d.recolourMode != 0 && !palette then
    Build.fail "'palette' must be set when 'recolour_mode' is not set to RECOLOUR_NONE."
  let flags : Int := d.recolourMode * 0x4000 + (if d.alwaysDraw then 0x40000000 else 0)
    + (if d.fromSet then 0x80000000 else 0)
  let number := Expr.opInt .add d.number flags d.pos
  pure (.op .add (.opInt .shiftLeft d.palette 16 d.pos) number)

def kindOf? : String → Option Kind
  | "ground" => some .ground
  | "building" => some .building
  | "childsprite" => some .child
  | _ => none

abbrev Values := LayoutSprite × List (Ident × Expr)

/-- Reduces the values of a sprite. The sprite sets that it names are added to those of the layout,
or get slots for a station. -/
def readValues (sets : List Nat) (s : LayoutSprite) : Reading (List Nat × Values) := do
  let r ← get
  let (sets, values) ← s.params.foldlM (fun (sets, values) a => do
    let e ← a.value.reduceIn (scope r.feature) r.tables
    match e with
    | .groupRef name args _ _ pos =>
      let id ← Build.resolve name
      unless (← Build.block? id).isSpriteset do
        Build.fail "Expected a reference to a spriteset." pos
      if r.feature == 0x04 then
        let slot ← Expr.stationSlot (.block id) pos
        pure (sets, values ++ [(a.name, Expr.stationSprites (some id) args (some slot) pos)])
      else pure (sets ++ [id], values ++ [(a.name, e)])
    | e => pure (sets, values ++ [(a.name, e)])) (sets, [])
  pure (sets, s, values)

def readSprite (v : Values) : Reading Draft := do
  let (s, values) := v
  match kindOf? s.kind.text with
  | none =>
    Build.fail ("Invalid sprite type '" ++ s.kind.text
      ++ "' encountered. Expected 'ground', 'building', or 'childsprite'.") s.kind.pos
  | some kind =>
    let station := (← get).feature == 0x04
    values.foldlM (fun d (name, value) => setParam d name.text value)
      { sprite := { kind, station }, pos := s.pos }

structure Parsed where
  ground : Draft
  buildings : List Draft := []
  deriving Inhabited

def addSprite (l : SpriteLayout) (parsed : Option Draft × List Draft) (v : Values) :
    Reading (Option Draft × List Draft) := do
  let d ← readSprite v
  if d.sprite.kind == .ground then
    if parsed.1.isSome then
      Build.fail "Sprite layout can have no more than one ground sprite" l.pos
    pure (some d, parsed.2)
  else pure (parsed.1, parsed.2 ++ [d])

def read (l : SpriteLayout) : Reading (List Action × Parsed) := do
  let feature := (← get).feature
  let (sets, values) ← l.sprites.foldlM (fun (sets, values) s => do
    let (sets, v) ← readValues sets s
    pure (sets, values ++ [v])) (([], []) : List Nat × List Values)
  let collections ← SpriteSet.collect sets feature
  let (ground, buildings) ← values.foldlM (addSprite l) (none, [])
  match ground with
  | some ground => pure (collections, { ground, buildings })
  | none =>
    if buildings.isEmpty then Build.fail "Sprite layout requires at least one sprite" l.pos
    let ground : Draft :=
      { sprite := { kind := .ground, station := feature == 0x04 }, pos := none
        given := ["sprite"] }
    pure (collections, { ground, buildings })

/-- The layout as it is written, with patches for the numbers of sprites that are not known, and
those numbers. The offset is that of the number of the ground. -/
def finish (p : Parsed) (offset : Nat) : Drafting (Layout × List Expr) := do
  let drafts := p.ground :: p.buildings
  let plain : Layout := { ground := p.ground.sprite, buildings := p.buildings.map (·.sprite) }
  let sprites ← (drafts.zip plain.numberOffsets).mapM fun (d, place) => do
    let e ← d.writtenNumber
    let (number, before, patches) ← Assign.field (← e.reduce) (offset + place) 4
    Drafting.emit before
    Drafting.patch patches
    pure ({ d.sprite with number }, e)
  match sprites.map (·.1) with
  | ground :: buildings => pure ({ ground, buildings }, sprites.map (·.2))
  | [] => pure (plain, [])

def pushStores (stores : Stores) : Chain.Adding Unit := do
  for (e, cell) in stores do
    Chain.pushAll Chain.compile e
    Chain.pushOp .storeTemp
    Chain.pushTerm (.store cell "")
    Chain.pushOp .last

end Layout

namespace SpriteLayout

def actions (id : Nat) (l : SpriteLayout) (feature : Int) : Build (List Action) := do
  unless Chain.usesLayouts feature do
    Build.fail ("Sprite layouts are not supported for feature '" ++ Feature.name feature ++ "'.")
  let params ← Build.newParams id feature (l.params.map (·.text))
  let ((collections, parsed), reader) ← (Layout.read l).run
    { feature, tables := [NameTable.ofParams params] }
  Assign.saveParams
  let ((layout, numbers), d) ← (Layout.finish parsed 4).run {}
  let node ← Build.newNode
    { feature, name := SpriteSet.nodeName l.name feature, pos := some l.pos
      body := .layout layout params numbers }
  let chain ← Chain.run feature .self (Layout.pushStores reader.stores)
  let actions := collections ++ d.actions ++ Action.patching d.patches ++ [.node node]
  let actions ←
    if chain.steps.isEmpty then do
      Build.setNode id feature node
      pure actions
    else do
      let chain := { chain with steps := chain.steps.drop 1 }
      let name := l.name.text ++ "@registers - feature " ++ hexText 2 feature
      let (more, i) ← RandomSwitch.leadingTo chain name (some l.pos) node true
      Build.setNode id feature i
      pure (actions ++ more)
  Assign.restoreParams
  pure actions

end SpriteLayout

end NewGrf
