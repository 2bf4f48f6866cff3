import NewGrf.Action.Assign
import NewGrf.Sprite.Container
import NewGrf.Sprite.Expand

namespace NewGrf.Sprite

def actionsOf (sprites : List SpriteAction) : List Action := sprites.map .sprite

def replaceLimit : Nat := 255

structure Replacement where
  before : List Action := []
  patches : List Patch := []
  sets : List (Nat × Int) := []

/-- Splits sprites into sets. The number of the first sprite of each may have to be computed. -/
def replaceSets (start : Expr) : Nat → Nat → Nat → Replacement → Build Replacement
  | 0, _, _, r => pure r
  | fuel + 1, done, left, r => do
    if left == 0 then pure r
    else
      let count := min left replaceLimit
      let first ← if done == 0 then pure start else (start.opInt .add done).reduce
      let (v, before, patches) ← Assign.field first (3 + 3 * r.sets.length) 2
      replaceSets start fuel (done + count) (left - count)
        { before := r.before ++ before, patches := r.patches ++ patches
          sets := r.sets ++ [(count, v)] }

def replace (start : Expr) (b : SpriteBlock) : Build (List Action) := do
  Assign.saveParams
  let sprites ← SpriteContainer.sprites b.container b.pos
  let r ← replaceSets start (sprites.length + 1) 0 sprites.length {}
  Assign.restoreParams
  pure (Assign.withPatches r.before r.patches (.replace r.sets) ++ actionsOf sprites)

inductive CountRule where
  | fixed (count : Nat)
  | any
  | part (total : Nat)
  deriving Repr, DecidableEq, Inhabited

def extraKinds : List (String × Int × CountRule) := [
  ("PRE_SIGNAL", 0x04, .part 48),
  ("PRE_SIGNAL_SEMAPHORE", 0x04, .part 112),
  ("PRE_SIGNAL_SEMAPHORE_PBS", 0x04, .part 240),
  ("SIGNALS", 0x04, .part 240),
  ("CATENARY", 0x05, .part 48),
  ("FOUNDATIONS_SLOPES", 0x06, .fixed 74),
  ("FOUNDATIONS_SLOPES_HALFTILES", 0x06, .part 90),
  ("TTDP_GUI_25", 0x07, .fixed 73),
  ("TTDP_GUI", 0x07, .fixed 93),
  ("CANALS", 0x08, .part 65),
  ("ONE_WAY_ROAD", 0x09, .part 18),
  ("COLOURMAP_2CC", 0x0A, .part 256),
  ("TRAMWAY", 0x0B, .part 119),
  ("SNOWY_TEMPERATE_TREES", 0x0C, .fixed 133),
  ("COAST_TILES", 0x0D, .fixed 16),
  ("COAST_TILES_BASEGFX", 0x0D, .fixed 10),
  ("COAST_TILES_DIAGONAL", 0x0D, .fixed 18),
  ("NEW_SIGNALS", 0x0E, .any),
  ("SLOPED_RAILS", 0x0F, .part 12),
  ("AIRPORTS", 0x10, .part 15),
  ("ROAD_STOPS", 0x11, .part 8),
  ("AQUEDUCTS", 0x12, .part 8),
  ("AUTORAIL", 0x13, .part 55),
  ("FLAGS", 0x14, .part 36),
  ("OTTD_GUI", 0x15, .part 192),
  ("AIRPORT_PREVIEW", 0x16, .part 9),
  ("RAILTYPE_TUNNELS", 0x17, .part 16),
  ("OTTD_RECOLOUR", 0x18, .part 1),
  ("ROAD_WAYPOINTS", 0x19, .part 4),
  ("OVERLAY_ROCKS", 0x1A, .part 95),
  ("BRIDGE_DECKS", 0x1B, .part 24)]

/-- Checks the number of sprites; the result is the offset to write, if one is needed. -/
def checkCount (rule : CountRule) (kind : String) (count : Nat) (offset : Int) (pos : Position) :
    Build (Option Int) := do
  let noOffset : Build Unit := do
    if offset != 0 then
      Build.fail ("replacenew parameter 'offset' must be zero for sprite replacement type '"
        ++ kind ++ "'") pos
  match rule with
  | .fixed needed =>
    let found := ", expected " ++ toString needed ++ ", got " ++ toString count
    if count < needed then
      Build.fail ("Invalid sprite count for sprite replacement type '" ++ kind ++ "'" ++ found) pos
    if count > needed then
      Build.warn ("Too many sprites specified for sprite replacement type '" ++ kind ++ "'"
        ++ found ++ ", extra sprites may be ignored") pos
    noOffset
    pure none
  | .any =>
    noOffset
    pure none
  | .part total =>
    if count + offset > total then
      Build.warn ("Exceeding the limit of " ++ toString total
        ++ " sprites for sprite replacement type '" ++ kind
        ++ "', extra sprites may be ignored") pos
    pure (if offset != 0 || count != total then some offset else none)

def replaceNew (kind : Ident) (offset : Int) (b : SpriteBlock) : Build (List Action) := do
  let sprites ← SpriteContainer.sprites b.container b.pos
  match extraKinds.lookup kind.text with
  | none =>
    Build.fail (kind.text ++ " is not a valid sprite replacement type") kind.pos
  | some (number, rule) =>
    let offset ← checkCount rule kind.text sprites.length offset b.pos
    pure (.extra number sprites.length offset :: actionsOf sprites)

def baseGraphics (number : Option Int) (b : SpriteBlock) : Build (List Action) := do
  match ← SpriteContainer.sprites b.container b.pos with
  | [] => pure []
  | s :: rest => pure (actionsOf ({ s with number } :: rest))

def fontSizes : List (String × Int) := [("NORMAL", 0), ("SMALL", 1), ("LARGE", 2), ("MONO", 3)]

/-- Cuts characters in a row where their numbers pass a multiple of 128. -/
def glyphSets (size : Int) (last : Int) : Nat → Int → List (Int × Int × Int)
  | 0, _ => []
  | fuel + 1, char =>
    if char < last then
      let next := if char.fdiv 128 != last.fdiv 128 then (char.fdiv 128 + 1) * 128 else last
      (size, next - char, char) :: glyphSets size last fuel next
    else []

def fontGlyphs (size char : Expr) (b : SpriteBlock) : Build (List Action) := do
  let ((size, sizePos), (char, charPos)) ← tryCatch
    (do
      let size ← size.reduceConstant [NameTable.ofNumbers fontSizes]
      pure (size, ← char.reduceConstant))
    fun stop => match stop with
      | .fault { cause := .notConstant, .. } =>
        Build.fail "Parameters of font_glyph have to be compile-time constants" b.pos
      | stop => throw stop
  unless 0 ≤ size && size ≤ 3 do
    Build.fail "Invalid value for parameter 'font_size' in font_glyph, valid values are 0, 1, 2"
      sizePos
  unless 0 ≤ char && char ≤ 0xFFFF do
    Build.fail "Invalid value for parameter 'base_char' in font_glyph, valid values are 0-0xFFFF"
      charPos
  let sprites ← SpriteContainer.sprites b.container b.pos
  let last := char + sprites.length
  if last > 0xFFFF then
    Build.fail "Character numbers in font_glyph block exceed the allowed range (0-0xFFFF)" b.pos
  pure (.glyphs (glyphSets size last (sprites.length + 1) char) :: actionsOf sprites)

end NewGrf.Sprite
