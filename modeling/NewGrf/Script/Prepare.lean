import NewGrf.Action.Messages
import NewGrf.Action.Texts
import NewGrf.FileInfo.Description
import NewGrf.Property.BaseCost
import NewGrf.Sprite.Expand
import NewGrf.Switch.Prepare
import NewGrf.Town.Prepare

namespace NewGrf.Stmt

def checkTarget : Expr → Build Unit
  | .special name kind pos =>
    unless kind.assignable do
      Build.fail ("Trying to assign a value to the read-only variable '" ++ name ++ "'") pos
  | .ident .. | .param .. => pure ()
  | e => Build.fail "Left side of an assignment must be a parameter." e.pos

def addToGrid (g : TileGrid) : TileEntry → Build TileGrid
  | .property a => do
    if g.properties.contains a.name.text then
      Build.fail ("Duplicate property " ++ a.name.text ++ " in tile layout") a.name.pos
    let v ← a.value.reduceConstant Scope.general
    pure { g with properties := g.properties.set a.name.text v }
  | .tile x y kind => do
    let (x, _) ← x.reduceConstant
    let (y, _) ← y.reduceConstant
    let kind ← kind.reduceLeniently
    let kind := match kind with
      | .ident "clear" _ => .int 0xFF
      | e => e
    pure { g with tiles := g.tiles ++ [{ x, y, kind }] }

def prepareGrid (t : TileLayout) : Build Unit := do
  let g ← t.entries.foldlM addToGrid { tiles := [], properties := [], pos := t.pos }
  if (← get).grids.contains t.name.text then
    Build.fail ("A tile layout with name '" ++ t.name.text ++ "' has already been defined.") t.pos
  modify fun s => { s with grids := s.grids.set t.name.text g }

def prepareTakeover (args : List Expr) (pos : Position) : Build (List Expr) := do
  let number (e : Expr) : Build Int := do Build.ofExcept (← e.reduce Scope.general).label
  match args with
  | [target] =>
    let own ← tryCatch ((Expr.ident "GRFID" none).reduce Scope.general) fun _ =>
      Build.fail "GRFID of this grf is required, but no grf-block is defined." pos
    pure [own, .num (← number target) none]
  | [source, target] =>
    let source ← number source
    pure [.num source none, .num (← number target) none]
  | _ => Build.fail "engine_override expects 1 or 2 parameters" pos

def prepareDisable (feature : Int) (first last : Option Expr) (pos : Position) :
    Build Stmt := do
  let first ← first.mapM fun e => e.reduceConstant Scope.general
  let last ← last.mapM fun e => e.reduceConstant Scope.general
  match first, last with
  | some (a, _), some (b, p) =>
    if b < a then Build.fail "Last id to disable may not be lower than the first id." p
  | _, _ => pure ()
  let constant (v : Int × Option Position) : Expr := .num v.1 v.2
  pure (disableItem feature (first.map constant) (last.map constant) pos)

def prepareSort (feature : Int) (ids : Expr) (pos : Position) : Build Stmt := do
  let ids ← ids.reduce Scope.general
  let known := match ids with
    | .array es _ => es.all Expr.isConstant
    | _ => false
  unless known do
    Build.fail ("Second parameter is not an array of one of the items in it could not be reduced"
      ++ " to a constant number") pos
  pure (sortVehicles feature ids pos)

def prepareTowns (t : TownNames) : Build Stmt := do
  let blocks ← Town.read t
  let first := (← get).towns.blocks.size
  modify fun s => { s with towns := { s.towns with blocks := s.towns.blocks ++ blocks } }
  pure (towns ((List.range blocks.length).map (first + ·)))

def prepareTemplate (t : Template) : Build Unit := do
  for s in t.sprites do
    if let .template _ name _ pos := s then
      if name.text == t.name.text then
        Build.fail ("Sprite template '" ++ name.text ++ "' includes itself.") t.pos
      unless (← get).templates.contains name.text do
        Build.fail ("Encountered unknown template identifier: " ++ name.text) pos
  match (← get).templates.get? t.name.text with
  | some first =>
    Build.fail ("Template named '" ++ t.name.text ++ "' is already defined, first definition at "
      ++ first.pos.text) t.pos
  | none => modify fun s => { s with templates := s.templates.set t.name.text t }

def prepareAlternatives (name : Ident) (zoom depth : Nat) (mask : Option FileName)
    (b : SpriteBlock) : Build Unit := do
  let s ← get
  if (depth == 32 && !s.allowed.fullColour) || (zoom != 0 && !s.allowed.extraZoom) then return
  match s.containerIds.get? name.text with
  | some id =>
    SpriteContainer.add id { zoom, depth, sprites := b.sprites, file := b.file, mask, pos := b.pos }
  | none =>
    Build.fail ("Undeclared block identifier '" ++ name.text ++ "' encountered") name.pos

def prepareReplace (start : Expr) (b : SpriteBlock) : Build Stmt := do
  let start ← start.reduce Scope.general
  if let .num v p := start then
    Build.checkRange v 0 (4895 - b.sprites.length) "replace-block parameter 1 'start'" p
  pure (replace start b)

def prepareSet (id : Nat) : Build Unit := do
  if let .spriteset s := (← Build.block? id).content then
    let (labels, _) ← Sprite.labels (← Sprite.templateFuel) s.pos s.sprites
    Build.modifyBlock id fun b => { b with labels }

def enterItem (h : ItemHead) : Build Unit :=
  modify fun s => { s with item :=
    { feature := h.feature, id := h.id.getD default, size := h.size.map (·.1) } }

mutual

def prepare : Stmt → Build Stmt
  | assign target value pos => do
    let value ← value.reduce Scope.general
    checkTarget target
    pure (assign target value pos)
  | conditional branches => do pure (conditional (← prepareBranches branches))
  | loop guard body pos => do
    let guard ← guard.reduce Scope.general
    pure (loop guard (← prepareAll body) pos)
  | item head body => do
    enterItem head
    pure (item head (← prepareAll body))
  | properties props pos => do
    let props ← props.mapM fun p => do
      pure { p with value := ← p.value.reduceLeniently Scope.general }
    pure (properties props pos)
  | errorMessage e => do pure (errorMessage (← Messages.prepare e))
  | deactivate ids pos => do
    let ids ← ids.mapM fun e => do
      pure (Expr.num (← Build.ofExcept (← e.reduce).label) none)
    pure (deactivate ids pos)
  | townNames t => prepareTowns t
  | template t => do
    prepareTemplate t
    pure done
  | altSprites name zoom depth mask b => do
    prepareAlternatives name zoom depth mask b
    pure done
  | replace start b => prepareReplace start b
  | switchBlock s => do pure (block (← s.prepare))
  | randomSwitch s => do pure (block (← s.prepare))
  | produceOld p => do pure (block (← p.prepare))
  | produce p => do pure (block (← p.prepare))
  | spritegroup g => do pure (block (← g.prepare))
  | spritelayout l => do pure (block (← l.prepare))
  | graphics g => do pure (block (← g.prepare))
  | liveryOverride wagon g => do pure (wagonGraphics wagon (← g.prepare))
  | block id => do
    prepareSet id
    pure (block id)
  | grf g => do pure (described (← FileDescription.read g))
  | tilelayout t => do
    prepareGrid t
    pure done
  | engineOverride args pos => do pure (engineOverride (← prepareTakeover args pos) pos)
  | disableItem feature first last pos => prepareDisable feature first last pos
  | sortVehicles feature ids pos => prepareSort feature ids pos
  | basecost costs pos => do pure (basecost (← BaseCost.prepare costs) pos)
  | s => pure s

def prepareAll : List Stmt → Build (List Stmt)
  | [] => pure []
  | s :: ss => do
    let s ← s.prepare
    pure (s :: (← prepareAll ss))

def prepareBranches : List (Branch Stmt) → Build (List (Branch Stmt))
  | [] => pure []
  | ⟨guard, body, pos⟩ :: bs => do
    let guard ← guard.mapM fun e => e.reduce Scope.general
    let body ← prepareAll body
    pure (⟨guard, body, pos⟩ :: (← prepareBranches bs))

end

end NewGrf.Stmt
