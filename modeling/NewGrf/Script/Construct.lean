import NewGrf.Expr.Reduce
import NewGrf.Feature

namespace NewGrf

private def needIdent (e : Expr) (text : String) (pos : Option Position) : Build Ident :=
  match e with
  | .ident n p => pure ⟨n, p⟩
  | _ => Build.fail text pos

private def range? (name : String) : Option VarRange :=
  match name with
  | "SELF" => some .self
  | "PARENT" => some .parent
  | _ => none

def Switch.make (params : List Expr) (body : SwitchBody) (pos : Position) : Build Stmt := do
  match params with
  | feature :: range :: name :: rest =>
    match rest.getLast? with
    | none => few 3
    | some e =>
      let r ← needIdent range "Switch-block parameter 2 'variable range' must be an identifier."
        range.pos
      match range? r.text with
      | none =>
        Build.fail ("Unrecognized value for switch parameter 2 'variable range': '" ++ r.text
          ++ "'") r.pos
      | some varRange =>
        let name ← needIdent name "Switch-block parameter 3 'name' must be an identifier." name.pos
        let feature ← Feature.ofExpr feature
        pure (.switchBlock
          { feature, varRange, name, params := rest.dropLast, expr := e, body, pos })
  | params => few params.length
where
  few (count : Nat) : Build Stmt :=
    Build.fail ("Switch-block requires at least 4 parameters, encountered " ++ toString count) pos

def RandomChoice.make (probability : Expr) (result : Choice) : Build RandomChoice :=
  match result.value with
  | some _ => pure { probability, result }
  | none =>
    Build.fail ("Returning the computed value is not possible in a random_switch, as there is"
      ++ " no computed value.") result.pos

def RandomSwitch.kindOf (feature : Int) (kind : Expr) : Build (Ident × Option Expr) :=
  match kind with
  | .ident n p => pure (⟨n, p⟩, none)
  | .call name [] _ => pure (name, none)
  | .call name [count] _ => do
    match Variable.Scope.ofRange? feature .self with
    | some scope => pure (name, some (← count.reduceIn scope))
    | none => Build.fail "Requested scope not available for this feature." kind.pos
  | .call _ _ p =>
    Build.fail "Value for random_switch parameter 2 'type' can have only one parameter." p
  | e => Build.fail
      "random_switch parameter 2 'type' should be an identifier, possibly with a parameter." e.pos

def RandomSwitch.make (params : List Expr) (all : List RandomChoice) (pos : Position) :
    Build Stmt := do
  match params with
  | feature :: kind :: name :: rest =>
    if rest.length > 1 then wrongCount params.length
    else
      let feature ← Feature.ofExpr feature
      let (kind, count) ← kindOf feature kind
      let name ← needIdent name "random_switch parameter 3 'name' should be an identifier" pos
      let under (key : String) (c : RandomChoice) : Bool := match c.probability with
        | .ident n _ => n == key
        | _ => false
      let choices := all.filter fun c => !under "dependent" c && !under "independent" c
      if choices.isEmpty then
        Build.fail "random_switch requires at least one possible choice" pos
      pure (.randomSwitch
        { feature, kind, count, name, triggers := rest.head?.getD (.int 0), choices
          dependent := (all.filter (under "dependent")).map (·.result)
          independent := (all.filter (under "independent")).map (·.result), pos })
  | params => wrongCount params.length
where
  wrongCount (count : Nat) : Build Stmt :=
    Build.fail ("random_switch requires 3 or 4 parameters, encountered " ++ toString count) pos

def ProduceOld.make (name : Ident) (amounts : List Expr) (pos : Position) : Build Stmt := do
  let count := amounts.length + 1
  if count < 6 || 7 < count then
    Build.fail ("produce-block requires 6 or 7 parameters, encountered " ++ toString count) pos
  let params := if amounts.length < 6 then amounts ++ [.int 0] else amounts
  pure (.produceOld { name, params, pos })

namespace SpriteContainer

def new (kind : String) (name : Option Ident) : Build Nat := do
  let s ← get
  if let some n := name then
    if s.containerIds.contains n.text then
      Build.fail ("Block with name '" ++ n.text ++ "' is already defined.") n.pos
  let id := s.containers.size
  set { s with
    containers := s.containers.push { kind, name }
    containerIds := match name with
      | some n => s.containerIds.set n.text id
      | none => s.containerIds }
  pure id

/-- Adds sprites to a block. Those for the same zoom level and colour depth replace each other. -/
def add (id : Nat) (data : SpriteData) : Build Unit := do
  let c := (← get).containers[id]?.getD default
  let same (d : SpriteData) : Bool := d.zoom == data.zoom && d.depth == data.depth
  if c.data.any same then
    Build.warn ("Sprites are already defined for " ++ c.kind ++ " '"
      ++ (c.name.map (·.text)).getD "" ++ "' for this zoom level / bit depth combination. "
      ++ "This data will be overridden.") data.pos
  modify fun s => { s with
    containers := s.containers.modify id fun c =>
      { c with data := c.data.filter (!same ·) ++ [data] } }

end SpriteContainer

private def fileOf (e : Expr) (text : String) : Build FileName := do
  match ← e.reduce with
  | .literal s p => pure (s, p)
  | e => Build.fail text e.pos

private def optionalFile (e : Option Expr) (text : String) : Build (Option FileName) :=
  match e with
  | some e => do pure (some (← fileOf e text))
  | none => pure none

private def zoomOf (e : Expr) (text : String) : Build Nat :=
  match e with
  | .ident n _ =>
    match NameTable.zoomLevels.lookup n with
    | some z => pure z.toNat
    | none => Build.fail text e.pos
  | e => Build.fail text e.pos

private def depthOf (e : Expr) (text : String) : Build Nat :=
  match e with
  | .ident n _ =>
    match NameTable.bitDepths.lookup n with
    | some d => pure d.toNat
    | none => Build.fail text e.pos
  | e => Build.fail text e.pos

private def noteDepth (depth : Nat) : Build Unit :=
  if depth == 32 then modify fun s => { s with fullColour := s.allowed.fullColour } else pure ()

private def maskOf (e : Option Expr) (depth : Nat) (text : String) : Build (Option FileName) := do
  let mask ← optionalFile e text
  if let some m := mask then
    if depth ≠ 32 then Build.fail "A mask file may only be specified for 32 bpp sprites." m.2
  pure mask

def SpriteSet.make (params : List Expr) (sprites : List SpriteEntry) (pos : Position) :
    Build Stmt := do
  match params with
  | [] => wrongCount 0
  | name :: rest =>
    if rest.length > 4 then wrongCount params.length
    else
      let name ← needIdent name "Spriteset parameter 1 'name' should be an identifier" name.pos
      let container ← SpriteContainer.new "spriteset" (some name)
      let (zoom, depth, file) ← match rest with
        | zoom :: depth :: more => do
          let zoom ← zoomOf zoom
            "value for Spriteset-block parameter 2 'zoom level' is not a valid zoom level"
          let depth ← depthOf depth
            "value for Spriteset-block parameter 3 'bit depth' is not a valid bit depth"
          let file ← optionalFile more.head?
            "Spriteset-block parameter 4 'file' must be a string literal"
          pure (zoom, depth, file)
        | rest => do
          let file ← optionalFile rest.head?
            "Spriteset-block parameter 2 'file' must be a string literal"
          pure (0, 8, file)
      noteDepth depth
      let mask ← maskOf rest[3]? depth
        "Spriteset-block parameter 5 'mask_file' must be a string literal"
      SpriteContainer.add container { zoom, depth, sprites, file, mask, pos }
      pure (.spriteset { name, zoom, depth, file, mask, sprites, container, pos })
where
  wrongCount (count : Nat) : Build Stmt :=
    Build.fail ("Spriteset requires 1 to 5 parameters, encountered " ++ toString count) pos

namespace SpriteBlock

private def finish (container : Nat) (name : Option Ident) (file : Option FileName)
    (sprites : List SpriteEntry) (pos : Position) : Build SpriteBlock := do
  SpriteContainer.add container { zoom := 0, depth := 8, sprites, file, mask := none, pos }
  pure { container, name, file, sprites, pos }

def replace (params : List Expr) (sprites : List SpriteEntry) (name : Option Ident)
    (pos : Position) : Build Stmt := do
  let container ← SpriteContainer.new "replace-block" name
  match params with
  | start :: rest =>
    if rest.length > 1 then wrongCount params.length
    else
      let file ← optionalFile rest.head? "replace-block parameter 2 'file' must be a string literal"
      pure (.replace start (← finish container name file sprites pos))
  | [] => wrongCount 0
where
  wrongCount (count : Nat) : Build Stmt :=
    Build.fail ("replace-block requires 1 or 2 parameters, encountered " ++ toString count) pos

def replaceNew (params : List Expr) (sprites : List SpriteEntry) (name : Option Ident)
    (pos : Position) : Build Stmt := do
  let container ← SpriteContainer.new "replacenew-block" name
  match params with
  | type :: rest =>
    if rest.length > 2 then wrongCount params.length
    else
      let type ← needIdent type
        "replacenew parameter 'type' must be an identifier of a sprite replacement type" type.pos
      let file ← optionalFile rest.head?
        "replacenew-block parameter 2 'file' must be a string literal"
      let offset ← match rest[1]? with
        | some e => do
          let (v, _) ← e.reduceConstant
          Build.checkRange v 0 0xFFFF "replacenew-block parameter 3 'offset'" e.pos
          pure v
        | none => pure 0
      pure (.replaceNew type offset (← finish container name file sprites pos))
  | [] => wrongCount 0
where
  wrongCount (count : Nat) : Build Stmt :=
    Build.fail ("replacenew-block requires 1 to 3 parameters, encountered " ++ toString count) pos

def baseGraphics (params : List Expr) (sprites : List SpriteEntry) (name : Option Ident)
    (pos : Position) : Build Stmt := do
  let container ← SpriteContainer.new "base_graphics-block" name
  let text := "The last base_graphics-block parameter 'file' must be a string literal"
  let (number, file) ← match params with
    | [] => pure (none, none)
    | [file] => do pure (none, some (← fileOf file text))
    | [number, file] => do
      let number ← number.reduceConstant
      pure (some number, some (← fileOf file text))
    | params => Build.fail ("base_graphics-block requires 0 to 2 parameters, encountered "
        ++ toString params.length) pos
  pure (.baseGraphics number (← finish container name file sprites pos))

def fontGlyph (params : List Expr) (sprites : List SpriteEntry) (name : Option Ident)
    (pos : Position) : Build Stmt := do
  let container ← SpriteContainer.new "font_glyph-block" name
  match params with
  | size :: char :: rest =>
    if rest.length > 1 then wrongCount params.length
    else
      let file ← optionalFile rest.head?
        "font_glyph-block parameter 3 'file' must be a string literal"
      pure (.fontGlyph size char (← finish container name file sprites pos))
  | params => wrongCount params.length
where
  wrongCount (count : Nat) : Build Stmt :=
    Build.fail ("font_glyph-block requires 2 or 3 parameters, encountered " ++ toString count) pos

def alternative (params : List Expr) (sprites : List SpriteEntry) (pos : Position) :
    Build Stmt := do
  match params with
  | name :: zoom :: depth :: rest =>
    if rest.length > 2 then wrongCount params.length
    else
      let name ← needIdent name
        "alternative_sprites parameter 1 'name' must be an identifier" name.pos
      let zoom ← zoomOf zoom
        "value for alternative_sprites parameter 2 'zoom level' is not a valid zoom level"
      let depth ← depthOf depth
        "value for alternative_sprites parameter 3 'bit depth' is not a valid bit depthl"
      noteDepth depth
      let file ← optionalFile rest.head?
        "alternative_sprites-block parameter 4 'file' must be a string literal"
      let mask ← maskOf rest[1]? depth
        "alternative_sprites-block parameter 5 'mask_file' must be a string literal"
      pure (.altSprites name zoom depth mask { container := 0, name := none, file, sprites, pos })
  | params => wrongCount params.length
where
  wrongCount (count : Nat) : Build Stmt :=
    Build.fail ("alternative_sprites-block requires 3 or 4 parameters, encountered "
      ++ toString count) pos

end SpriteBlock

/-- A table of track types takes the place of the game's own. -/
def TrackKind.makeTable (kind : TrackKind) (entries : List TrackEntry) (pos : Position) :
    Build Stmt := do
  let own (n : Names) : Names := { n with ownTables := kind :: n.ownTables }
  Build.modifyNames own
  Build.once (kind.text ++ "type table") pos
  Build.modifyNames fun n => match kind with
    | .rail => { n with rails := [] }
    | .road => { n with roads := [] }
    | .tram => { n with trams := [] }
  pure (.trackTable kind entries pos)

inductive GrfEntry where
  | value (a : Assignment)
  | param (p : ParamDescription)

def GrfInfo.make (entries : List GrfEntry) (pos : Position) : Build Stmt := do
  let step (g : GrfInfo) : GrfEntry → Build GrfInfo
    | .param p => pure { g with params := g.params ++ [p] }
    | .value a =>
      match a.name.text with
      | "name" => pure { g with name := some a.value }
      | "desc" => pure { g with desc := some a.value }
      | "url" => pure { g with url := some a.value }
      | "grfid" => pure { g with grfid := some a.value }
      | "version" => pure { g with version := some a.value }
      | "min_compatible_version" => pure { g with minVersion := some a.value }
      | n => Build.fail ("Unknown item in GRF-block: " ++ n) a.name.pos
  pure (.grf (← entries.foldlM step { pos }))

def houseSizes : List (Int × Nat) := [(0, 1), (2, 2), (3, 2), (4, 4)]

def ItemHead.make (params : List Expr) (body : List Stmt) (pos : Position) : Build Stmt := do
  match params with
  | [] => wrongCount 0
  | feature :: rest =>
    if rest.length > 3 then wrongCount params.length
    else
      let feature ← Feature.ofExpr feature
      if [0x08, 0x0C, 0x0E].contains feature then
        Build.fail "Defining item blocks for this feature is not allowed." pos
      let size ← match rest[2]? with
        | none => pure none
        | some e => do
          if feature ≠ 0x07 then
            Build.fail "item-block parameter 4 'size' may only be set for houses" e.pos
          let (v, p) ← e.reduceConstant Scope.general
          if (houseSizes.lookup v).isNone then
            Build.fail "item-block parameter 4 'size' does not have a valid value" p
          pure (some (v, p))
      pure (.item { feature, name := rest.head?, id := rest[1]?, size, pos } body)
where
  wrongCount (count : Nat) : Build Stmt :=
    Build.fail ("Item block requires between 1 and 4 parameters, found " ++ toString count ++ ".")
      pos

def ErrorMessage.make (params : List Expr) (pos : Position) : Build Stmt :=
  match params with
  | severity :: message :: rest =>
    if rest.length > 3 then wrongCount params.length
    else pure (.errorMessage { severity, message, data := rest.head?, params := rest.drop 1, pos })
  | params => wrongCount params.length
where
  wrongCount (count : Nat) : Build Stmt :=
    Build.fail ("'error' expects between 2 and 5 parameters, got " ++ toString count) pos

def makeDisableItem (params : List Expr) (pos : Position) : Build Stmt := do
  match params with
  | [] => wrongCount 0
  | feature :: rest =>
    if rest.length > 2 then wrongCount params.length
    else
      let feature ← Feature.ofExpr feature
      pure (.disableItem feature rest.head? rest[1]? pos)
where
  wrongCount (count : Nat) : Build Stmt :=
    Build.fail ("disable_item() requires between 1 and 3 parameters, encountered "
      ++ toString count ++ ".") pos

def makeSort (params : List Expr) (pos : Position) : Build Stmt := do
  match params with
  | [feature, ids] =>
    let feature ← Feature.ofExpr feature
    pure (.sortVehicles feature ids pos)
  | params => Build.fail ("Sort-block requires exactly two parameters, got "
      ++ toString params.length) pos

def Snowline.make (kind : Ident) (entries : List SnowEntry) (pos : Position) : Build Stmt :=
  if kind.text == "equal" || kind.text == "linear" then
    pure (.snowline { kind := kind.text, entries, pos })
  else
    Build.fail "Unknown type of snow line (only \"equal\" and \"linear\" are supported)" kind.pos

end NewGrf
