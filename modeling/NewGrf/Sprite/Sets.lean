import NewGrf.Chain.Compile
import NewGrf.Sprite.Container
import NewGrf.Sprite.Expand

namespace NewGrf

namespace SpriteCollection

/-- The highest number of a set; layouts have fewer bits for it. -/
def maxSet (feature : Int) : Nat := if Chain.usesLayouts feature then 0x3FFF else 0xFFFF

def accepts (c : SpriteCollection) (set sprites : Nat) : Bool :=
  sprites == c.count
    && c.first + c.sets.length + (if c.sets.contains set then 0 else 1) ≤ maxSet c.feature

def insert (c : SpriteCollection) (set : Nat) : SpriteCollection :=
  if c.sets.contains set then c else { c with sets := c.sets ++ [set] }

def number? (c : SpriteCollection) (set : Nat) : Option Nat :=
  (c.sets.idxOf? set).map (c.first + ·)

def next (c : SpriteCollection) (sprites : Nat) : SpriteCollection :=
  { feature := c.feature, first := c.first + c.sets.length, count := sprites }

end SpriteCollection

namespace SpriteSet

def spritesOf (id : Nat) : Build (List SpriteAction) := do
  match (← Build.block? id).content with
  | .spriteset s => SpriteContainer.sprites s.container s.pos
  | _ => pure []

def newCollection (c : SpriteCollection) : Build Nat := do
  let s ← get
  set { s with collections := s.collections.push c }
  pure s.collections.size

def current? (feature : Int) : Build (Option Nat) := do
  let cs := (← get).collections
  pure ((List.range cs.size).reverse.find? fun i => (cs[i]?.map (·.feature)) == some feature)

def collectOne (feature : Int) (actions : List Action) (id : Nat) :
    Build (List Action) := do
  match ← current? feature with
  | none => pure actions
  | some current =>
    let c := (← get).collections[current]?.getD default
    let (current, actions) ←
      if c.accepts id (← spritesOf id).length then pure (current, actions)
      else do
        let i ← newCollection (c.next (← spritesOf id).length)
        pure (i, actions ++ [.collection i])
    -- The sprites are looked at once more when the set is put in.
    discard (spritesOf id)
    modify fun s => { s with collections := s.collections.modify current (·.insert id) }
    pure actions

/-- Collects the sets that the next node uses. The result holds the collections that start here. -/
def collect (ids : List Nat) (feature : Int) : Build (List Action) := do
  match ids with
  | [] => pure []
  | first :: _ =>
    let actions ← match ← current? feature with
      | some _ => pure []
      | none => do
        let i ← newCollection { feature, first := 0, count := (← spritesOf first).length }
        pure [Action.collection i]
    ids.foldlM (collectOne feature) actions

def number (id : Nat) (feature : Int) : Build Nat := do
  pure (((← get).collections.toList.findSome? fun c =>
    if c.feature == feature then c.number? id else none).getD 0)

def collectionActions (index : Nat) : Build (List Action) := do
  let c := (← get).collections[index]?.getD default
  let sprites ← c.sets.mapM spritesOf
  pure (.spriteSets c.feature c.first c.sets.length c.count :: sprites.flatten.map .sprite)

def usesSets (feature : Int) : Bool :=
  [0x00, 0x01, 0x02, 0x03, 0x04, 0x05, 0x0B, 0x0D, 0x10, 0x12, 0x13].contains feature

def nodeName (name : Ident) (feature : Int) : String :=
  name.text ++ " - feature " ++ hexText 2 feature

def showing (id : Nat) (feature : Int) (pos : Option Position) : Build (List Action) := do
  let b ← Build.block? id
  if (b.nodes.lookup feature).isSome then return []
  let before ← collect [id] feature
  let name := (b.name.map fun n => nodeName n feature).getD ""
  let i ← Build.newNode
    { feature, name, pos, body := Chain.simpleSets feature (← number id feature) }
  Build.setNode id feature i
  pure (before ++ [.node i])

def showingAll (block : Nat) : Build (List Action) := do
  let b ← Build.block? block
  let actions ← b.features.mapM fun feature => do
    if !b.usedSets.isEmpty && !usesSets feature then
      Build.fail ("Directly referring to sprite sets is not possible for feature "
        ++ hexText 2 feature) b.pos
    let actions ← b.usedSets.mapM fun id => showing id feature b.pos
    pure actions.flatten
  pure actions.flatten

end SpriteSet

namespace SpriteGroup

def groupText (feature : Int) : String :=
  "Sprite groups for feature " ++ hexText 2 feature
    ++ " will not be supported in the future, as they are no longer needed."
    ++ " Directly refer to sprite sets instead."

/-- The names of views mean how much is loaded; stations have names of their own, which features
behind them see as the usual ones. -/
def viewName (feature : Int) (forStations : Bool) (v : SpriteView) : Build String := do
  if feature < 0x04 || !forStations then return v.name.text
  match v.name.text with
  | "lots" => pure "loading"
  | "little" => pure "loaded"
  | _ => Build.fail ("Unexpected '" ++ v.name.text ++ "' (list of) sprite set(s).") v.pos

def setIds (v : SpriteView) : Build (List Nat) := v.sets.mapM fun e => match e with
  | .groupRef name .. => Build.resolve name
  | _ => pure 0

def checkViews (g : SpriteGroup) (feature : Int) (names : List String) : Build Unit := do
  let sorted := names.mergeSort (fun a b => a ≤ b)
  if 0x00 ≤ feature && feature ≤ 0x03 then
    if sorted != ["loaded", "loading"] then
      Build.fail "Expected a 'loading' and a 'loaded' (list of) sprite set(s)." g.pos
  else if feature == 0x04 then
    unless names.contains "loading" do
      Build.fail "Expected at least a 'lots' (list of) sprite set(s)." g.pos
  else if [0x05, 0x0B, 0x0D, 0x10].contains feature then
    Build.warn (groupText feature) g.pos
    if sorted != ["default"] then
      Build.fail "Expected only a 'default' (list of) sprite set(s)." g.pos

def actions (id : Nat) (g : SpriteGroup) (feature : Int) : Build (List Action) := do
  unless SpriteSet.usesSets feature do
    Build.fail ("Sprite groups that combine sprite sets are not supported for feature '"
      ++ Feature.name feature ++ "'.") g.pos
  let forStations := (← Build.block? id).features.contains 0x04
  let views ← g.views.mapM fun v => do
    let ids ← setIds v
    pure (v, ← viewName feature forStations v, ids)
  let before ← SpriteSet.collect (views.flatMap fun (_, _, ids) => ids) feature
  checkViews g feature (views.map fun (_, name, _) => name)
  let numbers ← views.mapM fun (v, name, ids) => do
    if ids.isEmpty then Build.fail "Expected at least one sprite set, encountered 0." v.pos
    pure (name, ← ids.mapM fun id => do pure ((← SpriteSet.number id feature : Nat) : Int))
  let pick (loading : Bool) : List Int := (numbers.filter fun (name, _) =>
    (name == "loading") == loading).flatMap (·.2)
  let i ← Build.newNode
    { feature, name := SpriteSet.nodeName g.name feature, pos := some g.pos
      body := .sets (pick false) (pick true) }
  Build.setNode id feature i
  pure (before ++ [.node i])

end SpriteGroup

end NewGrf
