import NewGrf.Sprite.Expand

namespace NewGrf.SpriteContainer

/-- The order of sprites: normal zoom with few colours comes first. -/
def sorted (c : SpriteContainer) : List SpriteData :=
  c.data.mergeSort fun a b => a.zoom < b.zoom || (a.zoom == b.zoom && a.depth ≤ b.depth)

def expand (d : SpriteData) : Build (List Sprite) := do
  let sprites ← Sprite.expand (← Sprite.templateFuel)
    { file := d.file, mask := d.mask, places := [d.pos] } d.sprites
  pure (sprites.map fun s => match s with
    | .image i => .image { i with zoom := d.zoom, depth := d.depth }
    | s => s)

def checkMask : Sprite → Build Unit
  | .image i =>
    match i.depth, i.mask with
    | 8, some mask => Build.fail "Mask file may only be specified for 32bpp sprites." mask.2
    | _, _ => pure ()
  | _ => pure ()

def firstShape (s : Sprite) : Build SpriteShape := do
  checkMask s
  match s with
  | .empty => pure (.images [none])
  | .image i => pure (.images [some i])
  | .recolour lines => pure (.recolour lines)

def addAlternative (pos : Position) (shape : SpriteShape) (s : Sprite) : Build SpriteShape := do
  checkMask s
  let image? : Option ImageSprite := match s with
    | .image i => some i
    | _ => none
  let isRecolour := match s with
    | .recolour _ => true
    | _ => false
  match shape, isRecolour with
  | .images sprites, false =>
    if sprites.head? == some none && image?.isSome then
      Build.warn "Alternative sprites for an empty real sprite are ignored." pos .optimisation
    pure (.images (sprites ++ [image?]))
  | _, _ =>
    Build.fail
      "Alternative sprites may only be provided for and contain real sprites, not recolour sprites."
      pos

def addAlternatives (c : SpriteContainer) (pos : Position) (shapes : List SpriteShape)
    (d : SpriteData) : Build (List SpriteShape) := do
  let sprites ← expand d
  if sprites.length ≠ shapes.length then
    Build.fail ("Expected " ++ toString shapes.length ++ " alternative sprites for " ++ c.kind
      ++ " '" ++ (c.name.map (·.text)).getD "" ++ "', got " ++ toString sprites.length ++ ".") pos
  (shapes.zip sprites).mapM fun (shape, s) => addAlternative pos shape s

def markLast : List SpriteAction → List SpriteAction
  | [] => []
  | [a] => [{ a with last := true }]
  | a :: as => a :: markLast as

def sprites (container : Nat) (pos : Position) : Build (List SpriteAction) := do
  let c := (← get).containers[container]?.getD default
  match c.sorted with
  | [] => pure []
  | first :: others =>
    let shapes ← (← expand first).mapM firstShape
    let shapes ← others.foldlM (addAlternatives c pos) shapes
    pure (markLast (shapes.map fun shape => { shape }))

end NewGrf.SpriteContainer
