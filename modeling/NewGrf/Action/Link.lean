import NewGrf.Sprite.Recolour
import NewGrf.Sprite.Sets
import NewGrf.Town.Link

namespace NewGrf

def ImageSprite.sized (s : ImageSprite) : Build ImageSprite := do
  match s.rect with
  | some _ => pure s
  | none =>
    let p ← Build.openPicture s.file.1
    Sprite.checkRect (0, none) (0, none) (p.width, none) (p.height, none)
    pure { s with rect := some ⟨0, 0, p.width, p.height⟩ }

namespace Action

def images : Action → List ImageSprite
  | sprite { shape := .images sprites, .. } => sprites.filterMap fun s => s
  | _ => []

def sized : Action → Build Action
  | sprite s => do
    match s.shape with
    | .images sprites =>
      let sprites ← sprites.mapM fun (i : Option ImageSprite) => i.mapM ImageSprite.sized
      pure (sprite { s with shape := .images sprites })
    | .recolour _ => pure (sprite s)
  | a => pure a

def expand : Action → Build (List Action)
  | collection i => SpriteSet.collectionActions i
  | a => pure [a]

def giveRegisters : Action → Build Unit
  | node i => Build.giveRegisters i
  | _ => pure ()

def isHead : Action → Bool
  | head .. => true
  | _ => false

def checkSound (name : String) (pos : Option Position) : Build Unit := do
  let files := (← get).files
  unless files.exists? name do Build.fail ("Sound file '" ++ name ++ "' does not exist.") pos
  if (files.bytes? name).any ByteArray.isEmpty then
    Build.fail ("Expected sound file '" ++ name ++ "' to have a non-zero length.") pos

def link (number : Int) : Action → Build Unit
  | sprite s => do
    if let some n := s.number then
      if n != number then
        Build.fail ("Sprite number " ++ toString n
          ++ " given in base_graphics-block, but it doesn't"
          ++ " match output sprite number " ++ toString number)
    match s.shape with
    | .recolour lines => Recolour.check lines
    | .images _ => pure ()
  | soundFile name pos => checkSound name pos
  | town index => Town.link index
  | node i | graphics i => Build.linkNode i
  | _ => pure ()

def linkAll (first : Int) (actions : List Action) : Build Unit :=
  (actions.zipIdx).forM fun (a, i) => a.link (first + i)

end Action

end NewGrf
