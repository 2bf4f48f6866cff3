import NewGrf.Files.Lookup
import NewGrf.Sprite.Image
import NewGrf.Sprite.Pixels
import NewGrf.Text.Json

namespace NewGrf

/-- What the data of a sprite are made from: parts of images, whether borders are cropped, and the
palette that indices are for. -/
structure SpriteKey where
  colours : Option (String × Rect)
  mask : Option (String × Rect)
  cropped : Bool
  palette : Option String
  deriving Repr, DecidableEq, Inhabited

/-- The values of a stored sprite as they are written, which are written again as they are. -/
structure StoredEntry where
  coloursRect : Text.Json
  maskRect : Text.Json
  palette : Text.Json
  info : Text.Json
  crop : Text.Json
  counts : Text.Json
  deriving Inhabited

structure EncodedSprite where
  data : ByteArray
  info : Int
  margins : Option Pixels.Margins
  /-- How many pixels there are, and how many of them are of some kind. -/
  counts : Dict Int
  stored : Bool := false
  entry : Option StoredEntry := none
  used : Bool := false
  deriving Inhabited

structure Encoding where
  compress : Bool
  crop : Bool
  /-- The palette of the file; nothing stands for any. -/
  palette : Option Palette
  deriving Repr, Inhabited

namespace Encoding

def paletteName (e : Encoding) : String := (e.palette.map Palette.name).getD "ANY"

def crops (e : Encoding) (s : ImageSprite) : Bool := e.crop && !s.has ImageSprite.noCrop

def maskArea (s : ImageSprite) : Rect :=
  if s.depth == 8 then s.area else { s.area with x := s.maskPlace.1, y := s.maskPlace.2 }

def maskFile (s : ImageSprite) : Option String :=
  if s.depth == 8 then some s.file.1 else s.mask.map (·.1)

def key (e : Encoding) (s : ImageSprite) : SpriteKey :=
  let mask := (maskFile s).map (·, maskArea s)
  { colours := if s.depth == 8 then none else some (s.file.1, s.area)
    mask
    cropped := e.crops s
    palette := mask.map fun _ => e.paletteName }

end Encoding

def Build.openPicture (name : String) : Build Picture := do
  let path ← findFile name
  let files := (← get).files
  match (files.get? path).map FileEntry.content with
  | some (.picture p) => pure p
  | _ => do
    discard (readBytes path)
    throw (.system "UnidentifiedImageError" ("cannot identify image file " ++ Text.quoted path))

def Picture.gamePalette (p : Picture) (file : String) : Except Fault Palette :=
  if p.palette.size != 768 then
    .error (.inImage "Invalid palette; does not contain 256 entries." file none)
  else match Palette.ofBytes? p.palette with
    | some palette => .ok palette
    | none => .error (.inImage "Palette is not recognized as a valid palette." file none)

namespace Encoding

abbrev Opening := StateT (Dict Picture) Build

def openOnce (name : String) : Opening Picture := do
  match (← get).get? name with
  | some p => pure p
  | none =>
    let p ← Build.openPicture name
    modify fun (opened : Dict Picture) => opened.set name p
    pure p

def cut (p : Picture) (depth file : String) (r : Rect) (pos : Option Position) :
    Build ByteArray := do
  if r.x < 0 || r.y < 0 || r.x + r.width > p.width || r.y + r.height > p.height then
    Build.fail ("Read beyond bounds of image file '" ++ file ++ "'") pos
  unless p.readable do
    Build.stop (.inImage ("Failed to crop " ++ depth ++ " " ++ p.format ++ " image") file pos)
  pure (p.crop r.x.toNat r.y.toNat r.width.toNat r.height.toNat)

def colours (s : ImageSprite) : Opening (Nat × ByteArray) := do
  let file := s.file.1
  let pos := Position.nest? s.places
  let p ← openOnce file
  unless p.mode == .rgb || p.mode == .rgba do
    Build.stop (.inImage "32bpp image is not a full colour RGB(A) image." file pos)
  let data ← cut p "32bpp" file s.area pos
  pure (if p.mode == .rgba then Pixels.hasRgb ||| Pixels.hasAlpha else Pixels.hasRgb, data)

def indices (e : Encoding) (s : ImageSprite) (file : String) : Opening ByteArray := do
  let pos := Position.nest? s.places
  let p ← openOnce file
  unless p.mode == .indexed do
    Build.stop (.inImage "8bpp image does not have a palette" file pos)
  let palette ← Build.ofExcept (p.gamePalette file)
  let data ← cut p "8bpp" file (maskArea s) pos
  pure (Pixels.convert e.palette palette data)

def countBytes (data : ByteArray) (start step : Nat) (test : Nat → Bool) : Int :=
  ((List.range ((data.size - start + step - 1) / step)).filter fun i =>
    test (Lz77.byteAt data (start + step * i)).toNat).length

/-- Indices whose colours the game changes all the time. -/
def isAnimated (e : Encoding) (index : Nat) : Bool :=
  if e.palette == some .default then 0xE3 ≤ index && index ≤ 0xFE
  else 0xD9 ≤ index && index ≤ 0xF4

def interleave (size : Nat) (colours indices : ByteArray) : ByteArray :=
  (List.range indices.size).foldl
    (fun out i => (out ++ colours.extract (size * i) (size * (i + 1))).push (Lz77.byteAt indices i))
    .empty

/-- Packs pixels: as they are, or without transparent ones if that is shorter. -/
def pack (compress : Bool) (data : ByteArray) (width height info : Nat) : Nat × ByteArray :=
  let plain := Pixels.compress compress data
  match Pixels.chunk? data width height info with
  | none => (info, plain)
  | some chunks =>
    let packed := Pixels.compress compress chunks
    if packed.size + 4 < plain.size then
      (info ||| Pixels.chunked, Pixels.pushAll .empty (Pixels.littleEndian 4 chunks.size) ++ packed)
    else (info, plain)

def ofPixels (e : Encoding) (s : ImageSprite) (info : Nat) (data : ByteArray)
    (counts : Dict Int) : EncodedSprite :=
  let width := s.area.width.toNat
  let height := s.area.height.toNat
  if e.crops s then
    let (data, m) := Pixels.crop data width height info
    let (info, data) := pack e.compress data (width - (m.left + m.right)).toNat
      (height - (m.top + m.bottom)).toNat info
    { data, info, margins := some m, counts }
  else
    let (info, data) := pack e.compress data width height info
    { data, info, margins := none, counts }

def encode (e : Encoding) (s : ImageSprite) : Opening EncodedSprite := do
  let flag := if s.has ImageSprite.noCrop then Pixels.uncropped else 0
  let (kind, rgb) ← if s.depth == 8 then pure (0, .empty) else colours s
  let alpha := if kind &&& Pixels.hasAlpha == 0 then 0
    else countBytes rgb 3 4 fun b => 0 < b && b < 0xFF
  let mask ← (maskFile s).mapM (e.indices s)
  let marks := mask.getD .empty
  let counts : Dict Int := [
    ("total", s.area.width * s.area.height), ("alpha", alpha),
    ("white", countBytes marks 0 1 (· == 255)), ("anim", countBytes marks 0 1 e.isAnimated)]
  pure (match mask with
    | none => e.ofPixels s (flag ||| kind) rgb counts
    | some m =>
      let info := flag ||| kind ||| Pixels.hasIndex
      if kind == 0 then e.ofPixels s info m counts
      else e.ofPixels s info (interleave (Pixels.bytesPerPixel kind) rgb m) counts)

/-- What may be wrong with the pixels of a sprite, as far as its flags do not allow it. -/
def remarks (e : Encoding) (s : ImageSprite) (d : EncodedSprite) : List String :=
  let count (name : String) : Int := (d.counts.get? name).getD 0
  let total := count "total"
  let k := e.key s
  let remark (part : Option (String × Rect)) (n : Int) (wrong : Bool) (text : String) :
      List String :=
    match part with
    | some (file, r) =>
      if 0 < total && 0 < n && wrong then
        [(Place.pixel file r.x r.y).text ++ ": " ++ toString n ++ " of " ++ toString total
          ++ " pixels (" ++ toString (n * 100 / total) ++ "%) are " ++ text]
      else []
    | none => []
  remark k.colours (count "alpha") (s.has ImageSprite.noAlpha)
      "semi-transparent, but NOALPHA is in flags"
    ++ remark k.mask (count "white") (!s.has ImageSprite.allowWhite)
      "pure white, but WHITE isn't in flags"
    ++ remark k.mask (count "anim") (!s.has ImageSprite.allowAnimation)
      "animated, but ANIM isn't in flags"

end Encoding

end NewGrf
