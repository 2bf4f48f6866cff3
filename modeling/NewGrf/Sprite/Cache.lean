import NewGrf.Sprite.Encode
import NewGrf.Text.Utf8

namespace NewGrf

abbrev SpriteCache := List (SpriteKey × EncodedSprite)

namespace SpriteCache

open Text (Json)

def find? (c : SpriteCache) (k : SpriteKey) : Option EncodedSprite := List.lookup k c

def insert (c : SpriteCache) (k : SpriteKey) (e : EncodedSprite) : SpriteCache :=
  if (c.find? k).isSome then c.map fun p => if p.1 == k then (k, e) else p
  else c ++ [(k, e)]

def orphans (c : SpriteCache) : Nat := (c.filter fun p => !p.2.used).length

/-- Where the sprites are kept that are cut from some images. The folder of the first image is kept,
but does not lead upwards. -/
def path (root : String) (sources : List String) (extension : String) : String :=
  match sources with
  | [] => extension
  | first :: others =>
    let (folder, name) := Path.split first
    Path.join (Path.join root (Path.confined (Path.normalize folder))) name
      ++ String.join (others.map fun o => "_" ++ (Path.split o).2) ++ extension

structure Slot where
  key : SpriteKey
  sprite : EncodedSprite
  offset : Nat
  size : Nat
  deriving Inhabited

namespace Slot

def rect? (v : Json) : Option Rect :=
  match v.ints? with
  | some [x, y, width, height] => some ⟨x, y, width, height⟩
  | _ => none

def margins? (v : Json) : Option Pixels.Margins :=
  match v.ints? with
  | some [left, right, top, bottom] =>
    some { left, right, top, bottom }
  | _ => none

/-- A part of an image, which has a name and a rectangle. It is not there unless both are. -/
def part? (members : List (String × Json)) (file rect : String) :
    Option (Option (String × Rect)) :=
  match Json.member? members file, Json.member? members rect with
  | some f, some r => do
    let f ← f.string?
    let r ← rect? r
    some (some (f, r))
  | _, _ => some none

def ofJson? (v : Json) : Option Slot := do
  let .object ms := v | none
  let colours ← part? ms "rgb_file" "rgb_rect"
  let mask ← part? ms "mask_file" "mask_rect"
  if colours.isNone && mask.isNone then none
  let palette ← match Json.member? ms "mask_pal" with
    | none | some .null => some none
    | some (.string s) => some (some s)
    | some (.array _) | some (.object _) => none
    | some v => some (some v.print)
  let offset ← (← Json.member? ms "offset").int?
  let size ← (← Json.member? ms "size").int?
  if offset < 0 || size ≤ 0 then none
  let info ← (← Json.member? ms "info").int?
  let margins ← match Json.member? ms "crop" with
    | none => some none
    | some c => (margins? c).map some
  let counts ← match Json.member? ms "pixel_stats" with
    | none => some []
    | some (.object cs) => some cs
    | some _ => none
  let written (name : String) : Json := (Json.member? ms name).getD .null
  let entry : StoredEntry :=
    { coloursRect := written "rgb_rect", maskRect := written "mask_rect"
      palette := written "mask_pal", info := written "info", crop := written "crop"
      counts := .object counts }
  some {
    key := { colours, mask, cropped := margins.isSome, palette }
    sprite := { data := .empty, info, margins, stored := true, entry
                counts := counts.filterMap fun (n, c) => c.int?.map (n, ·) }
    offset := offset.toNat
    size := size.toNat }

def rectJson (r : Rect) : Json := .array [.int r.x, .int r.y, .int r.width, .int r.height]

def newEntry (s : Slot) : StoredEntry :=
  let rect (part : Option (String × Rect)) : Json := (part.map fun p => rectJson p.2).getD .null
  { coloursRect := rect s.key.colours
    maskRect := rect s.key.mask
    palette := (s.key.palette.map .string).getD .null
    info := .int s.sprite.info
    crop := (s.sprite.margins.map fun m =>
      .array ([m.left, m.right, m.top, m.bottom].map .int)).getD .null
    counts := .object (s.sprite.counts.map fun (n, c) => (n, .int c)) }

def toJson (s : Slot) : Json :=
  let e := s.sprite.entry.getD s.newEntry
  let part (file rect : String) (value : Json) : Option (String × Rect) → List (String × Json)
    | some (f, _) => [(file, .string f), (rect, value)]
    | none => []
  .object (part "rgb_file" "rgb_rect" e.coloursRect s.key.colours
    ++ part "mask_file" "mask_rect" e.maskRect s.key.mask
    ++ (if s.key.palette.isSome then [("mask_pal", e.palette)] else [])
    ++ (if s.key.cropped then [("crop", e.crop)] else [])
    ++ [("offset", .int s.offset), ("size", .int s.size), ("info", e.info),
        ("pixel_stats", e.counts)])

end Slot

/-- When the file of an image was changed. Each file is looked up once. -/
def changed (times : Dict Int) (file : String) : Build (Int × Dict Int) := do
  match times.get? file with
  | some t => pure (t, times)
  | none =>
    let path ← Build.findFile file
    let files := (← get).files
    let t := ((files.get? path).map FileEntry.time).getD 0
    pure (t, times.set file t)

def isFresh (time : Int) (times : Dict Int) (part : Option (String × Rect)) :
    Build (Bool × Dict Int) := do
  match part with
  | some (file, _) =>
    let (t, times) ← changed times file
    pure (t ≤ time, times)
  | none => pure (true, times)

/-- Adds the entries of an index to a cache, as long as their images have not changed. The result
is nothing if an entry is wrong. -/
def load (data : ByteArray) (time : Int) : List Json → Dict Int → SpriteCache →
    Build (Option SpriteCache)
  | [], _, c => pure (some c)
  | v :: vs, times, c => do
    match Slot.ofJson? v with
    | none => pure none
    | some s =>
      if (c.find? s.key).isSome || data.size < s.offset + s.size then return none
      let (freshColours, times) ← isFresh time times s.key.colours
      let (freshMask, times) ← isFresh time times s.key.mask
      let entry := { s.sprite with data := data.extract s.offset (s.offset + s.size) }
      let valid := freshColours && freshMask && s.key.mask.isSome == s.key.palette.isSome
      load data time vs times (if valid then c ++ [(s.key, entry)] else c)

def read (root : Option String) (sources : List String) : Build SpriteCache := do
  match root with
  | none => pure []
  | some root =>
    let files := (← get).files
    let indexPath := path root sources ".cacheindex"
    match files.get? (path root sources ".cache"), files.bytes? indexPath with
    | some ⟨.bytes data, time⟩, some index =>
      let entries := match Json.parse? (Text.Utf8.decode index).1 with
        | some (.array vs) => some vs
        | _ => none
      let loaded ← match entries with
        | some vs => tryCatch (load data time vs [] []) fun _ => pure none
        | none => pure none
      match loaded with
      | some c => pure c
      | none => do
        Build.warn (indexPath ++ " contains invalid data, ignoring. Please remove the file and file"
          ++ " a bug report if this warning keeps appearing")
        pure []
    | _, _ => pure []

def slots : Nat → SpriteCache → List Slot
  | _, [] => []
  | offset, (key, sprite) :: rest =>
    { key, sprite, offset, size := sprite.data.size } :: slots (offset + sprite.data.size) rest

/-- Writes a file and makes the folders that it lies in. The result is whether that was possible. -/
def store (path : String) (content : ByteArray) : Build Bool := do
  let files := (← get).files
  let parts := Path.parts (files.absolute path)
  let above := (List.range parts.length).map fun n => "/" ++ "/".intercalate (parts.take n)
  if files.isFolder path || above.any fun p => (files.get? p).isSome then
    Build.warn ("Can't create cache file " ++ path
      ++ ". Check permissions, or use --cache-dir or --no-cache.")
    pure false
  else
    modify fun s => { s with
      files := (s.files.makeFolder (Path.split path).1).put path (.bytes content) }
    pure true

def write (root : Option String) (keepOrphaned : Bool) (sources : List String) (c : SpriteCache) :
    Build Unit := do
  match root with
  | none => pure ()
  | some root =>
    let kept := c.filter fun p => p.2.used || keepOrphaned
    if kept.length == c.length && kept.all fun p => p.2.stored then return
    let dataPath := path root sources ".cache"
    if ← store dataPath .empty then
      let index := Json.print (.array ((slots 0 kept).map Slot.toJson))
      if ← store (path root sources ".cacheindex") index.toUTF8 then
        discard (store dataPath (kept.foldl (fun b p => b ++ p.2.data) .empty))

end SpriteCache

structure EncodingCounts where
  kept : Nat := 0
  orphaned : Nat := 0
  duplicate : Nat := 0
  encoded : Nat := 0
  deriving Repr, Inhabited

structure SpriteSource where
  file : String
  mask : Option String
  sprites : List ImageSprite
  deriving Inhabited

namespace SpriteSource

def files (s : SpriteSource) : List String := s.file :: s.mask.toList

def add (s : ImageSprite) : List SpriteSource → List SpriteSource
  | [] => [{ file := s.file.1, mask := s.mask.map (·.1), sprites := [s] }]
  | g :: gs =>
    if g.file == s.file.1 && g.mask == s.mask.map (·.1) then
      { g with sprites := g.sprites ++ [s] } :: gs
    else g :: add s gs

/-- Sprites by the images that they are cut from, in the order in which the images come up. -/
def collect (sprites : List ImageSprite) : List SpriteSource :=
  sprites.foldl (fun gs s => add s gs) []

def encodeSprite (e : Encoding) (s : ImageSprite) (c : SpriteCache) (n : EncodingCounts) :
    Encoding.Opening (SpriteCache × EncodingCounts) := do
  let key := e.key s
  match c.find? key with
  | some d =>
    if d.used then pure (c, { n with duplicate := n.duplicate + 1 })
    else pure (c.insert key { d with used := true }, { n with kept := n.kept + 1 })
  | none =>
    let d ← e.encode s
    pure (c.insert key { d with used := true }, { n with encoded := n.encoded + 1 })

/-- Where sprites are kept, and whether those that are not shown stay there. -/
structure Keeping where
  root : Option String
  orphaned : Bool
  deriving Repr, Inhabited

def encode (e : Encoding) (keeping : Keeping) (total done : Nat) (source : SpriteSource)
    (n : EncodingCounts) : Build (SpriteCache × EncodingCounts) := do
  let title := "_".intercalate source.files
  let c ← SpriteCache.read keeping.root source.files
  let step (state : SpriteCache × EncodingCounts) (entry : ImageSprite × Nat) :
      Encoding.Opening (SpriteCache × EncodingCounts) := do
    Build.modifyConsole fun c => c.updateProgress ("Encoding " ++ toString (entry.2 + 1) ++ "/"
      ++ toString total ++ ": " ++ title)
    encodeSprite e entry.1 state.1 state.2
  let ((c, n), _) ← ((source.sprites.zipIdx done).foldlM step (c, n)).run []
  if e.compress then c.write keeping.root keeping.orphaned source.files
  pure (c, { n with orphaned := n.orphaned + c.orphans })

def encodeAll (e : Encoding) (keeping : Keeping) (sources : List SpriteSource) :
    Build SpriteCache := do
  let total := Number.total (sources.map fun s => s.sprites.length)
  Build.progress "Encoding ..."
  let (all, n, _) ← sources.foldlM
    (fun ((all, n, done) : SpriteCache × EncodingCounts × Nat) s => do
      let (c, n) ← s.encode e keeping total done n
      pure (all ++ c, n, done + s.sprites.length))
    ([], {}, 0)
  Build.modifyConsole fun c => c.updateProgress "Encoding ..."
  Build.endProgress
  Build.info (toString total ++ " sprites, " ++ toString n.kept ++ " cached, "
    ++ toString n.orphaned ++ " orphaned, " ++ toString n.duplicate ++ " duplicates, "
    ++ toString n.encoded ++ " newly encoded (python)")
  pure all

end SpriteSource

end NewGrf
