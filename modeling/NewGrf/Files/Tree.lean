import NewGrf.Dict
import NewGrf.Files.Path
import NewGrf.Files.Pattern
import NewGrf.Position

namespace NewGrf

inductive Picture.Mode where
  | indexed | grey | rgb | rgba
  deriving Repr, DecidableEq, Inhabited

def Picture.Mode.channels : Picture.Mode → Nat
  | indexed | grey => 1
  | rgb => 3
  | rgba => 4

structure Picture where
  mode : Picture.Mode
  width : Nat
  height : Nat
  palette : ByteArray := .empty
  pixels : ByteArray
  format : String := "PNG"
  readable : Bool := true
  deriving Inhabited

def Picture.crop (p : Picture) (x y width height : Nat) : ByteArray :=
  let step := p.mode.channels
  (List.range height).foldl
    (fun out row =>
      let start := ((y + row) * p.width + x) * step
      out ++ p.pixels.extract start (start + width * step))
    .empty

inductive FileContent where
  | bytes (data : ByteArray)
  | picture (p : Picture)
  deriving Inhabited

structure FileEntry where
  content : FileContent
  time : Int
  deriving Inhabited

inductive Astray where
  | missing
  /-- It goes on behind a file. -/
  | notFolder
  /-- It ends in a folder, where a file is asked for. -/
  | folder
  | nameTooLong
  deriving Repr, DecidableEq

structure FileTree where
  home : String := "/"
  files : Dict FileEntry := []
  folders : List String := []
  clock : Int := 0
  deriving Inhabited

namespace FileTree

def absolute (t : FileTree) (path : String) : String := Path.normalize (Path.join t.home path)

/-- The path below the working folder; empty for the folder itself. Other paths stay absolute. -/
def key (t : FileTree) (path : String) : String :=
  let path := t.absolute path
  let home := t.home ++ "/"
  if path == t.home then ""
  else if path.startsWith home then (path.drop home.length).toString
  else path

def get? (t : FileTree) (path : String) : Option FileEntry := t.files.get? (t.key path)

def below? (folder path : String) : Option String :=
  let lead := Path.join folder ""
  if path.startsWith lead then some (path.drop lead.length).toString else none

def list (t : FileTree) (folder : String) : List String :=
  let folder := t.key folder
  let names := (t.files.map (·.1) ++ t.folders).filterMap fun path =>
    ((below? folder path).bind fun rest => (rest.splitOn "/").head?).filter (!·.isEmpty)
  names.eraseDups

def isFolder (t : FileTree) (path : String) : Bool :=
  let k := t.key path
  k.isEmpty || t.folders.contains k || t.home.startsWith (Path.join k "")
    || (t.files.map (·.1) ++ t.folders).any fun p => (below? k p).isSome

/-- Follows the parts of a path from a place on. Only folders have parts. -/
def follow (t : FileTree) : String → List String → Except Astray String
  | place, [] => .ok place
  | place, part :: rest =>
    if t.isFolder place then
      if part.utf8ByteSize > 255 then .error .nameTooLong
      else t.follow (Path.normalize (Path.join place part)) rest
    else if (t.get? place).isSome then .error .notFolder
    else .error .missing

def start (t : FileTree) (path : String) : String := if Path.isAbsolute path then "/" else t.home

def exists? (t : FileTree) (path : String) : Bool :=
  match t.follow (t.start path) (path.splitOn "/") with
  | .ok place => !path.isEmpty && ((t.get? place).isSome || t.isFolder place)
  | .error _ => false

/-- Where a file is written to: its folder has to be there, and its path must not end like that of
a folder. -/
def target (t : FileTree) (path : String) : Except Astray String := do
  if path.isEmpty then throw .missing
  if path.utf8ByteSize ≥ 4096 then throw .nameTooLong
  let (folder, name) := Path.divide path
  let folder ← t.follow (t.start path) (folder ++ [""])
  if path.endsWith "/" || name == "." || name == ".." then throw .folder
  let place ← t.follow folder [name]
  if t.isFolder place then throw .folder
  pure place

def namesOf (t : FileTree) (onlyFolders : Bool) (folder part : String) : List String :=
  if NamePattern.isOne part then
    (t.list folder).filter fun n =>
      NamePattern.isNameOf part n && (!onlyFolders || t.isFolder (Path.join folder n))
  else if t.exists? (Path.join folder part) then [part]
  else []

/-- The paths that a path stands for if its parts are patterns, of which it has at most a number. -/
def expandParts (t : FileTree) (onlyFolders : Bool) : Nat → String → List String
  | 0, path => [path]
  | n + 1, path =>
    if !NamePattern.isOne path then [path]
    else
      let (folder, part) := Path.split path
      (t.expandParts true n folder).flatMap fun f =>
        (t.namesOf onlyFolders f part).map (Path.join f)

def expand (t : FileTree) (path : String) : List String := t.expandParts false path.length path

def put (t : FileTree) (path : String) (content : FileContent) : FileTree :=
  { t with files := t.files.set (t.key path) { content, time := t.clock } }

def remove (t : FileTree) (path : String) : FileTree :=
  let k := t.key path
  { t with files := t.files.filter (·.1 != k) }

def makeFolder (t : FileTree) (path : String) : FileTree :=
  if t.isFolder path then t else { t with folders := t.folders ++ [t.key path] }

def bytes? (t : FileTree) (path : String) : Option ByteArray :=
  (t.get? path).bind fun entry =>
    match entry.content with
    | .bytes data => some data
    | .picture _ => none

end FileTree

end NewGrf
