import NewGrf.Session
import NewGrf.Text.Integer
import NewGrf.Text.LetterCase
import NewGrf.Text.Printable

namespace NewGrf.Build

def findPart (folder part : String) : Build String := do
  let names := (← get).files.list folder ++ [".", ".."]
  let given := Path.join folder part
  match names.filter fun n => Text.lower n == Text.lower part with
  | [] => fail ("Path \"" ++ given ++ "\" does not exist (even after case conversions)")
  | [name] =>
    if name != part then
      warn ("Path \"" ++ Path.join folder name ++ "\" at the file system does not match path \""
        ++ given ++ "\" given in the input (case mismatch in the last component)")
    pure name
  | names =>
    fail ("Path \"" ++ given ++ "\" is not unique (case conversion gave "
      ++ toString names.length ++ " solutions)")

def findParts : String → List String → Build String
  | path, [] => pure path
  | path, part :: rest => do
    let given := Path.join path part
    match (← get).foundPaths.get? given with
    | some found => findParts found rest
    | none =>
      let found := Path.join path (← findPart path part)
      unless rest.isEmpty do
        modify fun s => { s with foundPaths := s.foundPaths.set given found }
      findParts found rest

def findFile (path : String) : Build String := do
  let files := (← get).files
  let path := Path.normalize path
  match Path.root path, Path.parts path with
  | "", [] => findParts files.home ["."]
  | "", parts => findParts files.home parts
  | root, parts => findParts root parts

def refuse {α : Type} (why : Astray) (path : String) : Build α :=
  let (kind, text) := match why with
    | .missing => ("FileNotFoundError", "[Errno 2] No such file or directory: ")
    | .notFolder => ("NotADirectoryError", "[Errno 20] Not a directory: ")
    | .folder => ("IsADirectoryError", "[Errno 21] Is a directory: ")
    | .nameTooLong => ("OSError", "[Errno 36] File name too long: ")
  throw (.system kind (text ++ Text.quoted path))

def readBytes (path : String) : Build ByteArray := do
  let files := (← get).files
  if files.isFolder path then refuse .folder path
  pure ((files.bytes? path).getD .empty)

def writeFile (path : String) (content : ByteArray) : Build Unit := do
  match (← get).files.target path with
  | .ok place => modify fun s => { s with files := s.files.put place (.bytes content) }
  | .error why => refuse why path

end NewGrf.Build
