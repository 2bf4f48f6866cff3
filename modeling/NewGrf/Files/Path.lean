namespace NewGrf.Path

def isAbsolute (path : String) : Bool := path.startsWith "/"

/-- Puts a path below another one, unless it is absolute. -/
def join (folder path : String) : String :=
  if isAbsolute path || folder.isEmpty then path
  else if folder.endsWith "/" then folder ++ path
  else folder ++ "/" ++ path

def addPart (absolute : Bool) (parts : List String) (part : String) : List String :=
  if part.isEmpty || part == "." then parts
  else if part == ".." then
    match parts with
    | [] => if absolute then [] else [part]
    | last :: rest => if last == ".." then part :: parts else rest
  else part :: parts

/-- What stands between the slashes of a path. -/
def segments (path : String) : List String := (path.toList.splitOn '/').map String.ofList

def parts (path : String) : List String :=
  ((segments path).foldl (addPart (isAbsolute path)) []).reverse

/-- The slashes that an absolute path starts with. Two have a meaning of their own, more do not. -/
def root (path : String) : String :=
  if path.startsWith "///" then "/"
  else if path.startsWith "//" then "//"
  else if path.startsWith "/" then "/"
  else ""

def normalize (path : String) : String :=
  match root path ++ "/".intercalate (parts path) with
  | "" => "."
  | p => p

def split (path : String) : String × String :=
  let cs := path.toList.reverse
  let name := String.ofList (cs.takeWhile (· != '/')).reverse
  let folder := (cs.dropWhile (· != '/')).reverse
  if folder.all (· == '/') then (String.ofList folder, name)
  else (String.ofList (folder.reverse.dropWhile (· == '/')).reverse, name)

def withoutParents : List Char → List Char
  | '.' :: '.' :: rest => '_' :: '_' :: withoutParents rest
  | c :: rest => c :: withoutParents rest
  | [] => []

/-- A path without two dots in a row, so that no part of it leads upwards. -/
def confined (path : String) : String := String.ofList (withoutParents path.toList)

/-- The parts of a path up to the last one, and the last one, as they are written. Slashes at the
end do not count. -/
def divide (path : String) : List String × String :=
  let parts := ((path.splitOn "/").reverse.dropWhile (·.isEmpty)).reverse
  (parts.dropLast, parts.getLastD "")

/-- A path without and with only its extension, which starts with the last dot of the name. Dots at
the start of the name do not count. -/
def splitExtension (path : String) : String × String :=
  let (_, name) := split path
  let lead := (name.toList.takeWhile (· == '.')).length
  let body := name.toList.drop lead
  let ending := body.reverse.takeWhile (· != '.')
  if ending.length == body.length then (path, "")
  else
    let size := ending.length + 1
    (String.ofList (path.toList.take (path.length - size)),
      String.ofList (path.toList.drop (path.length - size)))

end NewGrf.Path
