import NewGrf.Files.Path

namespace NewGrf

inductive NamePiece where
  | text
  | any
  | char (c : Char)
  /-- A character of one of some ranges, or of none of them. -/
  | among (inside : Bool) (ranges : List (Char × Char))
  deriving Repr, DecidableEq

abbrev NamePattern := List NamePiece

namespace NamePattern

def isOne (path : String) : Bool := path.toList.any fun c => c == '*' || c == '?' || c == '['

def ranges : List Char → List (Char × Char)
  | lo :: '-' :: hi :: rest => (lo, hi) :: ranges rest
  | c :: rest => (c, c) :: ranges rest
  | [] => []

/-- What follows an opening bracket: the piece, and the rest of the pattern. A closing bracket does
not count at the start. -/
def bracket? (cs : List Char) : Option (NamePiece × List Char) :=
  let (inside, cs) := match cs with
    | '!' :: rest => (false, rest)
    | cs => (true, cs)
  let first := cs.take 1
  match (cs.drop 1).span (· != ']') with
  | (others, _ :: rest) => some (.among inside (ranges (first ++ others)), rest)
  | _ => none

def read : Nat → List Char → NamePattern
  | 0, _ | _, [] => []
  | n + 1, '*' :: rest => .text :: read n rest
  | n + 1, '?' :: rest => .any :: read n rest
  | n + 1, '[' :: rest =>
    match bracket? rest with
    | some (piece, rest) => piece :: read n rest
    | none => .char '[' :: read n rest
  | n + 1, c :: rest => .char c :: read n rest

def ofString (s : String) : NamePattern := read s.length s.toList

def covers : NamePattern → List Char → Bool
  | [], cs => cs.isEmpty
  | .text :: p, cs => (List.range (cs.length + 1)).any fun n => covers p (cs.drop n)
  | _ :: _, [] => false
  | .any :: p, _ :: cs => covers p cs
  | .char c :: p, d :: cs => c == d && covers p cs
  | .among inside rs :: p, c :: cs =>
    (rs.any fun r => r.1 ≤ c && c ≤ r.2) == inside && covers p cs

/-- Whether a pattern stands for the name of a file. A name that starts with a dot needs a pattern
that starts with one. -/
def isNameOf (pattern name : String) : Bool :=
  (!name.startsWith "." || pattern.startsWith ".") && covers (ofString pattern) name.toList

end NamePattern

end NewGrf
