import NewGrf.Number.Decimal
import NewGrf.Text.Integer
import NewGrf.Text.Printable

namespace NewGrf.Text

inductive Json where
  | null
  | bool (b : Bool)
  | int (n : Int)
  /-- A number with a fraction or an exponent. -/
  | decimal (x : Float)
  | string (s : String)
  | array (vs : List Json)
  | object (members : List (String × Json))
  deriving Inhabited

namespace Json

/-- The integer that a value stands for. Truth values stand for 0 and 1. -/
def int? : Json → Option Int
  | int n => some n
  | bool b => some (if b then 1 else 0)
  | _ => none

def string? : Json → Option String
  | string s => some s
  | _ => none

def ints? : Json → Option (List Int)
  | array vs => vs.mapM int?
  | _ => none

/-- A member of an object. The last one of several with the same name counts. -/
def member? (members : List (String × Json)) (name : String) : Option Json :=
  members.reverse.lookup name

private def isSpace (c : Char) : Bool := c == ' ' || c == '\t' || c == '\n' || c == '\r'

def skipSpace (cs : List Char) : List Char := cs.dropWhile isSpace

/-- Members without those that are given again behind them. -/
def lastOfEach : List (String × Json) → List (String × Json)
  | [] => []
  | m :: ms => if ms.any (·.1 == m.1) then lastOfEach ms else m :: lastOfEach ms

def code? (cs : List Char) : Option (Nat × List Char) := do
  let ds := cs.take 4
  if ds.length == 4 && ds.all fun c => c.isDigit || "abcdefABCDEF".toList.contains c then
    let digit (c : Char) : Nat := if c.isDigit then c.toNat - 48 else c.toLower.toNat - 87
    some (ds.foldl (fun n c => 16 * n + digit c) 0, cs.drop 4)
  else none

/-- An escaped character, after the backslash. Two codes can stand for one character. -/
def escaped? : List Char → Option (Char × List Char)
  | 'u' :: cs => do
    let (high, cs) ← code? cs
    let pair : Option (Nat × List Char) := do
      let '\\' :: 'u' :: rest := cs | none
      let (low, rest) ← code? rest
      if 0xD800 ≤ high && high < 0xDC00 && 0xDC00 ≤ low && low < 0xE000 then
        some (0x10000 + (high - 0xD800) * 0x400 + (low - 0xDC00), rest)
      else none
    let (code, rest) := pair.getD (high, cs)
    some (Char.ofNat code, rest)
  | c :: cs =>
    ([('"', '"'), ('\\', '\\'), ('/', '/'), ('b', '\x08'), ('f', '\x0c'), ('n', '\n'),
      ('r', '\r'), ('t', '\t')].lookup c).map (·, cs)
  | [] => none

def text? : Nat → List Char → List Char → Option (String × List Char)
  | 0, _, _ => none
  | _ + 1, _, [] => none
  | fuel + 1, out, c :: cs =>
    if c == '"' then some (String.ofList out.reverse, cs)
    else if c == '\\' then do
      let (e, rest) ← escaped? cs
      text? fuel (e :: out) rest
    else if c.toNat < 0x20 then none
    else text? fuel (c :: out) cs

def digits (cs : List Char) : List Char × List Char :=
  (cs.takeWhile Char.isDigit, cs.dropWhile Char.isDigit)

private def tail? (signs : List Char) (lead : List Char) (cs : List Char) :
    Option (List Char × List Char) :=
  let (sign, rest) := match cs with
    | c :: r => if signs.contains c then ([c], r) else ([], cs)
    | [] => ([], [])
  let (ds, rest) := digits rest
  if ds.isEmpty then none else some (lead ++ sign ++ ds, rest)

/-- A number from its digits, the number of places, and the exponent. Beyond some exponent every
number is infinite or zero. -/
def decimalValue (ds : List Char) (places : Nat) (exponent : List Char) : Float :=
  let value (ds : List Char) : Nat := ds.foldl (fun n c => 10 * n + (c.toNat - 48)) 0
  let far := 1000 + ds.length
  match exponent with
  | '-' :: e => Float.ofScientific (value ds) true (min (value e) far + places)
  | e =>
    let e := min (value (e.filter (· != '+'))) far
    if e < places then Float.ofScientific (value ds) true (places - e)
    else Float.ofScientific (value ds) false (e - places)

def number? (cs : List Char) : Option (Json × List Char) := do
  let (sign, cs) := match cs with
    | '-' :: r => (['-'], r)
    | _ => ([], cs)
  let (whole, rest) ← match cs with
    | '0' :: r => some (['0'], r)
    | _ => let (ds, r) := digits cs
           if ds.isEmpty then none else some (ds, r)
  let (fraction, rest) := match rest with
    | '.' :: r => (tail? [] ['.'] r).getD ([], rest)
    | _ => ([], rest)
  let (exponent, rest) := match rest with
    | c :: r =>
      if c == 'e' || c == 'E' then (tail? ['+', '-'] [c] r).getD ([], rest) else ([], rest)
    | [] => ([], rest)
  if fraction.isEmpty && exponent.isEmpty then
    let n : Nat := whole.foldl (fun n c => 10 * n + (c.toNat - 48)) 0
    some (int (if sign.isEmpty then n else -(n : Int)), rest)
  else
    let x := decimalValue (whole ++ fraction.drop 1) (fraction.length - 1) (exponent.drop 1)
    some (decimal (if sign.isEmpty then x else -x), rest)

private def words : List (List Char × Json) := [
  ("null".toList, null), ("true".toList, bool true), ("false".toList, bool false),
  ("NaN".toList, decimal (0.0 / 0.0)), ("Infinity".toList, decimal (1.0 / 0.0)),
  ("-Infinity".toList, decimal (-1.0 / 0.0))]

def scalar? (cs : List Char) : Option (Json × List Char) :=
  match words.find? fun (w, _) => w.isPrefixOf cs with
  | some (w, v) => some (v, cs.drop w.length)
  | none => number? cs

mutual

def value? : Nat → List Char → Option (Json × List Char)
  | 0, _ => none
  | fuel + 1, cs =>
    match cs with
    | '"' :: r => (text? fuel [] r).map fun (s, r) => (string s, r)
    | '[' :: r =>
      match skipSpace r with
      | ']' :: r => some (array [], r)
      | r => (values? fuel r).map fun (vs, r) => (array vs, r)
    | '\x7b' :: r =>
      match skipSpace r with
      | '\x7d' :: r => some (object [], r)
      | r => (members? fuel r).map fun (ms, r) => (object (lastOfEach ms), r)
    | cs => scalar? cs

def values? : Nat → List Char → Option (List Json × List Char)
  | 0, _ => none
  | fuel + 1, cs =>
    (value? fuel cs).bind fun (v, r) =>
      match skipSpace r with
      | ',' :: r => (values? fuel (skipSpace r)).map fun (vs, r) => (v :: vs, r)
      | ']' :: r => some ([v], r)
      | _ => none

def members? : Nat → List Char → Option (List (String × Json) × List Char)
  | 0, _ => none
  | fuel + 1, cs =>
    match cs with
    | '"' :: r =>
      (text? fuel [] r).bind fun (name, r) =>
        match skipSpace r with
        | ':' :: r =>
          (value? fuel (skipSpace r)).bind fun (v, r) =>
            match skipSpace r with
            | ',' :: r => (members? fuel (skipSpace r)).map fun (ms, r) => ((name, v) :: ms, r)
            | '\x7d' :: r => some ([(name, v)], r)
            | _ => none
        | _ => none
    | _ => none

end

def parse? (s : String) : Option Json :=
  let cs := s.toList
  match value? (2 * cs.length + 2) (skipSpace cs) with
  | some (v, rest) => if (skipSpace rest).isEmpty then some v else none
  | none => none

def unit (code : Nat) : List Char := '\\' :: 'u' :: codeDigits 4 code

def escape (c : Char) : List Char :=
  match c with
  | '"' => ['\\', '"']
  | '\\' => ['\\', '\\']
  | '\n' => ['\\', 'n']
  | '\r' => ['\\', 'r']
  | '\t' => ['\\', 't']
  | '\x0c' => ['\\', 'f']
  | '\x08' => ['\\', 'b']
  | c =>
    let n := c.toNat
    if 0x20 ≤ n && n < 0x7F then [c]
    else if n < 0x10000 then unit n
    else unit (0xD800 + (n - 0x10000) / 0x400) ++ unit (0xDC00 + (n - 0x10000) % 0x400)

def quote (s : String) : String := String.ofList ('"' :: s.toList.flatMap escape ++ ['"'])

def sortMembers {α : Type} (members : List (String × α)) : List (String × α) :=
  members.mergeSort fun a b => decide (a.1 ≤ b.1)

def decimalText (x : Float) : String :=
  match Number.classify x with
  | .nan => "NaN"
  | .infinite negative => if negative then "-Infinity" else "Infinity"
  | .finite .. => Number.floatText x

mutual

def print : Json → String
  | null => "null"
  | bool b => if b then "true" else "false"
  | int n => toString n
  | decimal x => decimalText x
  | string s => quote s
  | array vs => "[" ++ ", ".intercalate (printAll vs) ++ "]"
  | object ms => "\x7b" ++ ", ".intercalate ((sortMembers (printMembers ms)).map (·.2)) ++ "\x7d"

def printAll : List Json → List String
  | [] => []
  | v :: vs => v.print :: printAll vs

def printMembers : List (String × Json) → List (String × String)
  | [] => []
  | (name, v) :: ms => (name, quote name ++ ": " ++ v.print) :: printMembers ms

end

mutual

/-- A value on several lines, each level four columns further right. -/
def layOut (indent : String) : Json → String
  | array vs =>
    "[\n" ++ ",\n".intercalate (layOutAll (indent ++ "    ") vs) ++ "\n" ++ indent ++ "]"
  | object ms =>
    "\x7b\n" ++ ",\n".intercalate (layOutMembers (indent ++ "    ") ms) ++ "\n" ++ indent ++ "\x7d"
  | v => v.print

def layOutAll (indent : String) : List Json → List String
  | [] => []
  | v :: vs => (indent ++ v.layOut indent) :: layOutAll indent vs

def layOutMembers (indent : String) : List (String × Json) → List String
  | [] => []
  | (name, v) :: ms =>
    (indent ++ quote name ++ ": " ++ v.layOut indent) :: layOutMembers indent ms

end

end Json

end NewGrf.Text
