import NewGrf.Text.Class
import NewGrf.Text.Hex
import NewGrf.Token.Basic

namespace NewGrf

namespace Scanner

inductive Front where
  | token (t : Token)
  /-- Nothing but lines of source; so many line ends. -/
  | skip (lines : Nat)
  /-- A mark that says which line of which file follows; a name is missing if the file stays. -/
  | mark (line : Nat) (file : Option String) (lines : Nat)
  /-- A mark with flags, of which 1 opens a file and 2 returns to one. -/
  | flaggedMark (line : Nat) (file : String) (flags : List Nat) (lines : Nat)

def countLines (cs : List Char) : Nat := cs.count '\n'

/-- Digits with a fraction, or digits alone, or `0x` and hexadecimal digits. -/
def number? (cs : List Char) : Option (Token × List Char) :=
  let whole := cs.takeWhile Text.isDigit
  let rest := cs.dropWhile Text.isDigit
  let fraction := match rest with
    | '.' :: r => r.takeWhile Text.isDigit
    | _ => []
  if whole ≠ [] ∧ fraction ≠ [] then
    some (.float (Float.ofScientific (Text.decimal (whole ++ fraction)) true fraction.length),
      rest.drop (fraction.length + 1))
  else
    match cs with
    | '0' :: 'x' :: r =>
      let hex := r.takeWhile Text.isHexDigit
      if hex ≠ [] then some (.number (Text.hexadecimal hex), r.dropWhile Text.isHexDigit)
      else some (.number 0, 'x' :: r)
    | _ => if whole ≠ [] then some (.number (Text.decimal whole), rest) else none

def afterWord? : List Char → List Char → Option (List Char)
  | [], cs => some cs
  | w :: ws, c :: cs => if w = c then afterWord? ws cs else none
  | _ :: _, [] => none

def unitNames : List String :=
  ["nfo", "mph", "km/h", "m/s", "hpI", "hpM", "hp", "kW", "tons", "ton", "kg", "snow%"]

def unit? (cs : List Char) : Option (Token × List Char) :=
  unitNames.findSome? fun u => (afterWord? u.toList cs).map fun r => (.unit u, r)

def word? (cs : List Char) : Option (Token × List Char) :=
  match cs with
  | [] => none
  | c :: _ =>
    if Text.isNameStart c then
      let w := String.ofList (cs.takeWhile Text.isNameChar)
      let t := match Keyword.ofText? w with
        | some k => .keyword k
        | none => .ident w
      some (t, cs.dropWhile Text.isNameChar)
    else none

/-- The rest of a literal, behind its opening quote. A backslash takes the next character with it,
but not a line end. -/
def literalBody? : List Char → Option (List Char × List Char)
  | [] => none
  | '"' :: r => some ([], r)
  | '\\' :: c :: r =>
    if c = '\n' then none
    else (literalBody? r).map fun (b, r') => ('\\' :: c :: b, r')
  | ['\\'] => none
  | c :: r => (literalBody? r).map fun (b, r') => (c :: b, r')

def literal? : List Char → Option (Token × List Char)
  | '"' :: r => (literalBody? r).map fun (b, r') => (.literal (String.ofList b), r')
  | _ => none

/-- What follows the end of a block comment, and the lines before it. -/
def blockEnd? : List Char → Nat → Option (List Char × Nat)
  | '*' :: '/' :: r, n => some (r, n)
  | '\n' :: r, n => blockEnd? r (n + 1)
  | _ :: r, n => blockEnd? r n
  | [], _ => none

def comment? : List Char → Option (Nat × List Char)
  | '/' :: '*' :: r => (blockEnd? r 0).map fun (r', n) => (n, r')
  | '/' :: '/' :: r => some (0, r.dropWhile (· != '\n'))
  | _ => none

def isSpace (c : Char) : Bool := c == ' ' || c == '\t' || c == '\r'

/-- The last split of a line behind an opening quote at a closing one: the text, and what follows
the quote. -/
def lastQuote? (line : List Char) : Option (List Char × List Char) :=
  let behind := line.reverse.takeWhile (· != '"')
  match line.reverse.dropWhile (· != '"') with
  | [] => none
  | _ :: front => some (front.reverse, behind.reverse)

def line? (cs : List Char) : Option (List Char × List Char) :=
  match cs.dropWhile (· != '\n') with
  | [] => none
  | _ :: r => some (cs.takeWhile (· != '\n'), r)

/-- The end of a line mark: a line end, or a quoted name and a line end. The name may stand behind
any number of blanks and line ends, so the longest run of blanks is tried first. -/
def markEnd? (blanks rest : List Char) : Option (Option String × Nat × List Char) :=
  let named := match rest with
    | '"' :: r =>
      match line? r with
      | none => none
      | some (line, r') =>
        match lastQuote? line with
        | some (name, []) | some (name, ['\r']) =>
          some (some (String.ofList name), countLines blanks + 1, r')
        | _ => none
    | _ => none
  match named with
  | some r => some r
  | none =>
    -- the run of blanks is given back up to its last line end
    match blanks.reverse.dropWhile (· != '\n') with
    | [] => none
    | kept =>
      some (none, countLines kept, (blanks.reverse.takeWhile (· != '\n')).reverse ++ rest)

def lineMark? (cs : List Char) : Option (Front × List Char) := do
  let r ← afterWord? "#line".toList cs
  let (blanks, r) := (r.takeWhile Text.isBlank, r.dropWhile Text.isBlank)
  guard (blanks ≠ [])
  let (digits, r) := (r.takeWhile Text.isDigit, r.dropWhile Text.isDigit)
  guard (digits ≠ [])
  let inner := r.takeWhile Text.isBlank
  let (name, ends, rest) ← markEnd? inner (r.dropWhile Text.isBlank)
  pure (.mark (Text.decimal digits) name (countLines blanks + ends), rest)

def flagNumbers (cs : List Char) : List Nat :=
  ((cs.splitOn ' ').map Text.strip).filterMap fun w =>
    if w.isEmpty then none else some (Text.decimal w)

def flaggedMark? (cs : List Char) : Option (Front × List Char) := do
  let r ← afterWord? ['#'] cs
  let (before, r) := (r.takeWhile Text.isBlank, r.dropWhile Text.isBlank)
  guard (before ≠ [])
  let (digits, r) := (r.takeWhile Text.isDigit, r.dropWhile Text.isDigit)
  guard (digits ≠ [])
  let (between, r) := (r.takeWhile Text.isBlank, r.dropWhile Text.isBlank)
  guard (between ≠ [])
  let r ← afterWord? ['"'] r
  let (line, rest) ← line? r
  let (name, behind) ← lastQuote? line
  guard (behind.all fun c => Text.isBlank c || Text.isDigit c)
  let more := rest.takeWhile fun c => Text.isBlank c || Text.isDigit c
  let rest := rest.dropWhile fun c => Text.isBlank c || Text.isDigit c
  -- the run is given back up to its last line end
  let run := behind ++ '\n' :: more
  let kept := (run.reverse.dropWhile (· != '\n')).reverse
  let back := (run.reverse.takeWhile (· != '\n')).reverse
  pure (.flaggedMark (Text.decimal digits) (String.ofList name) (flagNumbers kept)
      (countLines before + countLines between + countLines kept), back ++ rest)

def sign? (cs : List Char) : Option (Token × List Char) :=
  Sign.table.findSome? fun (s, spelling, _) =>
    (afterWord? spelling.toList cs).map fun r => (.sign s, r)

def front? (cs : List Char) : Option (Front × List Char) :=
  let token (r : Option (Token × List Char)) : Option (Front × List Char) :=
    r.map fun (t, rest) => (.token t, rest)
  token (number? cs)
    <|> token (unit? cs)
    <|> token (word? cs)
    <|> token (literal? cs)
    <|> ((comment? cs).map fun (n, r) => (Front.skip n, r))
    <|> (match cs with
        | c :: _ => if isSpace c then some (.skip 0, cs.dropWhile isSpace) else none
        | [] => none)
    <|> lineMark? cs
    <|> flaggedMark? cs
    <|> (match cs with
        | '\n' :: _ =>
          some (.skip (cs.takeWhile (· == '\n')).length, cs.dropWhile (· == '\n'))
        | _ => none)
    <|> token (sign? cs)

structure State where
  file : String
  line : Nat := 1
  /-- The places that included the file, outermost first. -/
  includes : List Place := []
  /-- Marks since the last token that close a file which was not open. -/
  badMarks : Nat := 0

namespace State

def pos (s : State) : Position := { place := .line s.file s.line, includes := s.includes }

/-- Sets the place by a mark without flags: the name of the file on top of the stack returns to it,
another name opens a file. -/
def mark (s : State) (line : Nat) (file : Option String) (lines : Nat) : State :=
  let name := file.getD s.file
  let includes :=
    if (s.includes.getLast?.map Place.file) = some name then s.includes.dropLast
    else if name ≠ s.file then s.includes ++ [.line s.file s.line]
    else s.includes
  { s with file := name, line := line + lines - 1, includes }

def flaggedMark (s : State) (line : Nat) (file : String) (flags : List Nat) (lines : Nat) : State :=
  let moved : State :=
    if flags.contains 1 then { s with includes := s.includes ++ [.line s.file s.line] }
    else if flags.contains 2 then
      if (s.includes.getLast?.map Place.file) = some file then
        { s with includes := s.includes.dropLast }
      else { s with badMarks := s.badMarks + 1 }
    else s
  { moved with file, line := line + lines - 1 }

end State

inductive End where
  | done (badMarks : Nat)
  /-- A character that starts nothing, where it stands, and how many characters are left. -/
  | illegal (c : Char) (pos : Position) (left : Nat) (badMarks : Nat)

/-- Scans with a bound on the number of steps. Every step reads a character, so the number of
characters is enough. -/
def scanWith : Nat → State → List Char → List Lexeme × End
  | _, s, [] => ([], .done s.badMarks)
  | 0, s, c :: cs => ([], .illegal c s.pos (cs.length + 1) s.badMarks)
  | fuel + 1, s, c :: cs =>
    match front? (c :: cs) with
    | none => ([], .illegal c s.pos (cs.length + 1) s.badMarks)
    | some (.token t, rest) =>
      let (ls, e) := scanWith fuel { s with badMarks := 0 } rest
      (⟨t, { s.pos with token := fuel }, s.badMarks⟩ :: ls, e)
    | some (.skip n, rest) => scanWith fuel { s with line := s.line + n } rest
    | some (.mark line file lines, rest) => scanWith fuel (s.mark line file lines) rest
    | some (.flaggedMark line file flags lines, rest) =>
      scanWith fuel (s.flaggedMark line file flags lines) rest

end Scanner

def scan (file text : String) : List Lexeme × Scanner.End :=
  let cs := text.toList
  Scanner.scanWith cs.length { file } cs

/-- The column of the character before which so many characters are left: the distance to the last
line end before it, or to the start of the text. -/
def column (text : String) (left : Nat) : Nat :=
  let before := text.toList.take (text.length - left)
  let behind := (before.reverse.takeWhile (· != '\n')).length
  if behind < before.length then behind + 1 else before.length

def illegalCharacter (text : String) (c : Char) (pos : Position) (left : Nat) : String :=
  "Illegal character '" ++ String.singleton c ++ "' (character code 0x" ++ hexText 2 c.toNat
    ++ ") at " ++ pos.text ++ ", column " ++ toString (column text left)

end NewGrf
