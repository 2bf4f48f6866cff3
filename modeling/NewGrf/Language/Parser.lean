import NewGrf.Session

namespace NewGrf.Language

/-- Codes that choose between texts, or that say which gender a text has. -/
def choiceNames : List String := ["P", "G", "G="]

/-- Digits of all kinds that can start a number of an argument, circled ones and so on included. -/
def isNumeral (c : Char) : Bool :=
  let n := c.toNat
  Text.isDigit c || [(0xB2, 0xB3), (0xB9, 0xB9), (0x1369, 0x1371), (0x19DA, 0x19DA),
    (0x2070, 0x2070), (0x2074, 0x2079), (0x2080, 0x2089), (0x2460, 0x2468), (0x2474, 0x247C),
    (0x2488, 0x2490), (0x24EA, 0x24EA), (0x24F5, 0x24FD), (0x24FF, 0x24FF), (0x2776, 0x277E),
    (0x2780, 0x2788), (0x278A, 0x2792), (0x10A40, 0x10A43), (0x10E60, 0x10E68),
    (0x11052, 0x1105A), (0x1F100, 0x1F10A)].any fun (low, high) => low ≤ n && n ≤ high

structure Arguments where
  offset : Option Int := none
  done : List String := []
  /-- The argument that is being read, the last character first, and whether it is in quotes. -/
  current : Option (Bool × List Char) := none
  deriving Inhabited

namespace Arguments

def close (a : Arguments) (takesOffset quoted : Bool) (cs : List Char) : Arguments :=
  let text := cs.reverse
  match Text.integerIn? 10 text with
  | some n =>
    if !quoted && takesOffset && a.offset.isNone && a.done.isEmpty
        && text.countP Text.isDigit ≤ Text.longestNumber then
      { a with offset := some n, current := none }
    else { a with done := a.done ++ [String.ofList text], current := none }
  | none => { a with done := a.done ++ [String.ofList text], current := none }

def step (takesOffset : Bool) (a : Arguments) (c : Char) : Arguments :=
  let blank := c == ' ' || c == '\t'
  match a.current with
  | some (quoted, cs) =>
    if (quoted && c == '"') || (!quoted && blank) then a.close takesOffset quoted cs
    else { a with current := some (quoted, c :: cs) }
  | none =>
    if blank then a
    else if c == '"' then { a with current := some (true, []) }
    else { a with current := some (false, [c]) }

/-- The arguments in a text, unless a quote is left open. The last one is never taken for a number
that a choice depends on. -/
def read? (takesOffset : Bool) (cs : List Char) : Option (Option Int × List String) :=
  let a := cs.foldl (step takesOffset) {}
  match a.current with
  | none => some (a.offset, a.done)
  | some (false, cs) => some (a.offset, a.done ++ [String.ofList cs.reverse])
  | some (true, _) => none

end Arguments

def Command.check (c : Command) (lang : Language) : Build Unit := do
  if lang.master then return
  let got := c.arguments.length
  let count (kind : String) (expected : Nat) : Build Unit :=
    unless got == expected do
      Build.fail ("Invalid number of arguments to " ++ kind ++ " command, expected "
        ++ toString expected ++ " but got " ++ toString got) c.pos
  match c.name with
  | "P" =>
    match lang.plural with
    | none => Build.fail "Using \x7bP\x7d without a ##plural pragma" c.pos
    | some rule => count "plural" (pluralForms rule)
  | "G" =>
    match lang.genders with
    | none => Build.fail "Using \x7bG\x7d without a ##gender pragma" c.pos
    | some genders => count "gender" genders.length
  | "G=" =>
    if lang.genders.isNone then Build.fail "Using \x7bG=\x7d without a ##gender pragma" c.pos
    count "set-gender" 1
  | name =>
    unless got == 0 do Build.fail ("Unexpected arguments to command \"" ++ name ++ "\"") c.pos

def warnOutdated (name : String) (pos : Position) : Build Unit := do
  match (← get).library.codes.get? name with
  | some code =>
    if code.outdated then
      Build.warn ("String code '" ++ name ++ "' has been deprecated and will be removed soon")
        (some pos) .deprecation
      modify fun s => { s with library :=
        { s.library with codes := s.library.codes.set name { code with outdated := false } } }
  | none => pure ()

/-- The number of an argument that stands in front of a code, and what follows its colon. Of all
numerals, only decimal digits have a value. -/
def readPlace (pos : Position) (cs : List Char) : Build (Option Nat × List Char) :=
  let digits := cs.takeWhile isNumeral
  if cs.isEmpty then Build.fail "Expected '\x7d' before end-of-line." pos
  else if digits.isEmpty then pure (none, cs)
  else
    match cs.drop digits.length with
    | ':' :: rest =>
      if digits.all Text.isDigit && digits.length ≤ Text.longestNumber then
        pure (some (Text.decimal digits), rest)
      else Build.crash
    | _ => Build.fail "Error while parsing position part of string command" pos

def inName (c : Char) : Bool := !(c == '\x7d' || c == ' ' || c == '=' || c == '.')

/-- The name of a code and what follows it. An equals sign behind a name belongs to it too. -/
def splitCode (cs : List Char) : String × List Char :=
  let name := String.ofList (cs.takeWhile inName)
  let rest := cs.dropWhile inName
  (if rest.head? == some '=' then name ++ "=" else name, rest)

def inCase (c : Char) : Bool := !(c == '\x7d' || c == ' ')

/-- The case behind the name of a code, and what follows it. Something is expected to follow. -/
def readCase (lang : Language) (pos : Position) (name : String) (takesCase : Bool) :
    List Char → Build (Option Nat × List Char)
  | '.' :: rest =>
    let case := String.ofList (rest.takeWhile inCase)
    if !takesCase then Build.fail ("Command \"" ++ name ++ "\" can't have a case") pos
    else
      match lang.cases.bind (·.get? case) with
      | some number =>
        if (rest.dropWhile inCase).isEmpty then Build.crash
        else pure (some number, rest.dropWhile inCase)
      | none => Build.fail ("Invalid case-name \"" ++ case ++ "\"") pos
  | rest => pure (none, rest)

def missingEnd {α : Type} (pos : Position) (cs : List Char) : Build α :=
  Build.fail ("Missing '\x7d' from command \"" ++ String.ofList cs ++ "\"") pos

/-- The arguments of a code, of which `cs` is all of the text from its name on, and what follows its
brace. -/
def readArguments (pos : Position) (name : String) (cs : List Char) :
    List Char → Build (Option Int × List String × List Char)
  | '\x7d' :: rest => pure (none, [], rest)
  | rest =>
    let inside := rest.tail.takeWhile (· != '\x7d')
    match rest.tail.drop inside.length, Arguments.read? (name == "P" || name == "G") inside with
    | _ :: rest, some (offset, arguments) => pure (offset, arguments, rest)
    | _, _ => missingEnd pos cs

/-- A code from behind its name on, and what follows it. -/
def readBehind (lang : Language) (pos : Position) (place : Option Nat) (name : String)
    (takesCase : Bool) (cs rest : List Char) : Build (Command × List Char) := do
  let (case?, rest) ← readCase lang pos name takesCase rest
  let (offset, arguments, rest) ← readArguments pos name cs rest
  let command : Command := { name, case?, arguments, offset, place, pos }
  command.check lang
  pure (command, rest)

def readCommand (lang : Language) (pos : Position) (cs : List Char) :
    Build (Command × List Char) := do
  let (place, cs) ← readPlace pos cs
  let (name, rest) := splitCode cs
  let code := (← get).library.codes.get? name
  if code.isSome || choiceNames.contains name then
    warnOutdated name pos
    if rest.isEmpty then missingEnd pos cs
    else readBehind lang pos place name ((code.map (·.takesCase)).getD false) cs rest
  else Build.fail ("Undefined command \"" ++ name ++ "\"") pos

def readParts (lang : Language) (pos : Position) : Nat → List Char → List Part →
    Build (List Part)
  | 0, _, parts => pure parts.reverse
  | _ + 1, [], parts => pure parts.reverse
  | fuel + 1, '\x7b' :: cs, parts => do
    let (command, rest) ← readCommand lang pos cs
    if command.name == "G=" && !parts.isEmpty then
      Build.fail "Set-gender command \x7bG=\x7d must be at the start of the string" pos
    readParts lang pos fuel rest (.command command :: parts)
  | fuel + 1, cs, parts =>
    let text := cs.takeWhile (· != '\x7b')
    readParts lang pos fuel (cs.drop text.length) (.literal (String.ofList text) :: parts)

/-- Whether a code takes an argument from the stack of the text. -/
def Command.size? (c : Command) (codes : Dict Code) : Option Nat :=
  if choiceNames.contains c.name then none else (codes.get? c.name).bind (·.size)

/-- Gives each code that shows an argument a number: one more than that of the code before it,
where the text does not say. -/
def numberPlaces (codes : Dict Code) : List Part → Nat → List Part
  | [], _ => []
  | .command c :: rest, next =>
    if (c.size? codes).isSome then
      let place := c.place.getD next
      .command { c with place := some place } :: numberPlaces codes rest (place + 1)
    else .command c :: numberPlaces codes rest next
  | part :: rest, next => part :: numberPlaces codes rest next

/-- The gender that a text says it has, and its other parts. A gender of the language is
expected. -/
def splitGender (lang : Language) (pos : Position) :
    List Part → Build (Option String × List Part)
  | .command c :: rest =>
    if c.name == "G=" then
      match c.arguments, lang.genders with
      | gender :: _, some genders =>
        if genders.contains gender then pure (some gender, rest)
        else Build.fail ("Invalid gender name '" ++ gender ++ "'") pos
      | _, _ => Build.crash
    else pure (none, .command c :: rest)
  | parts => pure (none, parts)

def readPhrase (lang : Language) (text : String) (pos : Position) : Build Phrase := do
  Build.check (Text.escapeFault? text (some pos))
  let parts ← readParts lang pos (text.length + 1) text.toList []
  let (gender, parts) ← splitGender lang pos parts
  pure { parts := numberPlaces (← get).library.codes parts 0, gender, pos }

/-- Replaces each choice by its last alternative, as the master language does. -/
def Phrase.withoutChoices (p : Phrase) : Phrase :=
  { p with parts := p.parts.map fun part =>
      match part with
      | .command c =>
        if c.name == "P" || c.name == "G" then .literal (c.arguments.getLast?.getD "") else part
      | part => part }

end NewGrf.Language
