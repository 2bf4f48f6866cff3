import NewGrf.Expr.Reduce
import NewGrf.Language.Parser

namespace NewGrf.Language

/-- A code of the game by its lower byte and what follows, in its long or short form. -/
def gameCode (wide : Bool) (low : String) : String := (if wide then "\\UE0" else "\\") ++ low

def byteCode (n : Int) : String := "\\" ++ hexText 2 n

def choiceItem (wide : Bool) (n : Nat) : String := gameCode wide "9A\\10" ++ byteCode n

def choiceDefault (wide : Bool) : String := gameCode wide "9A\\11"

def choiceEnd (wide : Bool) : String := gameCode wide "9A\\12"

def genderMark (wide : Bool) : String := gameCode wide "9A\\0E"

def rotate (wide : Bool) : String := gameCode wide "86"

def pushWord (wide : Bool) : String := gameCode wide "9A\\03\\20\\20"

def skipWord (wide : Bool) : String := gameCode wide "85"

def Command.isNarrow (codes : Dict Code) (c : Command) : Bool :=
  match codes.get? c.name with
  | some code => code.narrow.isSome
  | none => !(c.name == "P" || c.name == "G") || c.arguments.all Text.isAscii

def Phrase.isNarrow (codes : Dict Code) (p : Phrase) : Bool :=
  p.parts.all fun
    | .literal text => Text.isAscii text
    | .command c => c.isNarrow codes

def Entry.isNarrow (codes : Dict Code) (e : Entry) : Bool :=
  e.phrase.isNarrow codes && e.cases.all fun (_, p) => p.isNarrow codes

def Phrase.places (codes : Dict Code) (p : Phrase) : List (Nat × Nat) :=
  p.parts.filterMap fun
    | .literal _ => none
    | .command c => (c.size? codes).map fun size => (c.place.getD 0, size)

def Phrase.sizes (codes : Dict Code) (p : Phrase) : Except Fault (List Nat) := do
  let places := p.places codes
  let fail (text : String) : Except Fault (List Nat) :=
    .error { cause := .script text, pos := some p.pos }
  if (places.map (·.1)).eraseDups.length != places.length then
    fail "Two or more string commands are using the same argument"
  else
    match (List.range places.length).find? fun i => (places.lookup i).isNone with
    | some i => fail ("String argument " ++ toString i ++ " is not used")
    | none => pure ((List.range places.length).map fun i => (places.lookup i).getD 0)

/-- What brings an argument to the front of the stack, and what restores the stack afterwards. -/
def fetch (wide : Bool) (size before : Nat) : String × String :=
  let rot := rotate wide
  let push := pushWord wide
  let skip := skipWord wide
  match size, before with
  | 4, 4 => (rot ++ rot, "")
  | 4, 2 => (push ++ rot ++ rot, skip)
  | 2, 6 => (rot, "")
  | 2, 4 => (push ++ rot, skip)
  | 2, 2 => (push ++ push ++ rot, skip ++ skip)
  | _, _ => ("", "")

def choice (wide : Bool) (kind : String) (argument : Int) (texts : List String) : String :=
  let items := (texts.dropLast.zipIdx).map fun (text, i) => choiceItem wide (i + 1) ++ text
  gameCode wide kind ++ byteCode (0x80 + argument) ++ String.join items
    ++ (match texts.getLast? with
      | some last => choiceDefault wide ++ last
      | none => "")
    ++ choiceEnd wide

structure Setting where
  wide : Bool
  codes : Dict Code
  args : List Expr
  textOf : Expr → Build String
  plural : Expr → Build Nat
  gender : Expr → Build Nat

/-- The arguments that are left on the stack, by number and size, and the one that was at the front
when the last argument was taken. -/
structure Stack where
  left : List (Nat × Nat)
  front : Option (Nat × Nat) := none

def Setting.showKnown (s : Setting) (kind : Code.Argument) (e : Expr) : Build String := do
  match kind with
  | .decimal => pure (toString (← e.reduceConstant).1)
  | .hexadecimal => pure ("0x" ++ hexText 0 (← e.reduceConstant).1)
  | .text => s.textOf e

def Setting.showArgument (s : Setting) (c : Command) (code : Code) (size : Nat) (st : Stack) :
    Build (String × Stack) := do
  let place := c.place.getD 0
  let before := Number.total ((st.left.takeWhile (·.1 != place)).map (·.2))
  let rest : Stack := { left := st.left.erase (place, size), front := st.left.head? }
  match s.args[place]? with
  | some e =>
    match code.argument with
    | some kind => pure (← s.showKnown kind e, rest)
    | none =>
      Build.fail ("Provided a static argument for string command '" ++ c.name
        ++ "' which is invalid") c.pos
  | none =>
    let case := match c.case? with
      | some n => gameCode s.wide "9A\\0F" ++ byteCode n
      | none => ""
    if 8 < before + size then
      Build.fail "Trying to read an argument from the stack without reading the arguments before"
        c.pos
    else
      let (first, last) := fetch s.wide size before
      let own := if s.wide then code.wide else code.narrow.getD ""
      pure (case ++ first ++ own ++ last, rest)

def Setting.showChoice (s : Setting) (c : Command) (st : Stack) : Build String := do
  let plural := c.name == "P"
  let argument ←
    match c.offset with
    | some n => pure n
    | none =>
      if plural then
        match st.front with
        | some (n, _) => pure (n : Int)
        | none => Build.fail ("A plural choice list \x7bP\x7d has to be preceded by another string "
            ++ "code or provide an offset") c.pos
      else
        match st.left.head? with
        | some (n, _) => pure (n : Int)
        | none => Build.fail ("A gender choice list \x7bG\x7d has to be followed by another string "
            ++ "code or provide an offset") c.pos
  match s.args[argument.toNat]? with
  | some e =>
    let form ← if plural then s.plural e else s.gender e
    pure (c.arguments[form - 1]?.getD "")
  | none =>
    pure (choice s.wide (if plural then "9A\\15" else "9A\\13") (argument - s.args.length)
      c.arguments)

def Setting.showParts (s : Setting) : List Part → Stack → Build String
  | [], _ => pure ""
  | .literal text :: rest, st => do pure (text ++ (← s.showParts rest st))
  | .command c :: rest, st => do
    match s.codes.get? c.name with
    | none =>
      let text ← s.showChoice c st
      pure (text ++ (← s.showParts rest st))
    | some code =>
      match c.size? s.codes with
      | none =>
        let own := if s.wide then code.wide else code.narrow.getD ""
        pure (own ++ (← s.showParts rest st))
      | some size =>
        let (text, st) ← s.showArgument c code size st
        pure (text ++ (← s.showParts rest st))

def Setting.showPhrase (s : Setting) (p : Phrase) : Build String := do
  let sizes ← Build.ofExcept (p.sizes s.codes)
  s.showParts p.parts { left := sizes.zipIdx.map fun (size, i) => (i, size) }

def sortedCases (cases : Dict Phrase) : Dict Phrase :=
  cases.mergeSort fun a b => a.1 ≤ b.1

def Setting.showEntry (s : Setting) (lang : Language) (e : Entry) : Build String := do
  let gender := match e.phrase.gender with
    | some g => genderMark s.wide ++ byteCode ((lang.genders.bind (·.get? g)).getD 0)
    | none => ""
  if e.cases.isEmpty then pure (gender ++ (← s.showPhrase e.phrase))
  else
    let variants ← (sortedCases e.cases).mapM fun (name, p) => do
      pure (choiceItem s.wide ((lang.cases.bind (·.get? name)).getD 0) ++ (← s.showPhrase p))
    let base ← s.showPhrase e.phrase
    pure (gender ++ gameCode s.wide "9A\\14" ++ String.join variants ++ choiceDefault s.wide ++ base
      ++ choiceEnd s.wide)

def markedGender? (text : String) : Option Nat :=
  let after? (mark : String) : Option Nat :=
    if text.startsWith mark then
      (Text.integerIn? 16 ((text.toList.drop (mark.length + 1)).take 2)).map Int.toNat
    else none
  after? (genderMark false) <|> after? (genderMark true)

def markUsed (name : String) : Build Unit :=
  modify fun s =>
    if s.library.used.contains name then s
    else { s with library := { s.library with used := s.library.used ++ [name] } }

def source (library : Library) (wanted : Nat) (name : String) : Language :=
  match library.languages.lookup wanted with
  | some lang => if lang.entries.contains name then lang else library.master
  | none => library.master

/-- The text with a name in a language, with its arguments. Arguments may be texts themselves; they
lie deeper in the source, whose depth is bounded. -/
def textIn : Nat → Language → Nat → String → List Expr → Build String
  | 0, _, _, _, _ => Build.stop { cause := .tooDeep }
  | fuel + 1, lang, wanted, name, args => do
    markUsed name
    let library := (← get).library
    let entry := (lang.entries.get? name).getD { phrase := { parts := [], pos := .line "" 0 } }
    let setting : Setting :=
      { wide := !entry.isNarrow library.codes
        codes := library.codes
        args
        textOf := fun e =>
          match e with
          | .literal text _ => pure text
          | .string n args pos => do
            unless library.master.entries.contains n.text do
              Build.fail ("Substring \"" ++ n.text ++ "\" does not exist") pos
            textIn fuel (source library wanted n.text) wanted n.text args
          | e => Build.fail "Expected a (literal) string" e.pos
        plural := fun e => do pure (pluralForm (lang.plural.getD 0) (← e.reduceConstant).1)
        gender := fun e => do
          let last := (lang.genders.getD []).length
          match e with
          | .literal .. => pure last
          | .string n args _ =>
            let text ← textIn fuel lang (lang.id.getD masterId) n.text args
            pure ((markedGender? text).getD last)
          | _ => Build.fail "\x7bG\x7d can only refer to a string argument" }
    setting.showEntry lang entry

def textFuel : Nat := 1000

def wording (e : Expr) (wanted : Nat := masterId) : Build String := do
  match e with
  | .string name args _ =>
    textIn textFuel (source (← get).library wanted name.text) wanted name.text args
  | _ => pure ""

def demandText (e : Expr) : Build Unit := do
  match e with
  | .string name _ pos =>
    unless (← get).library.master.entries.contains name.text do
      Build.fail ("Unknown string \"" ++ name.text ++ "\"") pos
  | _ => pure ()

mutual

/-- The languages in which a text, or a text among its arguments, differs from the master's. -/
def differing : Expr → Build (List Nat)
  | .string name args _ => do
    let library := (← get).library
    let own ← library.languages.filterMapM fun (id, lang) => do
      if lang.entries.contains name.text then
        let text ← textIn textFuel lang id name.text args
        let master ← textIn textFuel library.master id name.text args
        pure (if text == master then none else some id)
      else pure none
    differingAmong args own
  | _ => pure []

def differingAmong : List Expr → List Nat → Build (List Nat)
  | [], found => pure found
  | e :: es, found => do
    let more ← differing e
    differingAmong es (found ++ more.filter fun id => !found.contains id)

end

end NewGrf.Language
