import NewGrf.Action.Assign
import NewGrf.Language.Wording

namespace NewGrf.Texts

/-- A text in the master language and in those that have one of their own, by their numbers. -/
def versions (text : Expr) : Build (List (Nat × String)) := do
  let langs ← Language.differing text
  let others ← langs.mapM fun lang => do pure (lang, ← Language.wording text lang)
  let master ← Language.wording text
  pure ((Language.masterId, master) :: others.mergeSort fun a b => a.1 ≤ b.1)

/-- The number of a text in a range, which is the same wherever a feature uses the text. -/
def numberIn (feature range : Int) (text : Expr) : Build Int := do
  let s ← get
  let callback := range == 0xD0
  let numbers := if callback then s.callbackTexts else s.propertyTexts
  match numbers.find? feature text with
  | some n => pure n
  | none =>
    match numbers.add? feature text with
    | some (n, numbers) =>
      modify fun s => if callback then { s with callbackTexts := numbers }
        else { s with propertyTexts := numbers }
      pure n
    | none =>
      Build.fail ("Unable to allocate ID for string, no more free IDs available (maximum is "
        ++ toString numbers.total ++ ")") text.pos

def write (feature : Int) (size : Nat) (number : Int) (patches : List Patch) (text : Expr) :
    Build (List Action) := do
  pure ((← versions text).flatMap fun (lang, t) =>
    Assign.withPatches [] patches (.texts { feature, lang, size, first := number, texts := [t] }))

def define (feature : Int) (range : Option Int) (text : Expr) (id : Expr := .int 0) :
    Build (Int × List Action) := do
  Language.demandText text
  Assign.saveParams
  let result ← match range with
    | some r =>
      if r == 0xD0 || r == 0xDC then pure (← numberIn feature r text, [])
      else do
        let n := Number.bitOr (id.constant?.getD 0) (Number.shiftLeft r 8)
        pure (n, ← write feature 2 n [] text)
    | none =>
      let isVehicle := feature ≤ 3
      let size := if isVehicle then 3 else 1
      match id with
      | .num v _ => do pure (v, ← write feature size v [] text)
      | id => do
        let (param, before) ← Assign.intoParam Assign.compile id
        let patch : Patch :=
          { param, size := if isVehicle then 2 else 1, offset := if isVehicle then 5 else 4 }
        pure (0, before ++ (← write feature size 0 [patch] text))
  Assign.restoreParams
  pure result

structure Line where
  lang : Nat
  number : Int
  text : String
  feature : Int
  deriving Inhabited

def langOrder (lang : Nat) : Int := if lang == Language.masterId then -1 else lang

def join : List Line → List TextAction
  | [] => []
  | l :: ls =>
    let fresh : TextAction :=
      { feature := l.feature, lang := l.lang, size := 2, first := l.number, texts := [l.text] }
    match ls, join ls with
    | next :: _, a :: as =>
      if next.lang == l.lang && next.number == l.number + 1 && next.feature == l.feature then
        { a with first := l.number, texts := l.text :: a.texts } :: as
      else fresh :: a :: as
    | _, as => fresh :: as

def cut : Nat → TextAction → List TextAction
  | 0, a => [a]
  | fuel + 1, a =>
    if a.texts.length ≤ 0xFF then [a]
    else { a with texts := a.texts.take 0xFF } ::
      cut fuel { a with first := a.first + 0xFF, texts := a.texts.drop 0xFF }

/-- A text that has a number, in the master language and in those that have one of their own. -/
def lines (used : Int × Expr × Int) : Build (List Line) := do
  let (feature, text, number) := used
  let master ← Language.wording text
  let langs ← Language.differing text
  let others ← langs.mapM fun lang => do
    pure { lang, number, text := ← Language.wording text lang, feature : Line }
  pure ({ lang := Language.masterId, number, text := master, feature : Line } :: others)

def Line.before (a b : Line) : Bool :=
  langOrder a.lang < langOrder b.lang || (a.lang == b.lang && a.number ≤ b.number)

def shared : Build (List Action) := do
  let s ← get
  let lines ← (s.callbackTexts.used ++ s.propertyTexts.used).mapM lines
  pure ((join (lines.flatten.mergeSort Line.before)).flatMap fun a =>
    (cut a.texts.length a).map .texts)

/-- The names of genders or cases in a language, with the names that other files may use. -/
def nameTable (number : Int) (names : Dict Nat) (aliases : Dict (List String)) : PropertyData :=
  let entries := names.flatMap fun (name, i) =>
    (name :: (aliases.get? name).getD []).map fun n => ((i : Int), n)
  .names number (entries.mergeSort fun a b => a.1 < b.1 || (a.1 == b.1 && a.2 ≤ b.2))

def grammar (lang : Language) : List Action :=
  let properties := (lang.genders.map fun g => nameTable 0x13 g lang.genderAliases).toList
    ++ (lang.cases.map fun c => nameTable 0x14 c lang.caseAliases).toList
    ++ (lang.plural.map fun (p : Nat) => PropertyData.values 0x15 [.number p] 1).toList
  if properties.isEmpty then []
  else [.properties { feature := 0x08, first := (lang.id.getD 0 : Nat), properties }]

/-- Puts the grammars of all languages and the texts behind the description of the file. Without a
description they are left out. -/
def insert (actions : List Action) : Build (List Action) := do
  let isHead (a : Action) : Bool := match a with
    | .head .. => true
    | _ => false
  match actions.findIdx? isHead with
  | none => pure actions
  | some i =>
    let grammars := (← get).library.languages.flatMap fun (_, lang) => grammar lang
    pure (actions.take (i + 1) ++ grammars ++ (← shared) ++ actions.drop (i + 1))

end NewGrf.Texts
