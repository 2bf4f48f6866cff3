import NewGrf.Files.Lookup
import NewGrf.Language.Wording
import NewGrf.Text.Lines
import NewGrf.Text.Utf8

namespace NewGrf.Language

def words (text : String) : List String :=
  let (ws, w) := text.toList.foldl
    (fun ((ws, w) : List String × List Char) c =>
      if Text.isBlank c then (if w.isEmpty then ws else String.ofList w.reverse :: ws, [])
      else (ws, c :: w))
    ([], [])
  (if w.isEmpty then ws else String.ofList w.reverse :: ws).reverse

/-- Numbers names from one. A name that comes twice has its last number. -/
def numbered (names : List String) : Dict Nat :=
  (names.zipIdx).foldl (fun d (name, i) => Dict.set d name (i + 1)) []

def readId (lang : Language) (data : String) (pos : Position) : Build Language := do
  if lang.id.isSome then Build.fail "grflangid already set" pos
  let text := Text.strip data.toList
  match Text.integerIn? 16 text with
  | none => Build.fail ("Invalid grflangid " ++ Text.quoted (String.ofList text)) pos
  | some n =>
    if 0 ≤ n && n < masterId then pure { lang with id := some n.toNat }
    else Build.fail "Invalid grflangid" pos

def readPlural (lang : Language) (data : String) (pos : Position) : Build Language := do
  if lang.plural.isSome then Build.fail "plural form already set" pos
  match Text.integer? data with
  | some n =>
    if 0 ≤ n && n ≤ lastPluralRule then pure { lang with plural := some n.toNat }
    else Build.fail "Invalid plural form" pos
  | none => Build.fail "Invalid plural form" pos

def readGenders (lang : Language) (data : String) (pos : Position) : Build Language := do
  if lang.genders.isSome then Build.fail "Genders already defined" pos
  let names := words data
  pure { lang with
    genders := some (numbered names)
    genderAliases := names.foldl (fun d n => d.set n []) lang.genderAliases }

def readCases (lang : Language) (data : String) (pos : Position) : Build Language := do
  if lang.cases.isSome then Build.fail "Cases already defined" pos
  let names := words data
  pure { lang with
    cases := some (numbered names)
    caseAliases := names.foldl (fun d n => d.set n []) lang.caseAliases }

def readAlias (kind : String) (known : Option (Dict Nat)) (aliases : Dict (List String))
    (data : String) (pos : Position) : Build (Dict (List String)) := do
  match known with
  | none => Build.fail ("##map_" ++ kind ++ " is not allowed before ##" ++ kind) pos
  | some known =>
    match words data with
    | [own, other] =>
      unless known.contains own do
        Build.fail ("Trying to map non-existing " ++ kind ++ " '" ++ own ++ "'") pos
      pure (aliases.set own ((aliases.get? own).getD [] ++ [other]))
    | _ => Build.fail ("Invalid ##map_" ++ kind ++ " line") pos

def splitFirst? (c : Char) (cs : List Char) : Option (List Char × List Char) :=
  let before := cs.takeWhile (· != c)
  match cs.drop before.length with
  | [] => none
  | _ :: after => some (before, after)

def readPragma (lang : Language) (line : String) (pos : Position) : Build Language := do
  match splitFirst? ' ' line.toList with
  | none => Build.fail "Invalid pragma" pos
  | some (name, data) =>
    let data := String.ofList data
    match String.ofList name with
    | "##grflangid" => readId lang data pos
    | "##plural" => readPlural lang data pos
    | "##gender" => readGenders lang data pos
    | "##case" => readCases lang data pos
    | "##map_gender" =>
      pure { lang with
        genderAliases := ← readAlias "gender" lang.genders lang.genderAliases data pos }
    | "##map_case" =>
      pure { lang with caseAliases := ← readAlias "case" lang.cases lang.caseAliases data pos }
    | _ => Build.fail "Invalid pragma" pos

def modifyLibrary (f : Library → Library) : Build Unit :=
  modify fun s => { s with library := f s.library }

def readText (lang : Language) (name : String) (case? : Option String) (value : String)
    (pos : Position) : Build Language := do
  if name.isEmpty || !name.toList.all Text.isNameChar then
    Build.fail ("Invalid string name \"" ++ name ++ "\"") pos
  let known := lang.entries.get? name
  if known.isSome && case?.isNone then
    Build.fail ("String name \"" ++ name ++ "\" is used multiple times") pos
  let put (e : Entry) : Language := { lang with entries := lang.entries.set name e }
  if lang.master then
    let phrase ← readPhrase lang value pos
    return put { phrase := phrase.withoutChoices }
  let drop (text : String) : Build Language := do
    Build.warn text (some pos)
    pure lang
  let library := (← get).library
  match library.master.entries.get? name with
  | none => drop ("String name \"" ++ name ++ "\" does not exist in master file")
  | some master =>
    let phrase ← readPhrase lang value pos
    let sizes ← Build.ofExcept (master.phrase.sizes library.codes)
    if sizes != (← Build.ofExcept (phrase.sizes library.codes)) then
      return ← drop
        ("String commands don't match with master file \"" ++ library.masterName ++ "\"")
    match case?, known with
    | none, _ => pure (put { phrase })
    | some _, none => drop "String with case used before the base string"
    | some case, some e =>
      if !((lang.cases.map (·.contains case)).getD false) then
        drop ("Invalid case name \"" ++ case ++ "\"")
      else if e.cases.contains case then
        Build.fail ("String name \"" ++ name ++ "." ++ case ++ "\" is used multiple times") pos
      else if (phrase.gender.getD "") != "" then
        drop "Case-strings can't set the gender, only the base string can"
      else pure (put { e with cases := e.cases.set case phrase })

def splitName (name : List Char) : List Char × Option (List Char) :=
  match splitFirst? '.' name.reverse with
  | none => (name, none)
  | some (case, rest) => (rest.reverse, some case.reverse)

def readLine (lang : Language) (line : String) (pos : Position) : Build Language := do
  if line.isEmpty then pure lang
  else if line.length > 2 && line.startsWith "##" && !line.startsWith "###" then
    if lang.master then pure lang else readPragma lang line pos
  else if line.startsWith "#" then pure lang
  else
    match splitFirst? ':' line.toList with
    | none => Build.fail "Line has no ':' delimiter" pos
    | some (name, value) =>
      let (name, case?) := splitName (name.reverse.dropWhile Text.isBlank).reverse
      if case? == some [] then Build.fail "No case after '.' delimiter" pos
      if lang.master && case?.isSome then pure lang
      else
        readText lang (String.ofList name) (case?.map String.ofList) (String.ofList value) pos

def readLines (file : String) (master : Bool) : List (String × Nat) → Language → Build Language
  | [], lang => pure lang
  | (line, i) :: rest, lang => do
    let pos := Position.line file (i + 1)
    let line := String.ofList (line.toList.dropWhile (· == '\ufeff'))
    if master then
      let changed ← readLine (← get).library.master line pos
      modifyLibrary fun l => { l with master := changed }
    readLines file master rest (← readLine lang line pos)

def addLanguage (file : String) (lang : Language) : Build Unit := do
  let place : Position := { place := .language file }
  match lang.id with
  | none => Build.warn "Language file does not contain a ##grflangid pragma" (some place)
  | some id =>
    if ((← get).library.languages.lookup id).isSome then
      Build.fail ("Language file has the same ##grflangid (with number " ++ toString id
        ++ ") as another language file") place
    modifyLibrary fun l => { l with languages := l.languages ++ [(id, lang)] }

/-- Reads a language file. Faults in the master file stop the build; any other file with a fault is
left out with a warning. -/
def readFile (file : String) (master : Bool) : Build Unit := do
  let read : Build (Option Language) := do
    let path ← Build.findFile file
    let (lines, sound) := Text.fileLines (← Build.readBytes path)
    let lang ← readLines file master lines.zipIdx {}
    if sound then pure (some lang)
    else
      let place : Position := { place := .language file }
      if master then Build.fail "The default language file contains non-utf8 characters." place
      Build.warn
        "Language file contains non-utf8 characters. Ignoring (part of) the contents." (some place)
      pure none
  let result ← tryCatch read fun stop =>
    match stop with
    | .fault f => do
      if master then throw stop
      Build.warn f.cause.text f.pos
      pure none
    | stop => throw stop
  match result with
  | some lang => addLanguage file lang
  | none => pure ()

/-- Reads all language files of a folder. Its name is a pattern for all files but the master. -/
def readFolder (folder master : String) : Build Unit := do
  modifyLibrary fun l => { l with masterName := master }
  let files := (← get).files
  let masterFile := folder ++ "/" ++ master
  if files.exists? masterFile then
    readFile masterFile true
    for name in (files.expand (folder ++ "/*.lng")).mergeSort (· ≤ ·) do
      unless name.endsWith master do readFile name false
    modifyLibrary fun l =>
      { l with languages := l.languages.mergeSort fun a b => a.1 ≤ b.1 }
  else
    Build.warn ("Default language file \"" ++ Path.join folder master ++ "\" doesn't exist")

def addCodes (file : String) : List (String × Nat) → Build Unit
  | [] => pure ()
  | (line, i) :: rest => do
    let line := Text.strip line.toList
    let pos := Position.line file (i + 1)
    unless line.isEmpty || line.head? == some '#' do
      match splitFirst? ':' line with
      | none => Build.fail "Line has no ':' delimiter." pos
      | some (name, value) =>
        let name := String.ofList (Text.strip name)
        let value := String.ofList value
        if (← get).library.codes.contains name then
          Build.warn ("Overwriting existing tag \"" ++ name ++ "\".") (some pos)
        let code : Code :=
          { wide := value, narrow := if Text.isAscii value then some value else none }
        modifyLibrary fun l => { l with codes := l.codes.set name code }
    addCodes file rest

def readCodes (file : String) : Build Unit := do
  if (← get).files.exists? file then
    let path ← Build.findFile file
    addCodes file (Text.fileLines (← Build.readBytes path)).1.zipIdx

def listUnused : Build Unit := do
  let library := (← get).library
  for (name, _) in library.master.entries do
    unless library.used.contains name do Build.warn ("String \"" ++ name ++ "\" is unused")

end NewGrf.Language
