import NewGrf.Action.Link
import NewGrf.Action.Sounds
import NewGrf.Action.Write
import NewGrf.Command.Options
import NewGrf.Language.Reader
import NewGrf.Output.Digest
import NewGrf.Output.Grf
import NewGrf.Script.Actions
import NewGrf.Script.Parser
import NewGrf.Script.Printer
import NewGrf.Script.Validate
import NewGrf.Session
import NewGrf.Sprite.Cache
import NewGrf.Text.Integer

namespace NewGrf.Command

private def ratio (title : String) (used total : Int) : String :=
  title ++ ": " ++ toString used ++ "/" ++ toString total

private def peakLine (title : String) (peak : Nat × Option Position) (total : Nat) :
    List String :=
  if peak.1 == 0 then []
  else [ratio title peak.1 total ++ " (" ++ ((peak.2.map Position.text).getD "None") ++ ")"]

private def positive (title : String) (used total : Int) : List String :=
  if used > 0 then [ratio title used total] else []

private def itemLines (s : Session) : List String :=
  s.idSpaces.toList.flatMap fun space =>
    if space.dynamic then
      positive (space.title ++ " items") space.used.length (space.last - space.first + 1)
    else []

private def tableLines (s : Session) : List String :=
  let track (kind : TrackKind) (labels : LabelNumbers) : List String :=
    if s.names.ownTables.contains kind then
      [ratio (kind.title ++ "type translation table") labels.length 0x100]
    else []
  positive "Cargo translation table" s.names.cargos.length 0xFE
    ++ track .rail s.names.rails ++ track .road s.names.roads ++ track .tram s.names.trams

private def textLines (s : Session) : List String :=
  [s.callbackTexts, s.propertyTexts].flatMap fun t =>
    positive (hexText 2 t.range ++ "xx strings") t.used.length t.total

def soundLimit : Int := 0x80 - 73

def statistics (s : Session) : List String :=
  itemLines s
    ++ positive "Town names" s.towns.taken.length Town.total
    ++ peakLine "Concurrent Action10 labels" s.labels.peak s.labels.total
    ++ peakLine "Concurrent spritegroups" s.graph.idPeak 0x100
    ++ peakLine "Concurrent Action2 registers" s.graph.registerPeak 0x7F
    ++ peakLine "Concurrent ActionD registers" s.params.peak s.params.total
    ++ positive "GRF parameter registers" s.playerParams PlayerParam.limit
    ++ tableLines s
    ++ textLines s
    ++ positive "Sound effects" s.sounds.length soundLimit

inductive OutputKind where
  | grf | nfo | nml
  | dependencies (target : String)
  deriving Repr, DecidableEq

structure Output where
  kind : OutputKind
  path : String
  deriving Repr

def quit {α : Type} (code : Nat) (report : String) : Build α := do
  Build.modifyConsole fun c => { c with err := c.err ++ report }
  throw (.exit code)

def readCommandLine (args : List String) : Build (Options × Option String) := do
  let (options, files) ← match readArguments args {} [] with
    | .ok r => pure r
    | .error .help => do
      Build.modifyConsole fun c => { c with out := c.out ++ help }
      throw (.exit 0)
    | .error (.misuse m) => quit 2 m.report
  modify fun s => { s with
    console := { s.console with
      verbosity := if options.quiet then 0 else options.verbosity
      muted := options.muted }
    allowed := { extraZoom := options.extraZoom, fullColour := options.fullColour } }
  match files with
  | [] =>
    let wanted := [options.grf, options.nfo, options.nml, options.dependencyFile].any fun o =>
      (o.map (!·.isEmpty)).getD false
    unless wanted || !options.outputs.isEmpty do
      Build.modifyConsole fun c => { c with out := c.out ++ help }
      throw (.exit 2)
    pure (options, none)
  | [file] =>
    unless (← get).files.exists? file do
      Build.fail ("Input file \"" ++ file ++ "\" does not exist")
    pure (options, some file)
  | _ => quit 2 Misuse.severalFiles.report

private def given (o : Option String) : Bool := (o.map (!·.isEmpty)).getD false

def withExtension (path extension : String) : String := (Path.splitExtension path).1 ++ extension

def dependencyOutput (o : Options) (input : Option String) : Build (List Output) := do
  if !o.dependencies then return []
  let file := o.dependencyFile <|> o.grf.map (withExtension · ".dep")
    <|> input.map (withExtension · ".dep")
  let target := o.dependencyTarget <|> o.grf <|> input.map (withExtension · ".grf")
  match file, target with
  | none, _ =>
    Build.fail
      "-M requires a dependency file either via -MF, an input filename or a valid output via --grf"
  | _, none =>
    Build.fail
      "-M requires either a target grf file via -MT, an input filename or a valid output via --grf"
  | some file, some target => pure [{ kind := .dependencies target, path := file }]

def namedOutput (o : Options) (path : String) : Build Output := do
  match Text.lower (Path.splitExtension path).2 with
  | ".grf" => pure { kind := .grf, path }
  | ".nfo" => pure { kind := .nfo, path }
  | ".nml" => pure { kind := .nml, path }
  | ".dep" => pure { kind := .dependencies (o.grf.getD ""), path }
  | other =>
    Build.modifyConsole fun c => c.error ("Unknown output format " ++ other)
    throw (.exit 2)

def outputs (o : Options) (input : Option String) (first : List Output) : Build (List Output) := do
  let one (kind : OutputKind) (path : Option String) : List Output :=
    if given path then [{ kind, path := path.getD "" }] else []
  let named ← o.outputs.mapM (namedOutput o)
  let wanted := [o.grf, o.nfo, o.nml, o.dependencyFile].any given || !o.outputs.isEmpty
  let grf := if !wanted && first.isEmpty then input.map (withExtension · ".grf") <|> o.grf
    else o.grf
  pure (first ++ one .grf grf ++ one .nfo o.nfo ++ one .nml o.nml ++ named)

/-- The text of the input. A sequence of bytes that the end cuts off is left out. -/
def inputText (bytes : ByteArray) : Build String := do
  match Text.Utf8.decode bytes with
  | (_, .broken f) => Build.fail ("Input file is not utf-8 encoded: " ++ f.text)
  | (text, _) => pure text

/-- A value that does not fit stops the program. -/
def needFit (e : Entry) : Build Unit := unless e.fits do throw (.system "internal" "")

def writeNfo (firstSprite : Int) (path : String) (actions : List Action) : Build Unit := do
  let nfo ← actions.foldlM (fun (n : Nfo) a => do
    let entry ← a.entry
    match EStateM.run (Nfo.writeEntry entry.fitting) n with
    | .ok _ n => do
      needFit entry
      pure n
    | .error f _ => Build.stop f) { number := firstSprite }
  Build.writeFile path nfo.file.toUTF8

def writeImage (e : Encoding) (images : SpriteCache) (s : ImageSprite) : Build Grf.Image := do
  let d := (images.find? (e.key s)).getD default
  let r := s.area
  let (width, height, xoffset, yoffset) := match d.margins with
    | some m => m.apply r.width r.height s.xrel s.yrel
    | none => (r.width, r.height, s.xrel, s.yrel)
  (e.remarks s d).forM fun text => Build.warn text (s.mask.getD s.file).2
  pure { width, height, xoffset, yoffset, info := d.info, zoom := s.zoom, data := d.data }

def writeEntry (e : Encoding) (images : SpriteCache) : Entry → Build (Grf.Write Unit)
  | .data pieces => pure (pieces.forM Grf.write)
  | .images sprites _ => do
    let images ← sprites.mapM (writeImage e images)
    pure do
      Grf.start 0 true
      images.forM Grf.image
      Grf.finish
  | .file name => do
    let content ← Build.readBytes (← Build.findFile name)
    pure (Grf.attach (Path.split name).2 content)

def writeGrf (e : Encoding) (images : SpriteCache) (path : String) (actions : List Action) :
    Build String := do
  let grf ← actions.foldlM (fun (g : Grf) a => do
    let entry ← a.entry
    match EStateM.run (← writeEntry e images entry.fitting) g with
    | .ok _ g => do
      needFit entry
      pure g
    | .error f _ => if f == Text.surrogateFault then Build.crash else Build.stop f) {}
  Build.writeFile path grf.file
  pure (Digest.text grf.front)

structure PaletteChoice where
  used : String
  last : Option String := none

def PaletteChoice.add (forced : String) (c : PaletteChoice) (file : String) :
    Build PaletteChoice := do
  let picture ← tryCatch (Build.openPicture file) fun stop => do
    match stop with
    | .system _ text => Build.stop (.inImage text file none)
    | stop => throw stop
  if picture.mode != .indexed then return c
  let own := (← Build.ofExcept (picture.gamePalette file)).name
  let convertible := ["LEGACY", "DEFAULT"]
  if forced != "ANY" && own != forced && !(forced == "DEFAULT" && own == "LEGACY") then
    Build.stop (.inImage ("Image has '" ++ own ++ "' palette, but you forced the '" ++ c.used
      ++ "' palette") file none)
  if c.used == "ANY" then pure { used := own, last := some file }
  else if own == c.used then pure { c with last := some file }
  else if convertible.contains c.used && convertible.contains own then
    pure { used := "DEFAULT", last := some file }
  else
    Build.stop (.inImage ("Image has '" ++ own ++ "' palette, but \"" ++ c.last.getD "None"
      ++ "\" has the '" ++ c.used ++ "' palette") file none)

def choosePalette (o : Options) (sources : List SpriteSource) : Build String := do
  if !o.checkPalette then return o.palette
  Build.progress "Checking palette of source images ..."
  let c ← sources.foldlM (fun c s => PaletteChoice.add o.palette c (s.mask.getD s.file))
    { used := o.palette : PaletteChoice }
  pure c.used

def dependencyLines (target : String) (sources : List SpriteSource) : String :=
  String.join ((sources.flatMap SpriteSource.files).map fun f => target ++ ": " ++ f ++ "\n")

def actionsOf (script : List Stmt) : Build (List Action) := do
  let script ← Stmt.registerAll script
  let script ← Stmt.prepareAll script
  let actions ← Stmt.allActions script
  Build.progress "Generating actions ..."
  let actions := (← actions.mapM Action.expand).flatten ++ Sounds.actions (← get).sounds
  Build.progress "Assigning Action2 registers ..."
  actions.reverse.forM Action.giveRegisters
  Build.progress "Generating strings ..."
  let actions ← Texts.insert actions
  Build.progress "Collecting real sprites ..."
  actions.mapM Action.sized

def writeOutputs (o : Options) (e : Encoding) (images : SpriteCache) (outputs : List Output)
    (actions : List Action) : Build Unit := do
  let digest ← outputs.foldlM (fun (digest : Option String) output => do
    match output.kind with
    | .grf => pure (some (← writeGrf e images output.path actions))
    | .nfo => do
      writeNfo o.firstSprite output.path actions
      pure digest
    | _ => pure digest) none
  match digest, o.md5 with
  | some digest, some path => Build.writeFile path (digest ++ "\n").toUTF8
  | _, _ => pure ()

def paletteLetter? (name : String) : Option String :=
  [("LEGACY", "W"), ("DEFAULT", "D"), ("ANY", "A")].lookup name

def compile (o : Options) (input : Option String) (read : Build ByteArray)
    (outputs : List Output) : Build Nat := do
  Build.progress ("Reading " ++ input.getD "standard input" ++ " ...")
  let text ← inputText (← read)
  let text := String.ofList (text.toList.dropWhile (· == '\ufeff'))
  if text.toList.all Text.isBlank then
    Build.modifyConsole fun c => c.error "Empty input file"
    return 4
  Build.progress "Init parser ..."
  Build.progress "Parsing ..."
  let script ← readScript (input.getD "input") text
  Build.check (Stmt.placeFaultIn? [] script)
  if o.outline then (scriptOutline script).forM Build.printAside
  for output in outputs do
    if output.kind == .nml then Build.writeFile output.path (scriptText script).toUTF8
  Build.progress "Preprocessing ..."
  let actions ← actionsOf script
  let sources := SpriteSource.collect (actions.flatMap Action.images)
  for output in outputs do
    match output.kind with
    | .dependencies target =>
      Build.writeFile output.path (dependencyLines target sources).toUTF8
    | _ => pure ()
  let onlyDependencies := outputs.all fun output =>
    match output.kind with
    | .dependencies _ => true
    | _ => false
  if onlyDependencies then
    Build.endProgress
    return 0
  let palette ← choosePalette o sources
  modify fun s => { s with
    paletteName := palette
    paletteLetter := (paletteLetter? palette).getD s.paletteLetter }
  Build.endProgress
  let encoding : Encoding :=
    { compress := o.compress, crop := o.crop, palette := Palette.ofName? palette }
  let files := (← get).files
  let root := if o.noCache then none else some (files.absolute o.cacheFolder)
  let images ← if outputs.any fun output => output.kind == .grf then
      SpriteSource.encodeAll encoding { root, orphaned := o.keepOrphaned } sources
    else pure []
  if (← get).fullColour then modify fun s => { s with depthLetter := "3" }
  Build.progress "Linking actions ..."
  let actions := if actions.any Action.isHead then .count actions.length :: actions else actions
  Action.linkAll o.firstSprite actions
  (statistics (← get)).forM Build.info
  Build.progress "Writing output ..."
  writeOutputs o encoding images outputs actions
  Build.endProgress
  pure 0

def run (args : List String) (standardInput : String) : Build Nat := do
  let (o, input) ← readCommandLine args
  modify fun s => { s with rethrow := o.rethrow }
  Language.readCodes o.codes
  Build.progress "Reading lang ..."
  Language.readFolder o.languages o.master
  Build.endProgress
  let first ← dependencyOutput o input
  let path ← input.mapM Build.findFile
  let read : Build ByteArray := match path with
    | some p => Build.readBytes p
    | none => pure standardInput.toUTF8
  -- A folder is refused as soon as it is opened.
  if let some p := path then discard (Build.readBytes p)
  let outputs ← outputs o input first
  let code ← compile o input read outputs
  if o.listUnused then Language.listUnused
  pure code

def runReporting (args : List String) (standardInput : String) : Build Nat := do
  tryCatch (run args standardInput) fun stop => do
    match stop with
    | .exit _ => throw stop
    | .fault f =>
      Build.modifyConsole fun c => c.error f.report
      if (← get).rethrow then throw stop
      throw (.exit 1)
    | .system kind text =>
      let s ← get
      if s.rethrow then throw stop
      Build.modifyConsole fun c => c.error
        ("nmlc: An internal error has occurred:\nnmlc-version: " ++ s.version ++ "\nError:    ("
          ++ kind ++ ") \"" ++ text ++ "\".\nCommand:  ["
          ++ ", ".intercalate (("nmlc" :: args).map fun a => Text.quoted a)
          ++ "]\nLocation: " ++ s.location ++ "\n")
      throw (.exit 1)

end NewGrf.Command
