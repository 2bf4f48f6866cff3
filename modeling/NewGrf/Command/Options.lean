import NewGrf.Console
import NewGrf.Text.Integer
import NewGrf.Text.Printable

namespace NewGrf.Command

structure Options where
  outline : Bool := false
  rethrow : Bool := false
  grf : Option String := none
  md5 : Option String := none
  nfo : Option String := none
  nml : Option String := none
  dependencies : Bool := false
  dependencyFile : Option String := none
  dependencyTarget : Option String := none
  crop : Bool := false
  compress : Bool := true
  outputs : List String := []
  codes : String := "custom_tags.txt"
  languages : String := "lang"
  master : String := "english.lng"
  firstSprite : Int := 0
  palette : String := "ANY"
  quiet : Bool := false
  noCache : Bool := false
  cacheFolder : String := ".nmlcache"
  keepOrphaned : Bool := true
  verbosity : Int := 3
  muted : List Warning := []
  extraZoom : Bool := true
  fullColour : Bool := true
  checkPalette : Bool := true
  listUnused : Bool := false
  deriving Inhabited

inductive Misuse where
  | unknown (option : String)
  | ambiguous (option : String) (candidates : List String)
  | missingValue (option : String)
  | unwantedValue (option : String)
  | notInteger (option value : String)
  | notAmong (option value : String) (choices : List String)
  | severalFiles
  deriving Repr, DecidableEq

def Misuse.text : Misuse → String
  | unknown o => "no such option: " ++ o
  | ambiguous o cs => "ambiguous option: " ++ o ++ " (" ++ ", ".intercalate cs ++ "?)"
  | missingValue o => o ++ " option requires 1 argument"
  | unwantedValue o => o ++ " option does not take a value"
  | notInteger o v => "option " ++ o ++ ": invalid integer value: " ++ Text.quoted v
  | notAmong o v cs =>
    "option " ++ o ++ ": invalid choice: " ++ Text.quoted v ++ " (choose from "
      ++ ", ".intercalate (cs.map fun c => Text.quoted c) ++ ")"
  | severalFiles => "Error: only a single nml file can be read per run"

inductive Ending where
  | help
  | misuse (m : Misuse)

inductive Effect where
  | help
  | set (f : Options → Options)
  | text (f : String → Options → Options)
  | integer (f : Int → Options → Options)
  | choice (choices : List String) (f : String → Options → Options)

structure Switch where
  short : Option Char := none
  long : Option String := none
  effect : Effect

def palettes : List String := ["DEFAULT", "LEGACY", "DOS", "WIN", "ANY"]

def paletteOf : String → String
  | "DOS" => "DEFAULT"
  | "WIN" => "LEGACY"
  | name => name

def switches : List Switch := [
  { long := some "version", effect := .set id },
  { short := some 'h', long := some "help", effect := .help },
  { short := some 'd', long := some "debug", effect := .set fun o => { o with outline := true } },
  { short := some 's', long := some "stack", effect := .set fun o => { o with rethrow := true } },
  { long := some "grf", effect := .text fun v o => { o with grf := some v } },
  { long := some "md5", effect := .text fun v o => { o with md5 := some v } },
  { long := some "nfo", effect := .text fun v o => { o with nfo := some v } },
  { short := some 'M', effect := .set fun o => { o with dependencies := true } },
  { long := some "MF", effect := .text fun v o => { o with dependencyFile := some v } },
  { long := some "MT", effect := .text fun v o => { o with dependencyTarget := some v } },
  { short := some 'c', effect := .set fun o => { o with crop := true } },
  { short := some 'u', effect := .set fun o => { o with compress := false } },
  { long := some "nml", effect := .text fun v o => { o with nml := some v } },
  { short := some 'o', long := some "output",
    effect := .text fun v o => { o with outputs := o.outputs ++ [v] } },
  { short := some 't', long := some "custom-tags",
    effect := .text fun v o => { o with codes := v } },
  { short := some 'l', long := some "lang-dir",
    effect := .text fun v o => { o with languages := v } },
  { long := some "default-lang", effect := .text fun v o => { o with master := v } },
  { long := some "start-sprite", effect := .integer fun v o => { o with firstSprite := v } },
  { short := some 'p', long := some "palette",
    effect := .choice palettes fun v o => { o with palette := paletteOf v } },
  { long := some "quiet", effect := .set fun o => { o with quiet := true } },
  { short := some 'n', long := some "no-cache",
    effect := .set fun o => { o with noCache := true } },
  { long := some "cache-dir", effect := .text fun v o => { o with cacheFolder := v } },
  { long := some "clear-orphaned", effect := .set fun o => { o with keepOrphaned := false } },
  { long := some "verbosity", effect := .integer fun v o => { o with verbosity := v } },
  { short := some 'D', long := some "debug-parser", effect := .set id },
  { long := some "no-optimisation-warning",
    effect := .set fun o => { o with muted := .optimisation :: o.muted } },
  { long := some "no-deprecation-warning",
    effect := .set fun o => { o with muted := .deprecation :: o.muted } },
  { long := some "no-extra-zoom", effect := .set fun o => { o with extraZoom := false } },
  { long := some "no-32bpp", effect := .set fun o => { o with fullColour := false } },
  { long := some "no-palette-validation",
    effect := .set fun o => { o with checkPalette := false } },
  { long := some "list-unused-strings", effect := .set fun o => { o with listUnused := true } }]

def findLong (name : String) : Except Ending (String × Effect) :=
  let all := switches.filterMap fun s => s.long.map fun l => ("--" ++ l, s.effect)
  match all.find? (·.1 == name), all.filter (·.1.startsWith name) with
  | some s, _ => .ok s
  | none, [s] => .ok s
  | none, [] => .error (.misuse (.unknown name))
  | none, several =>
    .error (.misuse (.ambiguous name ((several.map (·.1)).mergeSort (· ≤ ·))))

def findShort (c : Char) : Except Ending Effect :=
  match switches.find? (·.short == some c) with
  | some s => .ok s.effect
  | none => .error (.misuse (.unknown ("-" ++ c.toString)))

def Effect.takesValue : Effect → Bool
  | help | set _ => false
  | _ => true

def integerValue? (text : String) : Option Int :=
  match text.toList with
  | '0' :: 'x' :: _ | '0' :: 'X' :: _ => Text.integerIn? 16 text.toList
  | '0' :: 'b' :: rest | '0' :: 'B' :: rest =>
    Text.integerIn? 2 (if rest.isEmpty then ['0'] else rest)
  | '0' :: _ => Text.integerIn? 8 text.toList
  | cs => Text.integerIn? 10 cs

def Effect.apply (e : Effect) (name value : String) (o : Options) : Except Ending Options :=
  match e with
  | help => .error .help
  | set f => .ok (f o)
  | text f => .ok (f value o)
  | integer f =>
    match integerValue? value with
    | some n => .ok (f n o)
    | none => .error (.misuse (.notInteger name value))
  | choice choices f =>
    if choices.contains value then .ok (f value o)
    else .error (.misuse (.notAmong name value choices))

/-- The last of some joined short options, if it takes its value from the next argument. -/
def applyShort : List Char → Options → Except Ending (Options × Option (String × Effect))
  | [], o => .ok (o, none)
  | c :: rest, o => do
    let effect ← findShort c
    let name := "-" ++ c.toString
    if effect.takesValue then
      if rest.isEmpty then pure (o, some (name, effect))
      else pure (← effect.apply name (String.ofList rest) o, none)
    else applyShort rest (← effect.apply name "" o)

/-- An option as it stands in one argument; what it leaves open takes the next argument. -/
def applyArgument (arg : String) (o : Options) :
    Except Ending (Options × Option (String × Effect)) := do
  if arg.startsWith "--" then
    let name := String.ofList (arg.toList.takeWhile (· != '='))
    let (full, effect) ← findLong name
    if name.length == arg.length then
      if effect.takesValue then pure (o, some (full, effect))
      else pure (← effect.apply full "" o, none)
    else if effect.takesValue then
      pure (← effect.apply full (arg.drop (name.length + 1)).toString o, none)
    else .error (.misuse (.unwantedValue full))
  else applyShort (arg.toList.drop 1) o

def readArguments : List String → Options → List String → Except Ending (Options × List String)
  | [], o, files => .ok (o, files.reverse)
  | "--" :: rest, o, files => .ok (o, files.reverse ++ rest)
  | arg :: rest, o, files => do
    if arg.startsWith "-" && arg.length > 1 then
      let (o, open?) ← applyArgument arg o
      match open?, rest with
      | none, rest => readArguments rest o files
      | some (name, effect), value :: rest =>
        readArguments rest (← effect.apply name value o) files
      | some (name, _), [] => .error (.misuse (.missingValue name))
    else readArguments rest o (arg :: files)

def usage : String :=
  "Usage: nmlc [options] <filename>\nWhere <filename> is the nml file to parse\n"

def Misuse.report (m : Misuse) : String := usage ++ "\nnmlc: error: " ++ m.text ++ "\n"

def helpLines : List String := [
  "",
  "Options:",
  "  --version             show program's version number and exit",
  "  -h, --help            show this help message and exit",
  "  -d, --debug           write the AST to stdout",
  "  -s, --stack           Dump stack when an error occurs",
  "  --grf=<file>          write the resulting grf to <file>",
  "  --md5=<file>          Write an md5sum of the resulting grf to <file>",
  "  --nfo=<file>          write nfo output to <file>",
  "  -M                    output a rule suitable for make describing the",
  "                        graphics dependencies of the main grf file (requires",
  "                        input file or --grf)",
  "  --MF=<file>           When used with -M, specifies a file to write the",
  "                        dependencies to",
  "  --MT=<file>           target of the rule emitted by dependency generation",
  "                        (requires -M)",
  "  -c                    crop extraneous transparent blue from real sprites",
  "  -u                    save uncompressed data in the grf file",
  "  --nml=<file>          write optimized nml to <file>",
  "  -o <file>, --output=<file>",
  "                        write output(nfo/grf) to <file>",
  "  -t <file>, --custom-tags=<file>",
  "                        Load custom tags from <file> [default:",
  "                        custom_tags.txt]",
  "  -l <dir>, --lang-dir=<dir>",
  "                        Load language files from directory <dir> [default:",
  "                        lang]",
  "  --default-lang=<file>",
  "                        The default language is stored in <file> [default:",
  "                        english.lng]",
  "  --start-sprite=<num>  Set the first sprite number to write (do not use",
  "                        except when you output nfo that you want to include in",
  "                        other files)",
  "  -p <palette>, --palette=<palette>",
  "                        Force nml to use the palette <pal> [default: ANY].",
  "                        Valid values are 'DEFAULT', 'LEGACY', 'ANY'",
  "  --quiet               Disable all warnings. Errors will be printed normally.",
  "  -n, --no-cache        Disable caching of sprites in .cache[index] files,",
  "                        which may reduce compilation time.",
  "  --cache-dir=<dir>     Cache files are stored in directory <dir> [default:",
  "                        .nmlcache]",
  "  --clear-orphaned      Remove unused/orphaned items from cache files.",
  "  --verbosity=<level>   Set the verbosity level for informational output.",
  "                        [default: 3, max: 4]",
  "  -D, --debug-parser    Enable debug mode for parser.",
  "  --no-optimisation-warning",
  "                        Disable optimisation warnings",
  "  --no-deprecation-warning",
  "                        Disable deprecation warnings",
  "  --no-extra-zoom       Skip extra zoom alternative sprites",
  "  --no-32bpp            Skip 32bpp alternative sprites",
  "  --no-palette-validation",
  "                        Disable palette validation for sprites",
  "  --list-unused-strings",
  "                        List unused strings"]

def help : String := usage ++ String.join (helpLines.map (· ++ "\n"))

end NewGrf.Command
