import NewGrf.Expr.Basic
import NewGrf.Expr.Printer
import NewGrf.Name.Table
import NewGrf.Text.Escaped

namespace NewGrf

open NewGrf.Expr (outlineLine outlines)

private def commas (parts : List String) : String := ", ".intercalate parts

private def row (tabs : Nat) (s : String) : String := "".pushn '\t' tabs ++ s ++ "\n"

private def rows (tabs : Nat) (ss : List String) : String := String.join (ss.map (row tabs))

private def braced (head body : String) : String := head ++ " \x7b\n" ++ body ++ "\x7d\n"

namespace Ident

def outline (i : Nat) (n : Ident) : List String := (Expr.ident n.text n.pos).outline i

end Ident

namespace Choice

def print (c : Choice) : String :=
  match c.value with
  | none => "return;"
  | some e => (if c.isReturn then "return " else "") ++ e.text ++ ";"

def outline (i : Nat) (c : Choice) : List String :=
  match c.value with
  | none => [outlineLine i "Return computed value"]
  | some e =>
    outlineLine i (if c.isReturn then "Return value:" else "Go to block:") :: e.outline (i + 2)

end Choice

namespace SwitchRange

def print (r : SwitchRange) : String :=
  let oneValue := r.single || (match r.low, r.high with
    | .num a _, .num b _ => a == b
    | _, _ => false)
  r.low.text ++ (if oneValue then "" else ".." ++ r.high.text) ++ ": " ++ r.result.print

def outline (i : Nat) (r : SwitchRange) : List String :=
  outlineLine i "Min:" :: r.low.outline (i + 2) ++ outlineLine i "Max:" :: r.high.outline (i + 2)
    ++ outlineLine i "Result:" :: r.result.outline (i + 2)

end SwitchRange

namespace SwitchBody

def print (b : SwitchBody) : String :=
  rows 1 (b.ranges.map SwitchRange.print ++ b.default.toList.map Choice.print)

def outline (i : Nat) (b : SwitchBody) : List String :=
  b.ranges.flatMap (·.outline i)
    ++ b.default.toList.flatMap fun c => outlineLine i "Default:" :: c.outline (i + 2)

end SwitchBody

namespace Switch

def print (s : Switch) : String :=
  braced ("switch(" ++ commas ([toString s.feature, s.varRange.text, s.name.text]
    ++ s.params.map Expr.text ++ [s.expr.text]) ++ ")") s.body.print

def outline (i : Nat) (s : Switch) : List String :=
  outlineLine i ("Switch, Feature = " ++ toString s.feature ++ ", name = " ++ s.name.text)
    :: (if s.params.isEmpty then []
        else outlineLine (i + 2) "Parameters:" :: outlines (i + 4) s.params)
    ++ outlineLine (i + 2) "Expression:" :: s.expr.outline (i + 4)
    ++ outlineLine (i + 2) "Body:" :: s.body.outline (i + 4)

end Switch

namespace RandomSwitch

def print (s : RandomSwitch) : String :=
  let head := [toString s.feature, s.kind.text, s.name.text, s.triggers.text]
  "random_switch(" ++ commas head ++ ") \x7b\n"
    ++ rows 0 (s.dependent.map fun c => "dependent: " ++ c.print ++ ";")
    ++ rows 0 (s.independent.map fun c => "independent: " ++ c.print ++ ";")
    ++ rows 0 (s.choices.map fun c => c.probability.text ++ ": " ++ c.result.print) ++ "\x7d\n"

def outline (i : Nat) (s : RandomSwitch) : List String :=
  [outlineLine i "Random", outlineLine (i + 2) ("Feature: " ++ toString s.feature),
    outlineLine (i + 2) "Type:"] ++ s.kind.outline (i + 4)
    ++ outlineLine (i + 2) ("Name: " ++ s.name.text) :: outlineLine (i + 2) "Triggers:"
      :: s.triggers.outline (i + 4)
    ++ (s.dependent.flatMap fun c => outlineLine (i + 2) "Dependent on:" :: c.outline (i + 4))
    ++ (s.independent.flatMap fun c =>
      outlineLine (i + 2) "Independent from:" :: c.outline (i + 4))
    ++ outlineLine (i + 2) "Choices:" :: s.choices.flatMap fun c =>
      outlineLine (i + 4) "Probability:" :: c.probability.outline (i + 6)
        ++ outlineLine (i + 4) "Result:" :: c.result.outline (i + 6)

end RandomSwitch

namespace Assignment

def print (a : Assignment) : String := a.name.text ++ ": " ++ a.value.text ++ ";"

def outlinePair (i : Nat) (name value : Expr) : List String :=
  outlineLine i "Assignment" :: outlineLine (i + 2) "Name:" :: name.outline (i + 4)
    ++ outlineLine (i + 2) "Value:" :: value.outline (i + 4)

def outline (i : Nat) (a : Assignment) : List String :=
  outlinePair i (.ident a.name.text a.name.pos) a.value

end Assignment

namespace ProduceOld

def print (p : ProduceOld) : String :=
  "produce(" ++ commas (p.name.text :: p.params.map Expr.text) ++ ");\n"

def outline (i : Nat) (p : ProduceOld) : List String :=
  outlineLine i ("Produce, name = " ++ p.name.text) :: outlineLine (i + 2) "Subtract from input:"
    :: outlines (i + 4) (p.params.take 3)
    ++ outlineLine (i + 2) "Add to output:" :: outlines (i + 4) ((p.params.drop 3).take 2)
    ++ outlineLine (i + 2) "Again:" :: outlines (i + 4) ((p.params.drop 5).take 1)

end ProduceOld

namespace SettingValue

private def nameText (entry : Expr × Expr) : String := entry.1.text ++ ": " ++ entry.2.text ++ ";"

private def entries? : SettingValue → Option (List (Expr × Expr))
  | names entries _ => some entries
  | expr (.array [] _) => some []
  | expr _ => none

def print : SettingValue → String
  | expr e => e.text
  | names entries _ => "[" ++ commas (entries.map nameText) ++ "]"

def outline (i : Nat) : SettingValue → List String
  | expr e => e.outline i
  | names entries _ =>
    outlineLine i "Array of values:"
      :: entries.flatMap fun e => Assignment.outlinePair (i + 2) e.1 e.2

end SettingValue

namespace Produce

def print (p : Produce) : String :=
  let cargos (as : List (Ident × SettingValue)) :=
    "[" ++ " ".intercalate (as.map fun (n, v) => n.text ++ ": " ++ v.print ++ ";") ++ "]"
  "produce(" ++ commas [p.name.text, cargos p.subtract, cargos p.add, p.again.text] ++ ")\n"

def outline (i : Nat) (p : Produce) : List String :=
  let cargos (title : String) (as : List (Ident × SettingValue)) := as.flatMap fun (n, v) =>
    outlineLine (i + 2) (title ++ n.text ++ ":") :: v.outline (i + 4)
  outlineLine i ("Produce, name = " ++ p.name.text) :: cargos "Subtract from input " p.subtract
    ++ cargos "Add to output " p.add ++ outlineLine (i + 2) "Again:" :: p.again.outline (i + 4)

end Produce

namespace Recolour

private def rangeText (low : Expr) (high : Option Expr) : String :=
  match high with
  | none => low.text
  | some h => low.text ++ " .. " ++ h.text

def print (r : Recolour) : String :=
  rangeText r.low r.high ++ ": " ++ rangeText r.toLow r.toHigh ++ ";"

end Recolour

namespace SpriteEntry

private def labelText (label : Option Ident) : String :=
  match label with
  | some l => l.text ++ ": "
  | none => ""

def print : SpriteEntry → String
  | real label params _ => labelText label ++ "[" ++ commas (params.map Expr.text) ++ "]"
  | recolour label mapping _ =>
    labelText label ++ "recolour_sprite \x7b\n" ++ String.join (mapping.map Recolour.print)
      ++ "\x7d"
  | template _ name args _ => name.text ++ "(" ++ commas (args.map Expr.text) ++ ")"

def outline (i : Nat) : SpriteEntry → List String
  | real _ params _ => outlineLine i "Real sprite, parameters:" :: outlines (i + 2) params
  | recolour _ mapping _ =>
    outlineLine i "Recolour sprite, mapping:"
      :: mapping.map fun r => outlineLine (i + 2) r.print
  | template _ name args _ =>
    outlineLine i ("Template used: " ++ name.text) :: outlineLine (i + 2) "Parameters:"
      :: outlines (i + 4) args

end SpriteEntry

private def fileText (f : FileName) : String := "\"" ++ f.1 ++ "\""

private def fileOutline (f : Option FileName) : String :=
  match f with
  | some f => f.1
  | none => "None"

private def spriteRows (sprites : List SpriteEntry) : String :=
  rows 1 (sprites.map SpriteEntry.print)

private def spriteOutline (i : Nat) (sprites : List SpriteEntry) : List String :=
  outlineLine (i + 2) "Sprites:" :: sprites.flatMap (·.outline (i + 4))

private def keyOf (table : List (String × Int)) (value : Nat) : String :=
  ((table.find? fun e => e.2 == (value : Int)).map (·.1)).getD ""

private def spriteKind (name : Ident) (zoom depth : Nat) (files : List FileName) : String :=
  commas ([name.text, keyOf NameTable.zoomLevels zoom, keyOf NameTable.bitDepths depth]
    ++ files.map fileText)

namespace SpriteBlock

def print (b : SpriteBlock) (word : String) (params : List String) : String :=
  let name := match b.name with
    | some n => n.text
    | none => ""
  braced (word ++ " " ++ name ++ "(" ++ commas params ++ ")") (spriteRows b.sprites)

def nameOutline (i : Nat) (b : SpriteBlock) : List String :=
  b.name.toList.map fun n => outlineLine (i + 2) ("Name: " ++ n.text)

end SpriteBlock

namespace SpriteSet

def print (s : SpriteSet) : String :=
  braced ("spriteset(" ++ spriteKind s.name s.zoom s.depth (s.file.toList ++ s.mask.toList) ++ ")")
    (spriteRows s.sprites)

def outline (i : Nat) (s : SpriteSet) : List String :=
  outlineLine i ("Sprite set: " ++ s.name.text)
    :: outlineLine (i + 2) ("Source:   " ++ fileOutline s.file) :: spriteOutline i s.sprites

end SpriteSet

namespace SpriteGroup

def print (g : SpriteGroup) : String :=
  braced ("spritegroup " ++ g.name.text) (rows 1 (g.views.map fun v =>
    v.name.text ++ ": [" ++ commas (v.sets.map Expr.text) ++ "];"))

def outline (i : Nat) (g : SpriteGroup) : List String :=
  outlineLine i ("Sprite group: " ++ g.name.text) :: g.views.flatMap fun v =>
    outlineLine (i + 2) ("Sprite view: " ++ v.name.text) :: outlineLine (i + 4) "Sprite sets:"
      :: outlines (i + 6) v.sets

end SpriteGroup

namespace SpriteLayout

private def spriteText (s : LayoutSprite) : String :=
  "\t" ++ s.kind.text ++ " \x7b\n\t\t" ++ "\n\t\t".intercalate (s.params.map Assignment.print)
    ++ "\n\t\x7d"

def print (l : SpriteLayout) : String :=
  let params := match l.params with
    | [] => ""
    | ps => "(" ++ commas (ps.map (·.text)) ++ ")"
  "spritelayout " ++ l.name.text ++ params ++ " \x7b\n"
    ++ "\n".intercalate (l.sprites.map spriteText) ++ "\n\x7d\n"

def outline (i : Nat) (l : SpriteLayout) : List String :=
  outlineLine i ("Sprite layout: " ++ l.name.text) :: outlineLine (i + 2) "Parameters:"
    :: l.params.flatMap (·.outline (i + 4))
    ++ outlineLine (i + 2) "Sprites:" :: l.sprites.flatMap fun s =>
      outlineLine (i + 4) ("Tile layout sprite of type: " ++ s.kind.text)
        :: s.params.flatMap (·.outline (i + 6))

end SpriteLayout

namespace Template

def print (t : Template) : String :=
  braced ("template " ++ t.name.text ++ "(" ++ commas (t.params.map (·.text)) ++ ")")
    (spriteRows t.sprites)

def outline (i : Nat) (t : Template) : List String :=
  outlineLine i ("Template declaration: " ++ t.name.text) :: outlineLine (i + 2) "Parameters:"
    :: t.params.flatMap (·.outline (i + 4)) ++ spriteOutline i t.sprites

end Template

namespace TileLayout

def print (t : TileLayout) : String :=
  let entry : TileEntry → String
    | .tile x y type => x.text ++ ", " ++ y.text ++ ": " ++ type.text ++ ";"
    | .property a => a.print
  "tilelayout " ++ t.name.text ++ " \x7b\n\t" ++ "\n\t".intercalate (t.entries.map entry)
    ++ "\n\x7d\n"

end TileLayout

namespace TownPiece

def probability : TownPiece → Expr
  | text _ _ _ p _ | block _ p _ => p

def print : TownPiece → String
  | text _ s _ p _ => "text(\"" ++ s ++ "\", " ++ p.text ++ "),"
  | block ref p _ => "town_names(" ++ ref.text ++ ", " ++ p.text ++ "),"

/-- A piece among pieces whose probabilities have this sum. -/
def outline (i : Nat) (total : Int) (piece : TownPiece) : String :=
  let chance := " with probability " ++ piece.probability.text ++ "/" ++ toString total
  outlineLine i <| match piece with
    | text _ s _ _ _ => "Text " ++ s ++ chance
    | block (.ident n _) _ _ => "Insert town_name ID name '" ++ n ++ "'" ++ chance
    | block (.num v _) _ _ => "Insert town_name ID number 0x" ++ hexLower v ++ chance
    | block _ _ _ => ""

end TownPiece

namespace TownNames

private def entryText : TownEntry → String
  | .styles key value _ => key.text ++ ": " ++ value.text ++ ";\n"
  | .part pieces _ =>
    "\x7b\n\t" ++ "\n\t".intercalate (pieces.map TownPiece.print) ++ "\n\x7d\n"

def print (t : TownNames) : String :=
  let name := match t.name with
    | some n => "(" ++ n.text ++ ")"
    | none => ""
  "town_names" ++ name ++ "\x7b\n" ++ String.join (t.entries.map entryText) ++ "\x7d\n"

private def entryOutline (i : Nat) : TownEntry → List String
  | .styles key value _ =>
    outlineLine i "Town names param" :: outlineLine (i + 2) "Key:" :: key.outline (i + 4)
      ++ outlineLine (i + 2) "Value:" :: value.outline (i + 4)
  | .part pieces _ =>
    let total := Number.intTotal (pieces.map fun p => p.probability.constant?.getD 0)
    outlineLine i ("Town names part (total " ++ toString total ++ ")")
      :: pieces.map (·.outline (i + 2) total)

def outline (i : Nat) (t : TownNames) : List String :=
  outlineLine i "Town name"
    :: (t.name.toList.flatMap fun n => outlineLine (i + 2) "Name:" :: n.outline (i + 4))
    ++ t.entries.flatMap (entryOutline (i + 2))

end TownNames

private def plainText : Expr → String
  | .ident n _ => n
  | .literal s _ => s
  | e => e.text

private def labelOf (e : Expr) : String := labelText (plainText e)

namespace TrackEntry

def print : TrackEntry → String
  | label e => labelOf e
  | choice name labels => name.text ++ ": [" ++ commas (labels.map labelOf) ++ "]"

def outline (i : Nat) (kind : TrackKind) : TrackEntry → List String
  | label e => [outlineLine i (kind.title ++ ": " ++ plainText e)]
  | choice name labels =>
    outlineLine i (kind.title ++ ": " ++ name.text)
      :: labels.map fun l => outlineLine (i + 2) ("Try: " ++ plainText l)

end TrackEntry

namespace Setting

def print (s : Setting) : String :=
  let value (n : Ident) (v : SettingValue) : String :=
    match n.text, v.entries? with
    | "names", some entries =>
      row 3 "names: \x7b" ++ rows 4 (entries.map SettingValue.nameText) ++ row 3 "\x7d;"
    | name, _ => row 3 (name ++ ": " ++ v.print ++ ";")
  row 2 (s.name.text ++ " \x7b") ++ String.join (s.values.map fun (n, v) => value n v)
    ++ row 2 "\x7d"

def outline (i : Nat) (s : Setting) : List String :=
  s.name.outline i ++ s.values.flatMap fun (n, v) =>
    n.outline (i + 2) ++ match n.text, v.entries? with
      | "names", some entries =>
        entries.flatMap fun e => e.1.outline (i + 4) ++ e.2.outline (i + 4)
      | _, _ => v.outline (i + 4)

end Setting

namespace ParamDescription

def print (p : ParamDescription) : String :=
  let number := match p.num with
    | some n => " " ++ n.text
    | none => ""
  row 1 ("param" ++ number ++ " \x7b") ++ String.join (p.settings.map Setting.print) ++ row 1 "\x7d"

def outline (i : Nat) (p : ParamDescription) : List String :=
  p.num.toList.flatMap (·.outline i) ++ p.settings.flatMap (·.outline (i + 2))

end ParamDescription

namespace GrfInfo

def print (g : GrfInfo) : String :=
  let part (e : Option Expr) : String := match e with
    | some e => e.text
    | none => "None"
  braced "grf" (
    rows 1 ["grfid: " ++ part g.grfid ++ ";", "name: " ++ part g.name ++ ";",
      "desc: " ++ part g.desc ++ ";"]
      ++ rows 1 (g.url.toList.map fun u => "url: " ++ u.text ++ ";")
      ++ rows 1 ["version: " ++ part g.version ++ ";",
        "min_compatible_version: " ++ part g.minVersion ++ ";"]
      ++ String.join (g.params.map ParamDescription.print))

def outline (i : Nat) (g : GrfInfo) : List String :=
  let part (title : String) (e : Option Expr) : List String :=
    e.toList.flatMap fun e => outlineLine (i + 2) title :: e.outline (i + 4)
  outlineLine i "GRF" :: part "grfid:" g.grfid ++ part "Name:" g.name
    ++ part "Description:" g.desc ++ part "URL:" g.url ++ part "Version:" g.version
    ++ part "Minimal compatible version:" g.minVersion
    ++ (if g.params.isEmpty then []
        else outlineLine (i + 2) "Params:" :: g.params.flatMap (·.outline (i + 4)))

end GrfInfo

namespace Property

def nameText (p : Property) : String :=
  match p.name with
  | .ident n => n.text
  | .number v _ => toString v

def print (p : Property) : String :=
  let unit := match p.unit with
    | some u => " " ++ u.name
    | none => ""
  p.nameText ++ ": " ++ p.value.text ++ unit ++ ";"

def outline (i : Nat) (p : Property) : List String :=
  outlineLine i ("Property: " ++ p.nameText) :: p.value.outline (i + 2)

end Property

namespace Graphics

def print (g : Graphics) (head : String) : String :=
  braced head (rows 1 (g.defs.map (fun d => d.cargo.text ++ ": " ++ d.result.print)
    ++ g.default.toList.map Choice.print))

def outlineDefs (i : Nat) (g : Graphics) : List String :=
  g.defs.flatMap fun d =>
    outlineLine i "Cargo ID:" :: d.cargo.outline (i + 2)
      ++ outlineLine i "Result:" :: d.result.outline (i + 2)

def outline (i : Nat) (g : Graphics) : List String :=
  outlineLine i "Graphics block:" :: g.outlineDefs (i + 2)
    ++ g.default.toList.flatMap fun d =>
      outlineLine (i + 2) "Default graphics:" :: d.outline (i + 4)

end Graphics

namespace ErrorMessage

def print (e : ErrorMessage) : String :=
  let severity := match e.severity with
    | .num v _ => (["NOTICE", "WARNING", "ERROR", "FATAL"][v.toNat]?.filter fun _ => 0 ≤ v).getD
      e.severity.text
    | s => s.text
  "error("
    ++ commas (severity :: e.message.text :: (e.data.toList ++ e.params.take 2).map Expr.text)
    ++ ");\n"

def outline (i : Nat) (e : ErrorMessage) : List String :=
  let param (n : Nat) : List String := e.params[n]?.toList.flatMap fun p =>
    outlineLine (i + 2) ("Param" ++ toString (n + 1) ++ ": ") :: p.outline (i + 4)
  outlineLine i "Error message" :: outlineLine (i + 2) "Message:" :: e.message.outline (i + 4)
    ++ outlineLine (i + 2) "Severity:" :: e.severity.outline (i + 4)
    ++ outlineLine i "Data: " :: e.data.toList.flatMap (·.outline (i + 4)) ++ param 0 ++ param 1

end ErrorMessage

namespace Snowline

def print (s : Snowline) : String :=
  let entry (e : SnowEntry) : String :=
    e.day.text ++ ": " ++ e.height.text ++ (match e.unit with
      | some u => " " ++ u.name
      | none => "") ++ ";"
  "snowline (" ++ s.kind ++ ") \x7b\n\t" ++ "\n\t".intercalate (s.entries.map entry) ++ "\n\x7d\n"

def outline (i : Nat) (s : Snowline) : List String :=
  outlineLine i ("Snowline (type=" ++ s.kind ++ ")") :: s.entries.flatMap fun e =>
    Assignment.outlinePair (i + 2) e.day e.height ++ [outlineLine (i + 4) "Unit:",
      outlineLine (i + 6) (match e.unit with
        | some u => u.name
        | none => "None")]

end Snowline

namespace ItemHead

def print (h : ItemHead) : String :=
  let size : Int × Option Position → String
    | (0, _) => "HOUSE_SIZE_1X1"
    | (2, _) => "HOUSE_SIZE_2X1"
    | (3, _) => "HOUSE_SIZE_1X2"
    | _ => "HOUSE_SIZE_2X2"
  "item(" ++ commas (toString h.feature :: h.name.toList.map Expr.text
    ++ [(h.id.map Expr.text).getD "-1"] ++ h.size.toList.map size) ++ ")"

end ItemHead

private def indented (s : String) : String :=
  "\t" ++ String.ofList ((s.replace "\n" "\n\t").toList.dropLast)

private def featureHex (feature : Int) : String := "0x" ++ (hexText 1 feature).toLower

namespace Stmt

mutual

def print : Stmt → String
  | switchBlock s => s.print
  | randomSwitch s => s.print
  | produceOld p => p.print
  | produce p => p.print
  | spriteset s => s.print
  | spritegroup s => s.print
  | spritelayout s => s.print
  | template t => t.print
  | tilelayout t => t.print
  | townNames t => t.print
  | cargotable labels _ => "cargotable \x7b\n" ++ commas (labels.map labelOf) ++ "\n\x7d\n"
  | trackTable kind entries _ =>
    kind.text ++ "typetable \x7b\n    " ++ commas (entries.map TrackEntry.print) ++ "\n\x7d\n"
  | grf g => g.print
  | assign target value _ => target.text ++ " = " ++ value.text ++ ";\n"
  | skipAll _ => "exit;\n"
  | conditional branches => " else ".intercalate (printBranches branches) ++ "\n"
  | loop guard body _ => "while(" ++ guard.text ++ ") \x7b\n" ++ printAll body ++ "\x7d\n"
  | item head body => head.print ++ " \x7b\n" ++ printAll body ++ "\x7d\n"
  | properties props _ => braced "property" (rows 1 (props.map Property.print))
  | graphics g => g.print "graphics"
  | liveryOverride wagon g => g.print ("livery_override(" ++ wagon.text ++ ")")
  | errorMessage e => e.print
  | disableItem feature first last _ =>
    "disable_item(" ++ commas (toString feature :: (first.toList ++ last.toList).map Expr.text)
      ++ ");\n"
  | deactivate ids _ => "deactivate(" ++ commas (ids.map Expr.text) ++ ");\n"
  | replace start b => b.print "replace" (start.text :: b.file.toList.map fileText)
  | replaceNew type offset b =>
    b.print "replacenew" (type.text :: match b.file with
      | some f => fileText f :: (if offset == 0 then [] else [toString offset])
      | none => [])
  | baseGraphics number b =>
    b.print "base_graphics"
      (number.toList.map (fun n => toString n.1) ++ b.file.toList.map fileText)
  | fontGlyph size char b =>
    b.print "font_glyph" (size.text :: char.text :: b.file.toList.map fileText)
  | altSprites name zoom depth mask b =>
    braced ("alternative_sprites("
        ++ spriteKind name zoom depth (b.file.toList ++ mask.toList) ++ ")")
      (spriteRows b.sprites)
  | snowline s => s.print
  | engineOverride args _ => "engine_override(" ++ commas (args.map Expr.text) ++ ");\n"
  | sortVehicles feature ids _ => "sort(" ++ commas [toString feature, ids.text] ++ ");\n"
  | basecost costs _ =>
    braced "basecost" (rows 1 (costs.map fun (n, v) => n.text ++ ": " ++ v.text ++ ";"))
  | constant name value => "const " ++ name.text ++ " = " ++ value.text ++ ";"
  | block _ | wagonGraphics .. | described _ | towns _ | done => ""

def printAll : List Stmt → String
  | [] => ""
  | s :: ss => indented s.print ++ printAll ss

def printBranches : List (Branch Stmt) → List String
  | [] => []
  | ⟨guard, body, _⟩ :: bs =>
    let head := match guard with
      | some g => "if (" ++ g.text ++ ")"
      | none => ""
    (head ++ " \x7b\n" ++ printAll body ++ "\x7d\n") :: printBranches bs

end

mutual

def outline (i : Nat) : Stmt → List String
  | switchBlock s => s.outline i
  | randomSwitch s => s.outline i
  | produceOld p => p.outline i
  | produce p => p.outline i
  | spriteset s => s.outline i
  | spritegroup s => s.outline i
  | spritelayout s => s.outline i
  | template t => t.outline i
  | tilelayout _ => [outlineLine i "TileLayout"]
  | townNames t => t.outline i
  | cargotable labels _ =>
    outlineLine i "Cargo table" :: labels.map fun l => outlineLine i ("Cargo: " ++ plainText l)
  | trackTable kind entries _ =>
    outlineLine i (kind.title ++ "type table") :: entries.flatMap (·.outline (i + 2) kind)
  | grf g => g.outline i
  | assign target value _ =>
    outlineLine i "Parameter assignment" :: target.outline (i + 2) ++ value.outline (i + 2)
  | skipAll _ => [outlineLine i "Skip all"]
  | conditional branches => outlineLine i "Conditional" :: outlineBranches (i + 2) branches
  | loop guard body _ =>
    outlineLine i "While loop" :: outlineLine (i + 2) "Expression:" :: guard.outline (i + 4)
      ++ outlineLine (i + 2) "Block:" :: outlineAll (i + 4) body
  | item head body =>
    outlineLine i ("Item, feature " ++ featureHex head.feature) :: outlineAll (i + 2) body
  | properties props _ => outlineLine i "Property block:" :: props.flatMap (·.outline (i + 2))
  | graphics g => g.outline i
  | liveryOverride wagon g =>
    outlineLine i "Livery override, wagon id:" :: wagon.outline (i + 2) ++ g.outlineDefs (i + 2)
      ++ [outlineLine (i + 2) ("Default graphics: " ++ (match g.default with
        | some d => d.print
        | none => "None"))]
  | errorMessage e => e.outline i
  | disableItem feature first last _ =>
    outlineLine i ("Disable items, feature=" ++ toString feature)
      :: (first.toList.flatMap fun e => outlineLine (i + 2) "First ID:" :: e.outline (i + 4))
      ++ last.toList.flatMap fun e => outlineLine (i + 2) "Last ID:" :: e.outline (i + 4)
  | deactivate ids _ => outlineLine i "Deactivate other newgrfs:" :: outlines (i + 2) ids
  | replace start b =>
    outlineLine i "Replace sprites starting at" :: start.outline (i + 2)
      ++ outlineLine (i + 2) ("Source: " ++ fileOutline b.file) :: b.nameOutline i
      ++ spriteOutline i b.sprites
  | replaceNew type offset b =>
    outlineLine i ("Replace sprites for new features of type " ++ type.text)
      :: outlineLine (i + 2) ("Offset:   " ++ toString offset)
      :: outlineLine (i + 2) ("Source:   " ++ fileOutline b.file) :: b.nameOutline i
      ++ spriteOutline i b.sprites
  | baseGraphics number b =>
    outlineLine i "base_graphics-block" :: outlineLine (i + 2) ("Source: " ++ fileOutline b.file)
      :: b.nameOutline i
      ++ (number.toList.map fun n => outlineLine (i + 2) ("Sprite number: " ++ toString n.1))
      ++ spriteOutline i b.sprites
  | fontGlyph size char b =>
    outlineLine i ("Load font glyphs, starting at " ++ char.text)
      :: outlineLine (i + 2) ("Font size:   " ++ size.text)
      :: outlineLine (i + 2) ("Source:   " ++ fileOutline b.file) :: spriteOutline i b.sprites
  | altSprites name zoom depth mask b =>
    outlineLine i "Alternative sprites"
      :: outlineLine (i + 2) ("Replacement for sprite: " ++ name.text)
      :: outlineLine (i + 2) ("Zoom level: " ++ toString zoom)
      :: outlineLine (i + 2) ("Bit depth: " ++ (if depth == 32 then "32.0" else toString depth))
      :: outlineLine (i + 2) ("Source: " ++ fileOutline b.file)
      :: outlineLine (i + 2) ("Mask source: " ++ fileOutline mask) :: spriteOutline i b.sprites
  | snowline s => s.outline i
  | engineOverride _ _ => []
  | sortVehicles feature ids _ =>
    outlineLine i ("Sort, feature " ++ featureHex feature) :: match ids with
      | .array vs _ => vs.map fun v => outlineLine (i + 2) ("Vehicle id: " ++ v.text)
      | _ => []
  | basecost costs _ =>
    outlineLine i "Base costs" :: costs.flatMap fun (n, v) => Assignment.outlinePair (i + 2) n v
  | constant name value =>
    outlineLine i "Constant" :: outlineLine (i + 2) "Name:" :: name.outline (i + 4)
      ++ outlineLine (i + 2) "Value:" :: value.outline (i + 4)
  | block _ | wagonGraphics .. | described _ | towns _ | done => []

def outlineAll (i : Nat) : List Stmt → List String
  | [] => []
  | s :: ss => s.outline i ++ outlineAll i ss

def outlineBranches (i : Nat) : List (Branch Stmt) → List String
  | [] => []
  | ⟨guard, body, _⟩ :: bs =>
    (guard.toList.flatMap fun g => outlineLine i "Expression:" :: g.outline (i + 2))
      ++ outlineLine i "Block:" :: outlineAll (i + 2) body ++ outlineBranches i bs

end

end Stmt

def scriptText (script : List Stmt) : String :=
  String.join (script.map fun s => s.print ++ "\n")

def scriptOutline (script : List Stmt) : List String := Stmt.outlineAll 0 script

end NewGrf
