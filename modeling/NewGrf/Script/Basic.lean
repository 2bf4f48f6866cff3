import NewGrf.Expr.Basic

namespace NewGrf

structure Measure where
  name : String
  kind : String
  factor : Nat × Nat
  showMul : Nat
  showShift : Nat
  deriving Repr, DecidableEq, Inhabited

namespace Measure

def all : List Measure := [
  ⟨"nfo", "nfo", (1, 1), 1, 0⟩,
  ⟨"mph", "speed", (3125, 1397), 1, 0⟩,
  ⟨"km/h", "speed", (18, 5), 103, 6⟩,
  ⟨"m/s", "speed", (1, 1), 1831, 12⟩,
  ⟨"hp", "power", (1, 1), 1, 0⟩,
  ⟨"kW", "power", (2211, 2965), 6109, 13⟩,
  ⟨"hpM", "power", (731, 721), 4153, 12⟩,
  ⟨"hpI", "power", (1, 1), 1, 0⟩,
  ⟨"ton", "weight", (1, 1), 1, 0⟩,
  ⟨"tons", "weight", (1, 1), 1, 0⟩,
  ⟨"kg", "weight", (1000, 1), 1000, 0⟩,
  ⟨"snow%", "snowline", (255, 100), 1, 0⟩]

def find? (name : String) : Option Measure := all.find? (·.name == name)

end Measure

/-- A setting of the player. A switch is one bit of a parameter, a number takes a whole one. -/
structure PlayerSetting where
  isSwitch : Bool := false
  name : Option Expr := none
  desc : Option Expr := none
  low : Option Int := none
  high : Option Int := none
  default : Option Int := none
  bit : Option Int := none
  valueNames : List (Int × Expr) := []
  seen : List String := []
  deriving Inhabited

structure PlayerParam where
  number : Int
  settings : List PlayerSetting
  deriving Inhabited

/-- Parameters from this number on are left to the compiler. -/
def PlayerParam.limit : Int := 0x40

structure FileDescription where
  grfid : String
  name : Expr
  desc : Expr
  url : Option Expr
  version : Int
  minVersion : Int
  params : List PlayerParam
  deriving Inhabited

structure Choice where
  /-- Nothing stands for the value that has just been computed. -/
  value : Option Expr
  isReturn : Bool
  pos : Option Position
  deriving Inhabited

structure SwitchRange where
  low : Expr
  high : Expr
  /-- Whether only one value was written. -/
  single : Bool
  result : Choice
  unit : Option String := none
  deriving Inhabited

structure SwitchBody where
  ranges : List SwitchRange
  default : Option Choice
  deriving Inhabited

inductive VarRange where
  | self | parent
  deriving Repr, DecidableEq, Inhabited

namespace VarRange

def code : VarRange → Nat
  | self => 0x89
  | parent => 0x8A

def text : VarRange → String
  | self => "SELF"
  | parent => "PARENT"

end VarRange

structure Switch where
  feature : Int
  varRange : VarRange
  name : Ident
  params : List Expr
  expr : Expr
  body : SwitchBody
  pos : Position
  deriving Inhabited

structure RandomChoice where
  probability : Expr
  result : Choice
  deriving Inhabited

structure RandomSwitch where
  feature : Int
  kind : Ident
  /-- How far to go along the vehicle chain, for the kinds that do. -/
  count : Option Expr
  name : Ident
  triggers : Expr
  choices : List RandomChoice
  dependent : List Choice
  independent : List Choice
  pos : Position
  deriving Inhabited

structure Assignment where
  name : Ident
  value : Expr
  deriving Inhabited

structure ProduceOld where
  name : Ident
  params : List Expr
  pos : Position
  deriving Inhabited

inductive SettingValue where
  | expr (e : Expr)
  | names (entries : List (Expr × Expr)) (pos : Option Position)
  deriving Inhabited

def SettingValue.expr? : SettingValue → Option Expr
  | expr e => some e
  | names .. => none

structure Produce where
  name : Ident
  subtract : List (Ident × SettingValue)
  add : List (Ident × SettingValue)
  again : Expr
  pos : Position
  deriving Inhabited

structure Recolour where
  low : Expr
  high : Option Expr
  toLow : Expr
  toHigh : Option Expr
  pos : Option Position
  deriving Inhabited

inductive SpriteEntry where
  | real (label : Option Ident) (params : List Expr) (pos : Position)
  | recolour (label : Option Ident) (mapping : List Recolour) (pos : Position)
  | template (label : Option Ident) (name : Ident) (args : List Expr) (pos : Position)
  deriving Inhabited

/-- A block of sprites, of any kind. Further sprites for it are kept in `container`. -/
structure SpriteBlock where
  container : Nat
  name : Option Ident
  file : Option (String × Option Position)
  sprites : List SpriteEntry
  pos : Position
  deriving Inhabited

abbrev FileName := String × Option Position

structure SpriteSet where
  name : Ident
  zoom : Nat
  depth : Nat
  file : Option FileName
  mask : Option FileName
  sprites : List SpriteEntry
  container : Nat
  pos : Position
  deriving Inhabited

structure SpriteView where
  name : Ident
  sets : List Expr
  pos : Position
  deriving Inhabited

structure SpriteGroup where
  name : Ident
  views : List SpriteView
  pos : Position
  deriving Inhabited

structure LayoutSprite where
  kind : Ident
  params : List Assignment
  pos : Position
  deriving Inhabited

structure SpriteLayout where
  name : Ident
  params : List Ident
  sprites : List LayoutSprite
  pos : Position
  deriving Inhabited

structure Template where
  name : Ident
  params : List Ident
  sprites : List SpriteEntry
  pos : Position
  deriving Inhabited

inductive TileEntry where
  | tile (x y type : Expr)
  | property (a : Assignment)
  deriving Inhabited

structure TileLayout where
  name : Ident
  entries : List TileEntry
  pos : Position
  deriving Inhabited

inductive TownPiece where
  | text (key : Ident) (text : String) (textPos : Option Position) (probability : Expr)
      (pos : Position)
  | block (ref : Expr) (probability : Expr) (pos : Position)
  deriving Inhabited

inductive TownEntry where
  | styles (key : Ident) (value : Expr) (pos : Position)
  | part (pieces : List TownPiece) (pos : Position)
  deriving Inhabited

structure TownNames where
  name : Option Expr
  entries : List TownEntry
  pos : Position
  deriving Inhabited

inductive TrackKind where
  | rail | road | tram
  deriving Repr, DecidableEq, Inhabited

namespace TrackKind

def text : TrackKind → String
  | rail => "rail" | road => "road" | tram => "tram"

def title : TrackKind → String
  | rail => "Rail" | road => "Road" | tram => "Tram"

end TrackKind

inductive TrackEntry where
  | label (e : Expr)
  | choice (name : Ident) (labels : List Expr)
  deriving Inhabited

structure Setting where
  name : Ident
  values : List (Ident × SettingValue)
  deriving Inhabited

structure ParamDescription where
  num : Option Expr
  settings : List Setting
  deriving Inhabited

structure GrfInfo where
  grfid : Option Expr := none
  name : Option Expr := none
  desc : Option Expr := none
  url : Option Expr := none
  version : Option Expr := none
  minVersion : Option Expr := none
  params : List ParamDescription := []
  pos : Position
  deriving Inhabited

inductive PropertyName where
  | ident (i : Ident)
  | number (value : Int) (pos : Option Position)
  deriving Inhabited

structure Property where
  name : PropertyName
  value : Expr
  unit : Option Measure
  pos : Position
  deriving Inhabited

structure GraphicsDef where
  cargo : Expr
  result : Choice
  deriving Inhabited

structure Graphics where
  defs : List GraphicsDef
  default : Option Choice
  pos : Position
  deriving Inhabited

structure ErrorMessage where
  severity : Expr
  message : Expr
  data : Option Expr
  params : List Expr
  pos : Position
  deriving Inhabited

structure SnowEntry where
  day : Expr
  height : Expr
  unit : Option Measure
  deriving Inhabited

structure Snowline where
  kind : String
  entries : List SnowEntry
  pos : Position
  deriving Inhabited

structure ItemHead where
  feature : Int
  name : Option Expr
  id : Option Expr
  size : Option (Int × Option Position)
  pos : Position
  deriving Inhabited

/-- A branch of a conditional; only the last may have no guard. -/
structure Branch (σ : Type) where
  guard : Option Expr
  body : List σ
  pos : Position

inductive Stmt where
  | switchBlock (s : Switch)
  | randomSwitch (s : RandomSwitch)
  | produceOld (p : ProduceOld)
  | produce (p : Produce)
  | spriteset (s : SpriteSet)
  | spritegroup (s : SpriteGroup)
  | spritelayout (s : SpriteLayout)
  | template (t : Template)
  | tilelayout (t : TileLayout)
  | townNames (t : TownNames)
  | towns (indices : List Nat)
  | cargotable (labels : List Expr) (pos : Position)
  | trackTable (kind : TrackKind) (entries : List TrackEntry) (pos : Position)
  | grf (g : GrfInfo)
  | described (d : FileDescription)
  | assign (target value : Expr) (pos : Option Position)
  | skipAll (pos : Position)
  | conditional (branches : List (Branch Stmt))
  | loop (guard : Expr) (body : List Stmt) (pos : Position)
  | item (head : ItemHead) (body : List Stmt)
  | properties (props : List Property) (pos : Position)
  | graphics (g : Graphics)
  | liveryOverride (wagon : Expr) (g : Graphics)
  | wagonGraphics (wagon : Expr) (id : Nat)
  | errorMessage (e : ErrorMessage)
  | disableItem (feature : Int) (first last : Option Expr) (pos : Position)
  | deactivate (ids : List Expr) (pos : Position)
  | replace (start : Expr) (b : SpriteBlock)
  | replaceNew (type : Ident) (offset : Int) (b : SpriteBlock)
  | baseGraphics (number : Option (Int × Option Position)) (b : SpriteBlock)
  | fontGlyph (size char : Expr) (b : SpriteBlock)
  | altSprites (name : Ident) (zoom depth : Nat) (mask : Option FileName) (b : SpriteBlock)
  | snowline (s : Snowline)
  | engineOverride (args : List Expr) (pos : Position)
  | sortVehicles (feature : Int) (ids : Expr) (pos : Position)
  | basecost (costs : List (Expr × Expr)) (pos : Position)
  | constant (name value : Expr)
  | block (id : Nat)
  | done

instance : Inhabited Stmt := ⟨.done⟩

end NewGrf
