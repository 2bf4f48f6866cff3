import NewGrf.Language.Wording

namespace NewGrf

namespace PlayerSetting

def demandString (e : Expr) (what : String) : Build Expr :=
  match e with
  | .string .. => pure e
  | e => Build.fail (what ++ " must be a string") e.pos

def valueName : Expr × Expr → Build (Int × Expr)
  | (value, name) => do
    let (v, _) ← value.reduceConstant
    pure (v, ← demandString name "setting name description")

def setTo (d : PlayerSetting) (property : String) (e : Expr) : Build PlayerSetting := do
  let only (allowed : Bool) (kind : String) : Build Unit :=
    unless allowed do
      Build.fail ("setting-" ++ property ++ " is only valid for '" ++ kind ++ "' settings") e.pos
  match property with
  | "type" =>
    match e with
    | .ident "int" _ => pure { d with isSwitch := false }
    | .ident "bool" _ => pure { d with isSwitch := true }
    | e => Build.fail "setting-type must be either 'int' or 'bool'" e.pos
  | "name" => pure { d with name := ← demandString e "setting-name" }
  | "desc" => pure { d with desc := ← demandString e "setting-description" }
  | "bit" =>
    only d.isSwitch "bool"
    pure { d with bit := (← e.reduceConstant).1 }
  | "min_value" =>
    only (!d.isSwitch) "int"
    pure { d with low := (← e.reduceConstant).1 }
  | "max_value" =>
    only (!d.isSwitch) "int"
    pure { d with high := (← e.reduceConstant).1 }
  | "def_value" =>
    let (v, _) ← e.reduceConstant
    if d.isSwitch && v != 0 && v != 1 then
      Build.fail "setting-def_value must be either 0 or 1 for 'bool' settings" e.pos
    pure { d with default := v }
  | other => Build.fail ("Unknown setting-property " ++ other) e.pos

def set (d : PlayerSetting) (property : String) (value : SettingValue) : Build PlayerSetting := do
  let pos := match value with
    | .expr e => e.pos
    | .names _ p => p
  if d.seen.contains property then
    Build.fail "You cannot set the same property twice in a parameter description block" pos
  let d := { d with seen := property :: d.seen }
  if property == "names" then
    match value with
    | .names entries _ => return { d with valueNames := ← entries.mapM valueName }
    | .expr _ => return d
  match value with
  | .expr e => do setTo d property (← e.reduceLeniently)
  | .names _ p => setTo d property (.array [] p)

end PlayerSetting

namespace PlayerParam

abbrev FreeBits := List (Int × List Int)

def place (param : Int) (alone : Bool) (free : FreeBits) (name : Ident) (d : PlayerSetting) :
    Build (FreeBits × PlayerSetting) := do
  let bits := (free.lookup param).getD []
  let use (bits : List Int) : FreeBits := (param, bits) :: free.filter (·.1 != param)
  if !d.isSwitch then
    if !alone || bits.length != 32 then
      Build.fail "When packing multiple settings in one parameter only bool settings are allowed"
        name.pos
    Build.modifyNames fun n => { n with settings := n.settings.set name.text param }
    pure (use [], d)
  else
    let bit ← match d.bit, bits with
      | none, b :: _ => pure b
      | none, [] => Build.fail "No bits available for this parameter" name.pos
      | some b, bits => do
        unless bits.contains b do
          Build.fail ("Bit " ++ toString b ++ " is already used") name.pos
        pure b
    Build.modifyNames fun n => { n with settingBits := n.settingBits.set name.text (param, bit) }
    pure (use (bits.erase bit), { d with bit := some bit })

/-- Reads the description of a parameter. It has the number that follows the last one, unless it is
given another. -/
def read (next : Int) (free : FreeBits) (p : ParamDescription) :
    Build (FreeBits × PlayerParam) := do
  let (number, _) ← (p.num.getD (.int next)).reduceConstant
  let free := if (free.lookup number).isSome then free
    else (number, (List.range 32).map fun (i : Nat) => (i : Int)) :: free
  let drafts ← p.settings.mapM fun s =>
    s.values.foldlM (fun (d : PlayerSetting) (name, value) => d.set name.text value) {}
  let alone := p.settings.length ≤ 1
  let (free, placed) ← (p.settings.zip drafts).foldlM (fun (free, done) (s, d) => do
    let (free, d) ← place number alone free s.name d
    pure (free, done ++ [d])) ((free, []) : FreeBits × List PlayerSetting)
  pure (free, { number, settings := placed })

end PlayerParam

namespace FileDescription

def demand (e : Expr) (what : String) : Build Expr := do
  let e ← e.reduce
  match e with
  | .string .. => do
    Language.demandText e
    pure e
  | e => Build.fail (what ++ " must be a string") e.pos

def readParams (pos : Position) (params : List ParamDescription) :
    Build (List PlayerParam) := do
  let (_, _, done) ← params.foldlM (fun (next, free, done) p => do
    let (free, p) ← PlayerParam.read next free p
    let next := p.number + 1
    if next > PlayerParam.limit then
      Build.fail ("No free parameters available. Consider assigning <num> manually and combine"
        ++ " multiple bool parameters into a single bitmask parameter using <bit>.") pos
    modify fun s => { s with playerParams := max s.playerParams next }
    pure (next, free, done ++ [p]))
    ((0, [], []) : Int × PlayerParam.FreeBits × List PlayerParam)
  pure done

def read (g : GrfInfo) : Build FileDescription := do
  match g.name, g.desc, g.grfid, g.version, g.minVersion with
  | some name, some desc, some grfid, some version, some minVersion =>
    let grfid ← grfid.reduce
    let number ← Build.ofExcept grfid.label
    Build.modifyNames fun n => { n with constants := n.constants.set "GRFID" number }
    let label := match grfid with
      | .literal t _ => t
      | _ => ""
    let name ← demand name "GRF-name"
    let desc ← demand desc "GRF-description"
    let url ← g.url.mapM fun e => demand e "URL"
    let (version, _) ← version.reduceConstant
    let (minVersion, _) ← minVersion.reduceConstant
    let params ← readParams g.pos g.params
    pure { grfid := label, name, desc, url, version, minVersion, params }
  | _, _, _, _, _ =>
    Build.fail ("A GRF-block requires the 'name', 'desc', 'grfid', 'version' and"
      ++ " 'min_compatible_version' properties to be set.") g.pos

end FileDescription

end NewGrf
