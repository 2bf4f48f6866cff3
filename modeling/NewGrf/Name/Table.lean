import Std.Data.HashMap
import NewGrf.Name.Constant
import NewGrf.Name.Special
import NewGrf.Session

namespace NewGrf

abbrev NameTable := String → Option Position → Build (Option Expr)

abbrev Scope := List NameTable

namespace NameTable

def ofNumbers (numbers : List (String × Int)) : NameTable := fun name pos =>
  pure ((numbers.lookup name).map fun v => .int v pos)

def ofSpecials (table : List (String × SpecialParam)) : NameTable := fun name pos =>
  pure ((table.lookup name).map fun kind => .special name kind pos)

def ofNames (numbers : Names → List (String × Int)) : NameTable := fun name pos => do
  ofNumbers (numbers (← get).names) name pos

def constantMap : Std.HashMap String Int := .ofList Constant.numbers

def constantValue? (names : Names) (name : String) : Option Int :=
  constantMap.get? name <|> names.constants.get? name

def isConstant (names : Names) (name : String) : Bool :=
  (constantValue? names name).isSome || (Constant.aliases.lookup name).isSome

def constants : NameTable := fun name pos => do
  let names := (← get).names
  match constantValue? names name with
  | some v => pure (some (.int v pos))
  | none =>
    match Constant.aliases.lookup name with
    | none => pure none
    | some new =>
      Build.warn ("'" ++ name ++ "' is deprecated, consider using '" ++ new ++ "' instead") pos
        .deprecation
      pure (some (.int ((constantValue? names new).getD 0) pos))

def params : NameTable := fun name pos => do
  pure (((← get).names.params.get? name).map fun n => .param (.int n) pos)

def items : NameTable := fun name pos => do
  match (← get).names.items.get? name with
  | none => pure none
  | some item =>
    match item.id with
    | .num v _ => pure (some (.int v pos))
    | _ =>
      Build.fail ("Referencing item '" ++ name ++ "' with a non-constant id is not possible.") pos

def settings : NameTable := fun name pos => do
  pure (((← get).names.settings.get? name).map fun n =>
    .special name (.parameter n 4 false false) pos)

def settingBits : NameTable := fun name pos => do
  pure (((← get).names.settingBits.get? name).map fun (param, bit) =>
    .special name (.bit param bit) pos)

/-- Blocks; `CB_FAILED` stands for the block that makes a callback fail. -/
def groups : NameTable := fun name pos => do
  if name == "CB_FAILED" || (← get).blockIds.contains name then
    pure (some (.groupRef ⟨name, none⟩ [] false none pos))
  else pure none

def zoomLevels : List (String × Int) := [
  ("ZOOM_LEVEL_NORMAL", 0), ("ZOOM_LEVEL_IN_4X", 1), ("ZOOM_LEVEL_IN_2X", 2),
  ("ZOOM_LEVEL_OUT_2X", 3), ("ZOOM_LEVEL_OUT_4X", 4), ("ZOOM_LEVEL_OUT_8X", 5)]

def bitDepths : List (String × Int) := [("BIT_DEPTH_8BPP", 8), ("BIT_DEPTH_32BPP", 32)]

end NameTable

namespace Scope

open NameTable

def general : Scope := [
  constants,
  ofSpecials SpecialParam.gameParams,
  settingBits,
  ofSpecials SpecialParam.bits,
  ofSpecials SpecialParam.patchVariables,
  params,
  ofNames (·.cargos),
  ofNames (·.rails),
  ofNames (·.roads),
  ofNames (·.trams),
  items,
  settings,
  ofSpecials SpecialParam.configFlags,
  ofSpecials SpecialParam.maglevs,
  groups,
  ofNumbers zoomLevels,
  ofNumbers bitDepths]

def find? : Scope → String → Option Position → Build (Option Expr)
  | [], _, _ => pure none
  | table :: rest, name, pos => do
    match ← table name pos with
    | some e => pure (some e)
    | none => find? rest name pos

end Scope

end NewGrf
