import NewGrf.Expr.Reduce

namespace NewGrf.Feature

def table : List (String × Int) := [
  ("FEAT_TRAINS", 0x00), ("FEAT_ROADVEHS", 0x01), ("FEAT_SHIPS", 0x02), ("FEAT_AIRCRAFT", 0x03),
  ("FEAT_STATIONS", 0x04), ("FEAT_CANALS", 0x05), ("FEAT_BRIDGES", 0x06), ("FEAT_HOUSES", 0x07),
  ("FEAT_GLOBALVARS", 0x08), ("FEAT_INDUSTRYTILES", 0x09), ("FEAT_INDUSTRIES", 0x0A),
  ("FEAT_CARGOS", 0x0B), ("FEAT_SOUNDEFFECTS", 0x0C), ("FEAT_AIRPORTS", 0x0D),
  ("FEAT_SIGNALS", 0x0E), ("FEAT_OBJECTS", 0x0F), ("FEAT_RAILTYPES", 0x10),
  ("FEAT_AIRPORTTILES", 0x11), ("FEAT_ROADTYPES", 0x12), ("FEAT_TRAMTYPES", 0x13),
  ("FEAT_ROADSTOPS", 0x14)]

def name (feature : Int) : String :=
  ((table.find? (·.2 == feature)).map (·.1)).getD ""

def ofExpr (e : Expr) : Build Int := do
  let (v, pos) ← e.reduceConstant [NameTable.ofNumbers table]
  if table.any (·.2 == v) then pure v
  else Build.fail ("Invalid feature '" ++ hexText 2 v ++ "' encountered.") pos

end NewGrf.Feature
