import NewGrf.Expr.Basic

namespace NewGrf.SpecialParam

def gameParams : List (String × SpecialParam) := [
  ("climate", .parameter 0x83 1 false false),
  ("loading_stage", .parameter 0x84 4 false false),
  ("ttdpatch_version", .parameter 0x8B 4 false false),
  ("current_palette", .parameter 0x8D 1 false false),
  ("traininfo_y_offset", .parameter 0x8E 1 true true),
  ("game_mode", .parameter 0x92 1 false false),
  ("ttd_platform", .parameter 0x9D 4 false false),
  ("openttd_version", .parameter 0xA1 4 false false),
  ("difficulty_level", .parameter 0xA2 4 false false),
  ("date_loaded", .parameter 0xA3 4 false false),
  ("year_loaded", .parameter 0xA4 4 false false)]

def bits : List (String × SpecialParam) := [
  ("traffic_side", .bit 0x86 4),
  ("desert_paved_roads", .bit 0x9E 1),
  ("train_width_32_px", .bit 0x9E 3),
  ("second_rocky_tileset", .bit 0x9E 6)]

def patchVariables : List (String × SpecialParam) := [
  ("starting_year", .patch 0x0B 0 32 (.add 1920)),
  ("freight_trains", .patch 0x0E 0 32 .asIs),
  ("plane_speed", .patch 0x10 0 32 .asIs),
  ("base_sprite_2cc", .patch 0x11 0 32 .asIs),
  ("map_type", .patch 0x13 24 2 .asIs),
  ("map_min_edge", .patch 0x13 20 4 (.powerOfTwo 6)),
  ("map_max_edge", .patch 0x13 16 4 (.powerOfTwo 6)),
  ("map_x_edge", .patch 0x13 12 4 (.powerOfTwo 6)),
  ("map_y_edge", .patch 0x13 8 4 (.powerOfTwo 6)),
  ("map_size", .patch 0x13 0 8 (.powerOfTwo 12)),
  ("max_height_level", .patch 0x14 0 32 .asIs),
  ("base_sprite_foundations", .patch 0x15 0 32 .asIs),
  ("base_sprite_shores", .patch 0x16 0 32 .asIs),
  ("map_seed", .patch 0x17 0 32 .asIs)]

def configFlags : List (String × SpecialParam) := [
  ("long_bridges", .configFlag 0x0F),
  ("gradual_loading", .configFlag 0x2C),
  ("bridge_speed_limits", .configFlag 0x34),
  ("newtrains", .configFlag 0x37),
  ("newrvs", .configFlag 0x38),
  ("newships", .configFlag 0x39),
  ("newplanes", .configFlag 0x3A),
  ("signals_on_traffic_side", .configFlag 0x3B),
  ("electrified_railways", .configFlag 0x3C),
  ("newhouses", .configFlag 0x59),
  ("wagon_speed_limits", .configFlag 0x5D),
  ("newindustries", .configFlag 0x67),
  ("temperate_snowline", .configFlag 0x6A),
  ("newcargos", .configFlag 0x6B),
  ("dynamic_engines", .configFlag 0x78),
  ("variable_runningcosts", .configFlag 0x7E),
  ("256_persistent_registers", .configFlag 0x80),
  ("inflation", .configFlag 0x81)]

def maglevs : List (String × SpecialParam) := [("unified_maglev", .maglev)]

/-- Makes the highest of the bits of a value its sign: `(x ^ m) - m` with only that bit in `m`. -/
def signExtend (e : Expr) (bits : Nat) : Expr :=
  let m := (Number.twoPow (bits - 1) : Int)
  .op .sub (.op .xor e (.int m)) (.int m)

private def paramAt (num : Int) (pos : Option Position) (numPos : Option Position := none) : Expr :=
  .param (.int num numPos) pos

def reading (kind : SpecialParam) (pos : Option Position) : Expr :=
  match kind with
  | .parameter num size _ signed =>
    let e := paramAt num pos
    let e := if size == 1 then .op .and e (.int 0xFF) else e
    if signed then signExtend e (size * 8) else e
  | .bit num place => .opInt .hasBit (paramAt num pos pos) place
  | .patch num start size adjust =>
    let e : Expr := .patchVar num pos
    let count : Expr := .int start (pos.map Position.loose)
    let e := if start == 0 then e else .op .shiftRight e count pos
    let e := if size == 32 then e else .opInt .and e ((Number.twoPow size : Int) - 1) pos
    match adjust with
    | .asIs => e
    | .add n => .opInt .add e n
    | .powerOfTwo offset => .op .shiftLeft (.int 1) (.opInt .add e offset)
  | .configFlag flag =>
    .check
      { code := 0x01, mnemonic := some "\\70", var := 0x85, onTrue := 1, onFalse := 0, value := flag
        text := "PatchFlag(" ++ toString flag ++ ")", size := 1 } pos
  | .maglev =>
    let low : Expr := .opInt .hasBit (paramAt 0x85 pos) 0x32
    let high : Expr := .opInt .hasBit (paramAt 0x85 pos) 0x33
    .op .or (.opInt .shiftLeft high 1) low

def writing (kind : SpecialParam) (value : Expr) (pos : Option Position) :
    Except Fault (Expr × Expr) :=
  match kind with
  | .parameter num _ true _ => .ok (paramAt num pos, value)
  | .bit num place =>
    let target := paramAt num pos pos
    let set : Expr := .opInt .or target (Number.twoPow place.toNat) pos
    let unset : Expr := .opInt .and target (-(Number.twoPow place.toNat : Int) - 1) pos
    .ok (target, .ternary (.opInt .ne value 0 pos) set unset pos)
  | _ => .error { cause := .script "Target parameter is not writable.", pos }

end NewGrf.SpecialParam
