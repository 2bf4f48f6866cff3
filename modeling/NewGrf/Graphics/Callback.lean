namespace NewGrf.Callback

inductive Purchase where
  | never | also | only
  /-- Also there, unless another callback is given for it. -/
  | unless (name : String)
  deriving Repr, DecidableEq, Inhabited

structure Info where
  number : Int
  flag : Option Nat := none
  /-- What is asked for, where one number stands for several questions. -/
  part : Int := 0
  purchase : Purchase := .never
  /-- Lengths of vehicles are written as what they lack of a whole tile. -/
  isLength : Bool := false
  tiles : Option Char := none
  deriving Repr, DecidableEq, Inhabited

inductive Meaning where
  | cargo (number : Option Int)
  | callback (info : Info)
  | override
  | layouts
  | prepareLayout (purchase : Bool)
  | foundations
  | customSets
  deriving Repr, DecidableEq, Inhabited

abbrev Table := List (String × List Meaning)

def asks (name : String) (number : Int) (flag : Option Nat := none) : String × List Meaning :=
  (name, [.callback { number, flag }])

def part (part : Int) : Info := { number := 0x36, part }

def onList (name : String) (info : Info) : String × List Meaning :=
  (name, [.callback { info with purchase := .only }])

def twice (name : String) (info : Info) : Table :=
  [(name, [.callback { info with purchase := .unless ("purchase_" ++ name) }]),
    onList ("purchase_" ++ name) info]

def capacity (name : String) (info : Info) : Table :=
  match twice name info with
  | (_, asked) :: more => (name, .callback { number := 0x15, flag := some 3 } :: asked) :: more
  | [] => []

def shown (names : List (String × Int)) : Table :=
  names.map fun (name, number) => (name, [.cargo (some number)])

def vehicle : Table :=
  [("default", [.cargo none]), ("purchase", [.cargo (some 0xFF)]), asks "random_trigger" 0x01,
    ("loading_speed", [.callback (part 0x07)]), asks "cargo_subtype_text" 0x19 (some 5),
    onList "additional_text" { number := 0x23 }]
  ++ twice "colour_mapping" { number := 0x2D, flag := some 6 }
  ++ [asks "start_stop" 0x31, asks "every_32_days" 0x32, asks "sound_effect" 0x33 (some 7),
    ("refit_cost", [.callback { number := 0x15E, purchase := .also }]),
    onList "name" { number := 0x161, flag := some 8 }, onList "refit" { number := 0x163 }]

def train : Table :=
  [asks "visual_effect_and_powered" 0x10 (some 0),
    asks "effect_spawn_model_and_powered" 0x10 (some 0),
    ("length", [.callback { part 0x21 with isLength := true }])]
  ++ capacity "cargo_capacity" (part 0x14)
  ++ [("articulated_part", [.callback { number := 0x16, flag := some 4, purchase := .also }]),
    asks "can_attach_wagon" 0x1D]
  ++ twice "speed" (part 0x09) ++ twice "power" (part 0x0B)
  ++ twice "running_cost_factor" (part 0x0D) ++ twice "weight" (part 0x16)
  ++ [onList "cost_factor" (part 0x17)]
  ++ twice "tractive_effort_coefficient" (part 0x1F)
  ++ [("bitmask_vehicle_info", [.callback (part 0x25)]),
    ("cargo_age_period", [.callback (part 0x2B)]), ("curve_speed_mod", [.callback (part 0x2E)]),
    asks "create_effect" 0x160,
    ("reverse_build_probability", [.callback { number := 0x162, part := 0x00 }])]

def roadVehicle : Table :=
  [asks "visual_effect" 0x10 (some 0), asks "effect_spawn_model" 0x10 (some 0),
    ("length", [.callback { part 0x23 with isLength := true }])]
  ++ capacity "cargo_capacity" (part 0x0F)
  ++ [("articulated_part", [.callback { number := 0x16, flag := some 4, purchase := .also }])]
  ++ twice "running_cost_factor" (part 0x09)
  ++ [onList "cost_factor" (part 0x11)]
  ++ twice "power" (part 0x13) ++ twice "weight" (part 0x14) ++ twice "speed" (part 0x15)
  ++ twice "tractive_effort_coefficient" (part 0x18)
  ++ [("cargo_age_period", [.callback (part 0x22)]), asks "create_effect" 0x160]

def ship : Table :=
  [asks "visual_effect" 0x10 (some 0), asks "effect_spawn_model" 0x10 (some 0)]
  ++ capacity "cargo_capacity" (part 0x0D) ++ [onList "cost_factor" (part 0x0A)]
  ++ twice "speed" (part 0x0B) ++ twice "running_cost_factor" (part 0x0F)
  ++ [("cargo_age_period", [.callback (part 0x1D)]), asks "create_effect" 0x160]

def aircraft : Table :=
  capacity "passenger_capacity" (part 0x0F) ++ [onList "cost_factor" (part 0x0B)]
  ++ twice "speed" (part 0x0C) ++ twice "running_cost_factor" (part 0x0E)
  ++ twice "mail_capacity" (part 0x11)
  ++ [("cargo_age_period", [.callback (part 0x1C)])]
  ++ twice "range" (part 0x1F)
  ++ [("rotor", [.override])]

def station : Table :=
  [onList "availability" { number := 0x13, flag := some 0 }]
  ++ twice "select_sprite_layout" { number := 0x14, flag := some 1 }
  ++ [onList "select_tile_type" { number := 0x24 }, asks "anim_control" 0x140,
    asks "anim_next_frame" 0x141 (some 2), asks "anim_speed" 0x142 (some 3),
    onList "tile_check" { number := 0x149, flag := some 4 }, ("sprite_layouts", [.layouts]),
    ("prepare_layout", [.prepareLayout false]), ("purchase_prepare_layout", [.prepareLayout true]),
    ("foundations", [.foundations]), ("custom_spritesets", [.customSets]),
    ("default", [.cargo none]), ("purchase", [.cargo (some 0xFF)])]

def canal : Table := [
  asks "sprite_offset" 0x147 (some 0), ("default", [.cargo none])]

def house : Table := [
  asks "random_trigger" 0x01,
  ("construction_check", [.callback { number := 0x17, flag := some 0, tiles := some 'n' }]),
  asks "anim_next_frame" 0x1A (some 1), asks "anim_control" 0x1B (some 2),
  asks "construction_anim" 0x1C (some 3), asks "colour" 0x1E (some 4),
  asks "cargo_amount_accept" 0x1F (some 5), asks "anim_speed" 0x20 (some 6),
  ("destruction", [.callback { number := 0x21, flag := some 7, tiles := some 'n' }]),
  asks "cargo_type_accept" 0x2A (some 8), asks "cargo_production" 0x2E (some 9),
  asks "protection" 0x143 (some 10), asks "watched_cargo_accepted" 0x148, asks "name" 0x14D,
  asks "foundations" 0x14E (some 11), asks "autoslope" 0x14F (some 12),
  ("graphics_north", [.callback { number := 0x00, tiles := some 'n' }]),
  ("graphics_east", [.callback { number := 0x00, tiles := some 'e' }]),
  ("graphics_south", [.callback { number := 0x00, tiles := some 's' }]),
  ("graphics_west", [.callback { number := 0x00, tiles := some 'w' }]), ("default", [.cargo none])]

def industryTile : Table := [
  asks "random_trigger" 0x01, asks "anim_control" 0x25, asks "anim_next_frame" 0x26 (some 0),
  asks "anim_speed" 0x27 (some 1), asks "cargo_amount_accept" 0x2B (some 2),
  asks "cargo_type_accept" 0x2C (some 3), asks "tile_check" 0x2F (some 4),
  asks "foundations" 0x30 (some 5), asks "autoslope" 0x3C (some 6), ("default", [.cargo none])]

def industry : Table := [
  asks "construction_probability" 0x22 (some 0),
  ("produce_cargo_arrival", [.callback { number := 0x00, flag := some 1, part := 0 }]),
  ("produce_256_ticks", [.callback { number := 0x00, flag := some 2, part := 1 }]),
  asks "location_check" 0x28 (some 3), asks "random_prod_change" 0x29 (some 4),
  asks "monthly_prod_change" 0x35 (some 5), asks "cargo_subtype_display" 0x37 (some 6),
  asks "extra_text_fund" 0x38 (some 7), asks "extra_text_industry" 0x3A (some 8),
  asks "control_special" 0x3B (some 9), asks "stop_accept_cargo" 0x3D (some 10),
  asks "colour" 0x14A (some 11), asks "cargo_input" 0x14B (some 12),
  asks "cargo_output" 0x14C (some 13), asks "build_prod_change" 0x15F (some 14),
  ("default", [.cargo none])]

def cargo : Table := [
  asks "profit" 0x39 (some 0), asks "station_rating" 0x145 (some 1), ("default", [.cargo none])]

def airport : Table := [
  asks "additional_text" 0x155, asks "layout_name" 0x156, ("default", [.cargo none])]

def object : Table := [
  onList "tile_check" { number := 0x157, flag := some 0 }, asks "anim_next_frame" 0x158 (some 1),
  asks "anim_control" 0x159, asks "anim_speed" 0x15A (some 2), asks "colour" 0x15B (some 3),
  onList "additional_text" { number := 0x15C, flag := some 4 }, asks "autoslope" 0x15D (some 5),
  ("default", [.cargo none]), ("purchase", [.cargo (some 0xFF)])]

def railType : Table := shown [
  ("gui", 0), ("track_overlay", 1), ("underlay", 2), ("tunnels", 3), ("catenary_wire", 4),
  ("catenary_pylons", 5), ("bridge_surfaces", 6), ("level_crossings", 7), ("depots", 8),
  ("fences", 9), ("tunnel_overlay", 10), ("signals", 11), ("precombined", 12)]

def airportTile : Table := [
  asks "foundations" 0x150 (some 5), asks "anim_control" 0x152,
  asks "anim_next_frame" 0x153 (some 0), asks "anim_speed" 0x154 (some 1),
  ("default", [.cargo none])]

def roadType : Table := shown [
  ("gui", 0), ("track_overlay", 1), ("underlay", 2), ("tunnels", 3), ("catenary_front", 4),
  ("catenary_back", 5), ("bridge_surfaces", 6), ("depots", 8), ("roadstops", 10),
  ("direction_markings", 11)]

def tramType : Table := shown [
  ("gui", 0), ("track_overlay", 1), ("underlay", 2), ("tunnels", 3), ("catenary_front", 4),
  ("catenary_back", 5), ("bridge_surfaces", 6), ("depots", 8)]

def roadStop : Table := [
  asks "availability" 0x13 (some 0), asks "anim_control" 0x140,
  asks "anim_next_frame" 0x141 (some 1), asks "anim_speed" 0x142 (some 2),
  ("default", [.cargo none]), ("purchase", [.cargo (some 0xFF)])]

def ofFeature (feature : Int) : Table :=
  match feature with
  | 0x00 => train ++ vehicle
  | 0x01 => roadVehicle ++ vehicle
  | 0x02 => ship ++ vehicle
  | 0x03 => aircraft ++ vehicle
  | 0x04 => station
  | 0x05 => canal
  | 0x07 => house
  | 0x09 => industryTile
  | 0x0A => industry
  | 0x0B => cargo
  | 0x0D => airport
  | 0x0F => object
  | 0x10 => railType
  | 0x11 => airportTile
  | 0x12 => roadType
  | 0x13 => tramType
  | 0x14 => roadStop
  | _ => []

end NewGrf.Callback
