import NewGrf.Dict
import NewGrf.Position
import NewGrf.Property.Info

namespace NewGrf.Property

def twoBytes (low high : Info) : List Info :=
  [{ low with value := .lowByte }, { high with value := .highByte }]

def speed (i : Info) (factor shown : Int × Int) : Info :=
  { i with unit := some "speed", factor, shown := some shown }

def power (i : Info) : Info := { i with unit := some "power" }

def weight (i : Info) : Info := { i with unit := some "weight" }

def scaled (i : Info) (factor : Int) : Info := { i with factor := (factor, 1) }

/-- Other properties on refitting make the oldest one void. -/
def voidRefitMask (number : Int) : Info := { dword number with value := .zero }

def refitClasses (allOf anyOf mask : Int) : List Info :=
  [{ word allOf with value := .classes 0 }, { word anyOf with value := .classes 1 },
    voidRefitMask mask]

def cargoRefit (number mask : Int) : List Info :=
  [special (.cargoList number), voidRefitMask mask]

def animationInfo (i : Info) : Info := { i with value := .animation 8 253 }

def first (i : Info) : Info := { i with first := true }

def required (i : Info) : Info := { i with required := true }

def replacedBy (i : Info) (name : String) : Info := { i with replacedBy := some name }

def vehicles : Dict (List Info) := [
  ("reliability_decay", [byte 0x02]),
  ("vehicle_life", [byte 0x03]),
  ("model_life", [byte 0x04]),
  ("climates_available", [byte 0x06]),
  ("loading_speed", [byte 0x07]),
  ("name", [{ byte (-1) with text := some (.fixed none) }])]

def trains : Dict (List Info) := vehicles ++ [
  ("track_type", [special (.oneOrList "track_type" 0x05 0x34)]),
  ("ai_special_flag", [byte 0x08]),
  ("speed", [speed (word 0x09) (5000, 1397) (1, 1)]),
  ("power", [power (word 0x0B)]),
  ("running_cost_factor", [byte 0x0D]),
  ("running_cost_base", [dword 0x0E]),
  ("sprite_id", [byte 0x12]),
  ("dual_headed", [byte 0x13]),
  ("cargo_capacity", [byte 0x14]),
  ("default_cargo_type", [byte 0x15]),
  ("weight", twoBytes (weight (byte 0x16)) (weight (byte 0x24))),
  ("cost_factor", [byte 0x17]),
  ("ai_engine_rank", [byte 0x18]),
  ("engine_class", [byte 0x19]),
  ("extra_power_per_wagon", [power (word 0x1B)]),
  ("refit_cost", [byte 0x1C]),
  ("tractive_effort_coefficient", [scaled (byte 0x1F) 255]),
  ("air_drag_coefficient", [scaled (byte 0x20) 255]),
  ("length", [{ byte 0x21 with value := .vehicleLength }]),
  ("visual_effect_and_powered", [byte 0x22]),
  ("effect_spawn_model_and_powered", [byte 0x22]),
  ("extra_weight_per_wagon", [weight (byte 0x23)]),
  ("bitmask_vehicle_info", [byte 0x25]),
  ("retire_early", [byte 0x26]),
  ("misc_flags", [byte 0x27]),
  ("refittable_cargo_classes", refitClasses 0x28 0x32 0x1D),
  ("non_refittable_cargo_classes", [word 0x29, voidRefitMask 0x1D]),
  ("introduction_date", [dword 0x2A]),
  ("cargo_age_period", [word 0x2B]),
  ("cargo_allow_refit", cargoRefit 0x2C 0x1D),
  ("cargo_disallow_refit", cargoRefit 0x2D 0x1D),
  ("curve_speed_mod", [scaled (word 0x2E) 256]),
  ("variant_group", [word 0x2F]),
  ("extra_flags", [dword 0x30])]

def roadVehicles : Dict (List Info) := vehicles ++ [
  ("road_type", [byte 0x05]),
  ("tram_type", [byte 0x05]),
  ("speed",
    [speed { byte 0x08 with value := .atMost 0xFF } (10000, 1397) (1, 2),
      speed { byte 0x15 with value := .quarter, atLeast := some 0x40 } (10000, 1397) (1, 2)]),
  ("running_cost_factor", [byte 0x09]),
  ("running_cost_base", [dword 0x0A]),
  ("sprite_id", [byte 0x0E]),
  ("cargo_capacity", [byte 0x0F]),
  ("default_cargo_type", [byte 0x10]),
  ("cost_factor", [byte 0x11]),
  ("sound_effect", [byte 0x12]),
  ("power", [{ power (byte 0x13) with factor := (1, 10) }]),
  ("weight", [scaled (weight (byte 0x14)) 4]),
  ("tractive_effort_coefficient", [scaled (byte 0x18) 255]),
  ("air_drag_coefficient", [scaled (byte 0x19) 255]),
  ("refit_cost", [byte 0x1A]),
  ("retire_early", [byte 0x1B]),
  ("misc_flags", [byte 0x1C]),
  ("refittable_cargo_classes", refitClasses 0x1D 0x29 0x16),
  ("non_refittable_cargo_classes", [word 0x1E, voidRefitMask 0x16]),
  ("introduction_date", [dword 0x1F]),
  ("visual_effect", [byte 0x21]),
  ("effect_spawn_model", [byte 0x21]),
  ("cargo_age_period", [word 0x22]),
  ("length", [{ byte 0x23 with value := .vehicleLength }]),
  ("cargo_allow_refit", cargoRefit 0x24 0x16),
  ("cargo_disallow_refit", cargoRefit 0x25 0x16),
  ("variant_group", [word 0x26]),
  ("extra_flags", [dword 0x27])]

def ships : Dict (List Info) := vehicles ++ [
  ("sprite_id", [byte 0x08]),
  ("is_refittable", [byte 0x09]),
  ("cost_factor", [byte 0x0A]),
  ("speed",
    [speed { byte 0x0B with value := .atMost 0xFF } (10000, 1397) (1, 2),
      speed { word 0x23 with value := .atMost 0xFFFF, atLeast := some 0xFF } (10000, 1397)
        (1, 2)]),
  ("default_cargo_type", [byte 0x0C]),
  ("cargo_capacity", [word 0x0D]),
  ("running_cost_factor", [byte 0x0F]),
  ("sound_effect", [byte 0x10]),
  ("refit_cost", [byte 0x13]),
  ("ocean_speed_fraction", [scaled { byte 0x14 with value := .missingPart } 255]),
  ("canal_speed_fraction", [scaled { byte 0x15 with value := .missingPart } 255]),
  ("retire_early", [byte 0x16]),
  ("misc_flags", [byte 0x17]),
  ("refittable_cargo_classes", refitClasses 0x18 0x25 0x11),
  ("non_refittable_cargo_classes", [word 0x19, voidRefitMask 0x11]),
  ("introduction_date", [dword 0x1A]),
  ("visual_effect", [byte 0x1C]),
  ("effect_spawn_model", [byte 0x1C]),
  ("cargo_age_period", [word 0x1D]),
  ("cargo_allow_refit", cargoRefit 0x1E 0x11),
  ("cargo_disallow_refit", cargoRefit 0x1F 0x11),
  ("variant_group", [word 0x20]),
  ("extra_flags", [dword 0x21]),
  ("acceleration", [byte 0x24])]

def aircraft : Dict (List Info) := vehicles ++ [
  ("sprite_id", [byte 0x08]),
  ("aircraft_type",
    [{ byte 0x09 with value := .helicopter }, { byte 0x0A with value := .largeAircraft }]),
  ("cost_factor", [byte 0x0B]),
  ("speed", [speed (byte 0x0C) (701, 2507) (128, 10)]),
  ("acceleration", [byte 0x0D]),
  ("running_cost_factor", [byte 0x0E]),
  ("passenger_capacity", [word 0x0F]),
  ("mail_capacity", [byte 0x11]),
  ("sound_effect", [byte 0x12]),
  ("refit_cost", [byte 0x15]),
  ("retire_early", [byte 0x16]),
  ("misc_flags", [byte 0x17]),
  ("refittable_cargo_classes", refitClasses 0x18 0x23 0x13),
  ("non_refittable_cargo_classes", [word 0x19, voidRefitMask 0x13]),
  ("introduction_date", [dword 0x1A]),
  ("cargo_age_period", [word 0x1C]),
  ("cargo_allow_refit", cargoRefit 0x1D 0x13),
  ("cargo_disallow_refit", cargoRefit 0x1E 0x13),
  ("range", [word 0x1F]),
  ("variant_group", [word 0x20]),
  ("extra_flags", [dword 0x21])]

def stations : Dict (List Info) := [
  ("class", [first (label 0x08)]),
  ("disabled_platforms", [{ byte 0x0C with value := .bitsFromOne }]),
  ("disabled_length", [{ byte 0x0D with value := .bitsFromOne }]),
  ("station_layouts", [special .platformLayouts]),
  ("cargo_threshold", [word 0x10]),
  ("draw_pylon_tiles", [replacedBy (byte 0x11) "tile_flags"]),
  ("cargo_random_triggers", [{ dword 0x12 with value := .cargoBits }]),
  ("general_flags", [{ byte 0x13 with value := .stationFlags }]),
  ("hide_wire_tiles", [replacedBy (byte 0x14) "tile_flags"]),
  ("non_traversable_tiles", [replacedBy (byte 0x15) "tile_flags"]),
  ("animation_info", [animationInfo (word 0x16)]),
  ("animation_speed", [byte 0x17]),
  ("animation_triggers", [word 0x18]),
  ("name",
    [required { number := some (.split 256 (-1) 0x1C), size := 2
                text := some (.split 256 (some 0xC5) (some 0xDC)) }]),
  ("classname",
    [{ number := some (.split 256 (-1) 0x1D), size := 2
       text := some (.split 256 (some 0xC4) (some 0xDC)) }]),
  ("tile_flags", [special .tileFlags])]

def canals : Dict (List Info) := [("graphic_flags", [byte 0x09])]

def houses : Dict (List Info) := [
  ("substitute", [first { byte 0x08 with tiles := .oldHouse }]),
  ("building_flags",
    twoBytes { byte 0x09 with tiles := .buildingFlags } { byte 0x19 with tiles := .masked 0xFE }),
  ("years_available",
    [{ word 0x0A with tiles := .zero, value := .years },
      { word 0x21 with tiles := .zero, value := .year 0 },
      { word 0x22 with tiles := .zero, value := .year 1 }]),
  ("population", [{ byte 0x0B with tiles := .zero }]),
  ("mail_multiplier", [{ byte 0x0C with tiles := .zero }]),
  ("local_authority_impact", [word 0x10]),
  ("removal_cost_multiplier", [byte 0x11]),
  ("name", [text 0x12]),
  ("availability_mask", [{ word 0x13 with tiles := .zero, value := .availability }]),
  ("override", [{ byte 0x15 with tiles := .oldHouse }]),
  ("refresh_multiplier", [byte 0x16]),
  ("random_colours", [{ dword 0x17 with value := .colours }]),
  ("probability", [scaled { byte 0x18 with tiles := .zero } 16]),
  ("animation_info", [{ byte 0x1A with value := .animation 7 128 }]),
  ("animation_speed", [byte 0x1B]),
  ("building_class", [{ byte 0x1C with tiles := .allBits }]),
  ("minimum_lifetime", [{ byte 0x1F with tiles := .zero }]),
  ("watched_cargo_types", [special (.cargoList 0x20)]),
  ("accepted_cargos", [special (.acceptedCargos 0x23)])]

def industryTiles : Dict (List Info) := [
  ("substitute", [first (byte 0x08)]),
  ("override", [byte 0x09]),
  ("land_shape_flags", [byte 0x0D]),
  ("animation_info", [animationInfo (word 0x0F)]),
  ("animation_speed", [byte 0x10]),
  ("animation_triggers", [byte 0x11]),
  ("special_flags", [byte 0x12]),
  ("accepted_cargos", [special (.acceptedCargos 0x13)])]

def industries : Dict (List Info) := [
  ("substitute", [first (byte 0x08)]),
  ("override", [byte 0x09]),
  ("layouts", [special (.grids 0x0A)]),
  ("life_type", [byte 0x0B]),
  ("closure_msg", [text 0x0C]),
  ("prod_increase_msg", [text 0x0D]),
  ("prod_decrease_msg", [text 0x0E]),
  ("fund_cost_multiplier", [byte 0x0F]),
  ("prod_cargo_types", [replacedBy { word 0x10 with value := .cargos 2 } "cargo_types"]),
  ("accept_cargo_types", [replacedBy { dword 0x11 with value := .cargos 3 } "cargo_types"]),
  ("prod_multiplier", [replacedBy (special .productionMultiplier) "cargo_types"]),
  ("min_cargo_distr", [byte 0x14]),
  ("random_sound_effects", [special .sounds]),
  ("conflicting_ind_types", [special .conflictingTypes]),
  ("prob_random", [byte 0x17]),
  ("prob_map_gen", [byte 0x17]),
  ("prob_in_game", [byte 0x18]),
  ("map_colour", [byte 0x19]),
  ("spec_flags", [dword 0x1A]),
  ("new_ind_msg", [text 0x1B]),
  ("input_multiplier_1", [replacedBy (special (.inputMultiplier 0x1C)) "cargo_types"]),
  ("input_multiplier_2", [replacedBy (special (.inputMultiplier 0x1D)) "cargo_types"]),
  ("input_multiplier_3", [replacedBy (special (.inputMultiplier 0x1E)) "cargo_types"]),
  ("name", [text 0x1F]),
  ("prospect_chance", [scaled (dword 0x20) 0xFFFFFFFF]),
  ("remove_cost_multiplier", [dword 0x23]),
  ("nearby_station_name", [text 0x24]),
  ("cargo_types", [special .cargoTypes])]

def cargos : Dict (List Info) := [
  ("number", [byte 0x08]),
  ("type_name", [text 0x09]),
  ("unit_name", [text 0x0A]),
  ("type_abbreviation", [text 0x0D]),
  ("sprite", [word 0x0E]),
  ("weight", [scaled (weight (byte 0x0F)) 16]),
  ("penalty_lowerbound", [byte 0x10]),
  ("single_penalty_length", [byte 0x11]),
  ("price_factor", [{ dword 0x12 with factor := (0x200000, 10 * 20 * 255) }]),
  ("station_list_colour", [byte 0x13]),
  ("cargo_payment_list_colour", [byte 0x14]),
  ("is_freight", [byte 0x15]),
  ("cargo_classes", [word 0x16]),
  ("cargo_label", [label 0x17]),
  ("town_growth_effect", [byte 0x18]),
  ("town_growth_multiplier", [scaled (word 0x19) 0x100]),
  ("units_of_cargo", [text 0x1B]),
  ("items_of_cargo", [text 0x1C]),
  ("capacity_multiplier", [scaled (word 0x1D) 0x100]),
  ("town_production_effect", [byte 0x1E]),
  ("town_production_multiplier", [scaled (word 0x1F) 0x100])]

def airports : Dict (List Info) := [
  ("override", [first (byte 0x08)]),
  ("layouts", [special (.airportGrids 0x0A)]),
  ("years_available", [special .airportYears]),
  ("ttd_airport_type", [byte 0x0D]),
  ("catchment_area", [byte 0x0E]),
  ("noise_level", [byte 0x0F]),
  ("name", [text 0x10]),
  ("maintenance_cost", [word 0x11])]

def objects : Dict (List Info) := [
  ("class", [first (label 0x08)]),
  ("classname", [text 0x09 0xD0]),
  ("name", [required (text 0x0A 0xD0)]),
  ("climates_available", [required (byte 0x0B)]),
  ("size", [required (special .objectSize)]),
  ("build_cost_multiplier", [byte 0x0D]),
  ("introduction_date", [dword 0x0E]),
  ("end_of_life_date", [dword 0x0F]),
  ("object_flags", [word 0x10]),
  ("animation_info", [animationInfo (word 0x11)]),
  ("animation_speed", [byte 0x12]),
  ("animation_triggers", [word 0x13]),
  ("remove_cost_multiplier", [byte 0x14]),
  ("height", [byte 0x16]),
  ("num_views", [byte 0x17]),
  ("count_per_map256", [byte 0x18])]

def tracks : Dict (List Info) := [
  ("label", [label 0x08]),
  ("toolbar_caption", [text 0x09]),
  ("menu_text", [text 0x0A]),
  ("build_window_caption", [text 0x0B]),
  ("autoreplace_text", [text 0x0C]),
  ("new_engine_text", [text 0x0D]),
  ("construction_cost", [word 0x13]),
  ("map_colour", [byte 0x16]),
  ("introduction_date", [dword 0x17]),
  ("sort_order", [byte 0x1A]),
  ("name", [text 0x1B]),
  ("maintenance_cost", [word 0x1C])]

def railTypes : Dict (List Info) := tracks ++ [
  ("compatible_railtype_list", [special (.labels 0x0E "Railtype")]),
  ("powered_railtype_list", [special (.labels 0x0F "Railtype")]),
  ("railtype_flags", [byte 0x10]),
  ("curve_speed_multiplier", [byte 0x11]),
  ("station_graphics", [byte 0x12]),
  ("speed_limit", [speed (word 0x14) (5000, 1397) (1, 1)]),
  ("acceleration_model", [byte 0x15]),
  ("requires_railtype_list", [special (.labels 0x18 "Railtype")]),
  ("introduces_railtype_list", [special (.labels 0x19 "Railtype")]),
  ("alternative_railtype_list", [special (.labels 0x1D "Railtype")])]

def airportTiles : Dict (List Info) := [
  ("substitute", [first (byte 0x08)]),
  ("override", [byte 0x09]),
  ("animation_info", [animationInfo (word 0x0F)]),
  ("animation_speed", [byte 0x10]),
  ("animation_triggers", [byte 0x11])]

/-- Road and tram types differ in the names of their properties only. -/
def roadTracks (kind title : String) : Dict (List Info) := tracks ++ [
  ("powered_" ++ kind ++ "_list", [special (.labels 0x0F title)]),
  (kind ++ "_flags", [byte 0x10]),
  ("speed_limit", [speed (word 0x14) (10000, 1397) (1, 2)]),
  ("requires_" ++ kind ++ "_list", [special (.labels 0x18 title)]),
  ("introduces_" ++ kind ++ "_list", [special (.labels 0x19 title)]),
  ("alternative_" ++ kind ++ "_list", [special (.labels 0x1D title)])]

def roadStops : Dict (List Info) := [
  ("class", [first (label 0x08)]),
  ("availability_type", [byte 0x09]),
  ("name", [required (text 0x0A)]),
  ("classname", [text 0x0B]),
  ("draw_mode", [byte 0x0C]),
  ("cargo_random_triggers", [dword 0x0D]),
  ("animation_info", [animationInfo (word 0x0E)]),
  ("animation_speed", [byte 0x0F]),
  ("animation_triggers", [word 0x10]),
  ("general_flags", [dword 0x12]),
  ("cost_multipliers", [special (.byteSequence 0x15 "Cost multipliers" 2)])]

def table? : Int → Option (Dict (List Info))
  | 0x00 => some trains
  | 0x01 => some roadVehicles
  | 0x02 => some ships
  | 0x03 => some aircraft
  | 0x04 => some stations
  | 0x05 => some canals
  | 0x07 => some houses
  | 0x09 => some industryTiles
  | 0x0A => some industries
  | 0x0B => some cargos
  | 0x0D => some airports
  | 0x0F => some objects
  | 0x10 => some railTypes
  | 0x11 => some airportTiles
  | 0x12 => some (roadTracks "roadtype" "Roadtype")
  | 0x13 => some (roadTracks "tramtype" "Tramtype")
  | 0x14 => some roadStops
  | _ => none

end NewGrf.Property
