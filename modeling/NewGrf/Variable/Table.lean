import NewGrf.Variable.Info

namespace NewGrf.Variable

abbrev Table := List (String × Info)

def bits (name : String) (var start size : Nat) (adjust : Adjust := .asIs) : String × Info :=
  (name, { var, start, size, adjust })

def called (form : ArgForm) (names : Table) : Table :=
  names.map fun (name, i) => (name, { i with form })

def reading (param : Nat) (names : Table) : Table :=
  names.map fun (name, i) => (name, { i with param := some param })

def old (replacedBy : String) (entry : String × Info) : String × Info :=
  (entry.1, { entry.2 with replacedBy := some replacedBy })

/-- Entries of `base` that `own` does not replace, then those of `own`. -/
def extend (base own : Table) : Table :=
  base.map (fun e => (e.1, (own.lookup e.1).getD e.2))
    ++ own.filter fun e => (base.lookup e.1).isNone

def global : Table := [
  bits "current_month" 0x02 0 8, bits "current_day_of_month" 0x02 8 5, bits "is_leapyear" 0x02 15 1,
  bits "current_day_of_year" 0x02 16 9, bits "traffic_side" 0x06 4 1,
  bits "animation_counter" 0x0A 0 16, bits "current_callback" 0x0C 0 16,
  bits "extra_callback_info1" 0x10 0 32, bits "game_mode" 0x12 0 8,
  bits "extra_callback_info2" 0x18 0 32, bits "display_options" 0x1B 0 6,
  bits "last_computed_result" 0x1C 0 32, bits "snowline_height" 0x20 0 8,
  bits "difficulty_level" 0x22 0 8, bits "current_date" 0x23 0 32, bits "current_year" 0x24 0 32]

def vehicle : Table := [
  bits "grfid" 0x25 0 32, bits "position_in_consist" 0x40 0 8,
  bits "position_in_consist_from_end" 0x40 8 8, bits "num_vehs_in_consist" 0x40 16 8 (.add 1),
  bits "position_in_vehid_chain" 0x41 0 8, bits "position_in_vehid_chain_from_end" 0x41 8 8,
  bits "num_vehs_in_vehid_chain" 0x41 16 8, bits "cargo_classes_in_consist" 0x42 0 8,
  bits "most_common_cargo_type" 0x42 8 8, bits "most_common_cargo_subtype" 0x42 16 8,
  bits "bitmask_consist_info" 0x42 24 8, bits "company_num" 0x43 0 8, bits "company_type" 0x43 16 2,
  bits "company_colour1" 0x43 24 4, bits "company_colour2" 0x43 28 4,
  bits "aircraft_height" 0x44 8 8, bits "airport_type" 0x44 0 8,
  bits "curv_info_prev_cur" 0x45 0 4 .signExtend, bits "curv_info_cur_next" 0x45 8 4 .signExtend,
  bits "curv_info_prev_next" 0x45 16 4 .signExtend, bits "curv_info" 0x45 0 12 (.keepBits 0x0F0F),
  bits "motion_counter" 0x46 8 24, bits "cargo_type_in_veh" 0x47 0 8,
  bits "cargo_unit_weight" 0x47 8 8, bits "cargo_classes" 0x47 16 16,
  bits "vehicle_is_available" 0x48 0 1, bits "vehicle_is_testing" 0x48 1 1,
  bits "vehicle_is_offered" 0x48 2 1, bits "build_year" 0x49 0 32,
  bits "vehicle_is_potentially_powered" 0x4A 8 1, bits "tile_has_catenary" 0x4A 9 1,
  bits "date_of_last_service" 0x4B 0 32, bits "position_in_articulated_veh" 0x4D 0 8,
  bits "position_in_articulated_veh_from_end" 0x4D 8 8, bits "waiting_triggers" 0x5F 0 8,
  bits "random_bits" 0x5F 8 16, bits "direction" 0x9F 0 8, bits "vehicle_is_hidden" 0xB2 0 1,
  bits "vehicle_is_stopped" 0xB2 1 1, bits "vehicle_is_crashed" 0xB2 7 1,
  bits "cargo_capacity" 0xBA 0 16, bits "cargo_count" 0xBC 0 16, bits "age_in_days" 0xC0 0 16,
  bits "max_age_in_days" 0xC2 0 16, bits "vehicle_type_id" 0xC6 0 16,
  bits "vehicle_is_flipped" 0xC8 1 1, bits "breakdowns_since_last_service" 0xCA 0 8,
  bits "vehicle_is_broken" 0xCB 0 8 (.equals 1), bits "reliability" 0xCE 0 16 (.mulDiv 101 0x10000),
  bits "cargo_subtype" 0xF2 0 8, bits "vehicle_is_unloading" 0xFE 1 1,
  bits "vehicle_is_powered" 0xFE 5 1, bits "vehicle_is_not_powered" 0xFE 6 1,
  bits "vehicle_is_reversed" 0xFE 8 1, bits "built_during_preview" 0xFE 10 1]

def train : Table := extend vehicle [
  bits "max_speed" 0x98 0 16 (.mulDiv 0x4786 0x10000),
  bits "current_speed" 0xB4 0 16 (.mulDiv 0x4786 0x10000), bits "current_railtype" 0x4A 0 8,
  bits "current_max_speed" 0x4C 0 16 (.mulDiv 0x4786 0x10000), bits "vehicle_is_in_depot" 0xE2 7 1]

def roadVehicle : Table := extend vehicle [
  bits "max_speed" 0x98 0 16 (.mulDiv 0x23c3 0x10000),
  bits "current_speed" 0xB4 0 16 (.mulDiv 0x23c3 0x10000), bits "current_roadtype" 0x4A 0 8,
  bits "current_tramtype" 0x4A 0 8, bits "current_max_speed" 0x4C 0 16 (.mulDiv 0x23c3 0x10000),
  bits "vehicle_is_in_depot" 0xE2 0 8 (.equals 0xfe)]

def ship : Table := extend vehicle [
  bits "max_speed" 0x98 0 16 (.mulDiv 0x23c3 0x10000),
  bits "current_speed" 0xB4 0 16 (.mulDiv 0x23c3 0x10000),
  bits "current_max_speed" 0x4C 0 16 (.mulDiv 0x23c3 0x10000), bits "vehicle_is_in_depot" 0xE2 7 1]

def plane : Table := extend vehicle [
  bits "max_speed" 0x98 0 16 (.mulDiv 0x3939 0x1000),
  bits "current_speed" 0xB4 0 16 (.mulDiv 0x3939 0x1000),
  bits "current_max_speed" 0x4C 0 16 (.mulDiv 0x3939 0x1000), bits "flight_state" 0xE2 0 8,
  bits "vehicle_is_in_depot" 0xE6 0 8 (.equals 0)]

def vehicleCalled : Table :=
  [bits "count_veh_id" 0x60 0 8]
  ++ called .signedByte [bits "other_veh_curv_info" 0x62 0 4 .signExtend,
    bits "other_veh_is_hidden" 0x62 7 1, bits "other_veh_x_offset" 0x62 8 8 .signExtend,
    bits "other_veh_y_offset" 0x62 16 8 .signExtend,
    bits "other_veh_z_offset" 0x62 24 8 .signExtend]

def trainCalled : Table := extend vehicleCalled (
  called (.label .rail) [bits "tile_supports_railtype" 0x63 1 1,
    bits "tile_powers_railtype" 0x63 2 1, bits "tile_is_railtype" 0x63 3 1])

def roadVehicleCalled : Table := extend vehicleCalled (
  called (.label .road) [bits "tile_supports_roadtype" 0x63 1 1]
  ++ called (.label .tram) [bits "tile_supports_tramtype" 0x63 1 1]
  ++ called (.label .road) [bits "tile_powers_roadtype" 0x63 2 1]
  ++ called (.label .tram) [bits "tile_powers_tramtype" 0x63 2 1]
  ++ called (.label .road) [bits "tile_is_roadtype" 0x63 3 1]
  ++ called (.label .tram) [bits "tile_is_tramtype" 0x63 3 1])

def stop : Table := [
  bits "random_bits_station" 0x5F 8 16, bits "had_vehicle_of_type" 0x8A 1 5,
  bits "is_waypoint" 0x8A 6 1, bits "facilities" 0xF0 0 8, bits "airport_type" 0xF1 0 8,
  bits "build_date" 0xFA 0 16 (.add 701265)]

def stopCalled : Table := [
  bits "cargo_amount_waiting" 0x60 0 32, bits "cargo_time_since_pickup" 0x61 0 32,
  bits "cargo_rating" 0x62 0 32 (.mulDiv 101 256), bits "cargo_time_en_route" 0x63 0 32,
  bits "cargo_last_vehicle_speed" 0x64 0 8, bits "cargo_last_vehicle_age" 0x64 8 8,
  bits "cargo_accepted" 0x65 3 1, bits "cargo_accepted_ever" 0x69 0 1,
  bits "cargo_accepted_last_month" 0x69 1 1, bits "cargo_accepted_this_month" 0x69 2 1,
  bits "cargo_accepted_bigtick" 0x69 3 1]

def station : Table := extend stop [
  bits "tile_type" 0x40 24 8, bits "terrain_type" 0x42 0 8, bits "track_type" 0x42 8 8,
  bits "company_num" 0x43 0 8, bits "company_type" 0x43 16 2, bits "company_colour1" 0x43 24 4,
  bits "company_colour2" 0x43 28 4, bits "pbs_reserved" 0x44 0 1,
  bits "pbs_reserved_or_disabled" 0x44 1 1, bits "pbs_enabled" 0x44 2 1,
  bits "rail_continuation" 0x45 0 8, bits "rail_present" 0x45 8 8, bits "animation_frame" 0x4A 0 8,
  bits "random_bits_tile" 0x5F 24 4]

def stationCalled : Table := extend stopCalled (
  called (.tileOffset (-8) 7) [bits "nearby_tile_animation_frame" 0x66 0 32,
    bits "nearby_tile_slope" 0x67 0 5, bits "nearby_tile_is_water" 0x67 9 1,
    bits "nearby_tile_terrain_type" 0x67 10 3, bits "nearby_tile_water_class" 0x67 13 2,
    bits "nearby_tile_height" 0x67 16 8, bits "nearby_tile_class" 0x67 24 4,
    bits "nearby_tile_is_station" 0x68 0 32 (.differs 0xFFFFFFFF),
    bits "nearby_tile_original_gfx" 0x68 8 2 (.equals 0),
    bits "nearby_tile_same_grf" 0x68 8 2 (.equals 1),
    bits "nearby_tile_other_grf" 0x68 8 2 (.equals 2), bits "nearby_tile_same_station" 0x68 10 1,
    bits "nearby_tile_perpendicular" 0x68 11 1, bits "nearby_tile_tile_type" 0x68 11 3,
    bits "nearby_tile_grfid" 0x6A 0 32, bits "nearby_tile_station_id" 0x6B 0 16]
  ++ called (.platform false) [bits "platform_length" 0x00 16 4 .platform,
    bits "platform_count" 0x00 20 4 .platform,
    bits "platform_position_from_start" 0x00 0 4 .platform,
    bits "platform_position_from_end" 0x00 4 4 .platform,
    bits "platform_number_from_start" 0x00 8 4 .platform,
    bits "platform_number_from_end" 0x00 12 4 .platform]
  ++ called (.platform true) [bits "platform_position_from_middle" 0x00 0 4 .platformSigned,
    bits "platform_number_from_middle" 0x00 4 4 .platformSigned])

def canal : Table := [
  bits "tile_height" 0x80 0 8, bits "terrain_type" 0x81 0 8, bits "dike_map" 0x82 0 8,
  bits "random_bits" 0x83 0 8]

def house : Table :=
  [bits "construction_state" 0x40 0 2, bits "pseudo_random_bits" 0x40 2 2, bits "age" 0x41 0 8,
    bits "town_zone" 0x42 0 8, bits "terrain_type" 0x43 0 8, bits "same_house_count_town" 0x44 0 8,
    bits "same_house_count_map" 0x44 8 8, bits "same_class_count_town" 0xFF 16 8 .houseClass,
    bits "same_class_count_map" 0xFF 24 8 .houseClass, bits "generating_town" 0x45 0 1,
    bits "animation_frame" 0x46 0 8, bits "x_coordinate" 0x47 0 16, bits "y_coordinate" 0x47 16 16,
    bits "random_bits" 0x5F 8 8]
  ++ reading 0xFF [bits "relative_x" 0x7D 0 8, bits "relative_y" 0x7D 8 8,
    bits "relative_pos" 0x7D 0 16, bits "house_tile" 0x7D 16 8, bits "house_type_id" 0x7D 24 8]

def houseCalled : Table :=
  [bits "old_house_count_town" 0x60 0 8, bits "old_house_count_map" 0x60 8 8,
    bits "other_house_count_town" 0x61 0 8, bits "other_house_count_map" 0x61 8 8,
    bits "other_class_count_town" 0x61 16 8, bits "other_class_count_map" 0x61 24 8]
  ++ called (.tileOffset (-8) 7) [bits "nearby_tile_slope" 0x62 0 5,
    bits "nearby_tile_is_water" 0x62 9 1, bits "nearby_tile_terrain_type" 0x62 10 3,
    bits "nearby_tile_water_class" 0x62 13 2, bits "nearby_tile_height" 0x62 16 8,
    bits "nearby_tile_class" 0x62 24 4, bits "nearby_tile_animation_frame" 0x63 0 8]
  ++ called .cargoNearby [bits "cargo_accepted_nearby_ever" 0x64 0 1,
    bits "cargo_accepted_nearby_last_month" 0x64 1 1,
    bits "cargo_accepted_nearby_this_month" 0x64 2 1,
    bits "cargo_accepted_nearby_last_bigtick" 0x64 3 1,
    bits "cargo_accepted_nearby_watched" 0x64 4 1]
  ++ called .nearestHouse [bits "nearest_house_matching_criterion" 0x65 0 8]
  ++ called (.tileOffset (-8) 7) [bits "nearby_tile_house_id" 0x66 0 16 .signExtend,
    bits "nearby_tile_house_class" 0x66 16 16 .signExtend, bits "nearby_tile_house_grfid" 0x67 0 32]

def industryTile : Table := [
  bits "construction_state" 0x40 0 2, bits "terrain_type" 0x41 0 8, bits "town_zone" 0x42 0 3,
  bits "relative_x" 0x43 0 8, bits "relative_y" 0x43 8 8, bits "relative_pos" 0x43 0 16,
  bits "animation_frame" 0x44 0 8, bits "random_bits" 0x5F 8 8]

def industryTileCalled : Table :=
  called (.tileOffset (-8) 7) [bits "nearby_tile_slope" 0x60 0 5,
    bits "nearby_tile_is_same_industry" 0x60 8 1, bits "nearby_tile_is_water" 0x60 9 1,
    bits "nearby_tile_terrain_type" 0x60 10 3, bits "nearby_tile_water_class" 0x60 13 2,
    bits "nearby_tile_height" 0x60 16 8, bits "nearby_tile_class" 0x60 24 4,
    bits "nearby_tile_animation_frame" 0x61 0 8, bits "nearby_tile_industrytile_id" 0x62 0 16]

def industry : Table := [
  old "incoming_cargo_waiting" (bits "waiting_cargo_1" 0x40 0 16),
  old "incoming_cargo_waiting" (bits "waiting_cargo_2" 0x41 0 16),
  old "incoming_cargo_waiting" (bits "waiting_cargo_3" 0x42 0 16), bits "water_distance" 0x43 0 32,
  bits "layout_num" 0x44 0 8, bits "founder_type" 0x45 16 2, bits "founder_colour1" 0x45 24 4,
  bits "founder_colour2" 0x45 28 4, bits "build_date" 0x46 0 32,
  bits "gs_disallows_prod_decrease" 0x47 0 1, bits "gs_disallows_prod_increase" 0x47 1 1,
  bits "gs_disallows_closure" 0x47 2 1, bits "random_bits" 0x5F 8 16,
  old "produced_cargo_waiting" (bits "produced_cargo_waiting_1" 0x8A 0 16),
  old "produced_cargo_waiting" (bits "produced_cargo_waiting_2" 0x8C 0 16),
  old "production_rate" (bits "production_rate_1" 0x8E 0 8),
  old "production_rate" (bits "production_rate_2" 0x8F 0 8), bits "production_level" 0x93 0 8,
  old "this_month_production" (bits "produced_this_month_1" 0x94 0 16),
  old "this_month_production" (bits "produced_this_month_2" 0x96 0 16),
  old "this_month_transported" (bits "transported_this_month_1" 0x98 0 16),
  old "this_month_transported" (bits "transported_this_month_2" 0x9A 0 16),
  old "transported_last_month_pct" (bits "transported_last_month_pct_1" 0x9C 0 8 (.mulDiv 101 256)),
  old "transported_last_month_pct" (bits "transported_last_month_pct_2" 0x9D 0 8 (.mulDiv 101 256)),
  old "last_month_production" (bits "produced_last_month_1" 0x9E 0 16),
  old "last_month_production" (bits "produced_last_month_2" 0xA0 0 16),
  old "last_month_transported" (bits "transported_last_month_1" 0xA2 0 16),
  old "last_month_transported" (bits "transported_last_month_2" 0xA4 0 16), bits "founder" 0xA7 0 8,
  bits "colour" 0xA8 0 8, bits "counter" 0xAA 0 16, bits "build_type" 0xB3 0 2,
  bits "last_accept_date" 0xB4 0 16 (.add 701265)]

def industryCalled : Table :=
  called (.tileOffset 0 15) [bits "nearby_tile_industry_tile_id" 0x60 0 16,
    bits "nearby_tile_random_bits" 0x61 0 8, bits "nearby_tile_slope" 0x62 0 5,
    bits "nearby_tile_is_water" 0x62 9 1, bits "nearby_tile_terrain_type" 0x62 10 3,
    bits "nearby_tile_water_class" 0x62 13 2, bits "nearby_tile_height" 0x62 16 8,
    bits "nearby_tile_class" 0x62 24 4, bits "nearby_tile_animation_frame" 0x63 0 8]
  ++ called (.tileOffset (-8) 7) [bits "town_manhattan_dist" 0x65 0 16, bits "town_zone" 0x65 16 8,
    bits "town_euclidean_dist" 0x66 0 16]
  ++ called .counted [bits "industry_count" 0x67 16 8, bits "industry_distance" 0x67 0 16]
  ++ called .countedLayout [bits "industry_layout_count" 0x68 16 8,
    bits "industry_layout_distance" 0x68 0 16]
  ++ called .countedTown [bits "industry_town_count" 0x68 16 8]
  ++ called (.label .cargo) [bits "produced_cargo_waiting" 0x69 0 32,
    bits "this_month_production" 0x6A 0 32, bits "this_month_transported" 0x6B 0 32,
    bits "last_month_production" 0x6C 0 32, bits "last_month_transported" 0x6D 0 32,
    bits "last_cargo_accepted_at" 0x6E 0 32, bits "incoming_cargo_waiting" 0x6F 0 32,
    bits "production_rate" 0x70 0 32, bits "transported_last_month_pct" 0x71 0 32 (.mulDiv 101 256)]

def airport : Table := extend stop [
  bits "layout" 0x40 0 32]

def airportCalled : Table := stopCalled

def object : Table := [
  bits "relative_x" 0x40 0 8, bits "relative_y" 0x40 8 8, bits "relative_pos" 0x40 0 16,
  bits "terrain_type" 0x41 0 3, bits "tile_slope" 0x41 8 5, bits "build_date" 0x42 0 32,
  bits "animation_frame" 0x43 0 8, bits "owner" 0x44 0 8, bits "town_manhattan_dist" 0x45 0 16,
  bits "town_zone" 0x45 16 8, bits "town_euclidean_dist" 0x46 0 16, bits "colour" 0x47 0 8,
  bits "view" 0x48 0 8, bits "random_bits" 0x5F 8 8]

def objectCalled : Table :=
  called (.tileOffset (-8) 7) [bits "nearby_tile_object_type" 0x60 0 16,
    bits "nearby_tile_object_view" 0x60 16 4, bits "nearby_tile_random_bits" 0x61 0 8,
    bits "nearby_tile_slope" 0x62 0 5, bits "nearby_tile_is_same_object" 0x62 8 1,
    bits "nearby_tile_is_water" 0x62 9 1, bits "nearby_tile_terrain_type" 0x62 10 3,
    bits "nearby_tile_water_class" 0x62 13 2, bits "nearby_tile_height" 0x62 16 8,
    bits "nearby_tile_class" 0x62 24 4, bits "nearby_tile_animation_frame" 0x63 0 8]
  ++ called .counted [bits "object_count" 0x64 16 8, bits "object_distance" 0x64 0 16]

def railType : Table := [
  bits "terrain_type" 0x40 0 8, bits "enhanced_tunnels" 0x41 0 8,
  bits "level_crossing_status" 0x42 0 8, bits "build_date" 0x43 0 32, bits "town_zone" 0x44 0 8,
  bits "roadtype" 0x45 0 8, bits "tramtype" 0x45 8 8, bits "railtype" 0x45 16 8,
  bits "random_bits" 0x5F 8 2]

def airportTile : Table := [
  bits "terrain_type" 0x41 0 8, bits "town_radius_group" 0x42 0 3, bits "relative_x" 0x43 0 8,
  bits "relative_y" 0x43 8 8, bits "relative_pos" 0x43 0 16, bits "animation_frame" 0x44 0 8,
  bits "random_bits_station" 0x5F 8 16, bits "random_bits_tile" 0x5F 24 4]

def airportTileCalled : Table :=
  called (.tileOffset (-8) 7) [bits "nearby_tile_slope" 0x60 0 5,
    bits "nearby_tile_is_same_airport" 0x60 8 1, bits "nearby_tile_is_water" 0x60 9 1,
    bits "nearby_tile_terrain_type" 0x60 10 3, bits "nearby_tile_water_class" 0x60 13 2,
    bits "nearby_tile_height" 0x60 16 8, bits "nearby_tile_class" 0x60 24 4,
    bits "nearby_tile_animation_frame" 0x61 0 8, bits "nearby_tile_airporttile_id" 0x62 0 16]

def roadType : Table := railType

def tramType : Table := railType

def town : Table := [
  bits "is_city" 0x40 0 1, bits "cities_enabled" 0x40 1 1 .negate, bits "town_index" 0x41 0 16,
  bits "population" 0x82 0 16, bits "has_church" 0x92 1 1, bits "has_stadium" 0x92 2 1,
  bits "town_zone_0_radius_square" 0x94 0 16, bits "town_zone_1_radius_square" 0x96 0 16,
  bits "town_zone_2_radius_square" 0x98 0 16, bits "town_zone_3_radius_square" 0x9A 0 16,
  bits "town_zone_4_radius_square" 0x9C 0 16, bits "num_houses" 0xB6 0 16,
  bits "percent_transported_passengers" 0xCA 0 8 (.mulDiv 101 256),
  bits "percent_transported_mail" 0xCB 0 8 (.mulDiv 101 256)]

def roadStop : Table := extend stop [
  bits "view" 0x40 0 8, bits "stop_type" 0x41 0 8, bits "terrain_type" 0x42 0 8,
  bits "tile_slope" 0x42 8 5, bits "has_road" 0x43 0 32 (.differs 0xFFFFFFFF),
  bits "has_tram" 0x44 0 32 (.differs 0xFFFFFFFF), bits "road_type" 0x43 0 8,
  bits "tram_type" 0x44 0 8, bits "town_manhattan_dist" 0x45 0 16, bits "town_zone" 0x45 16 8,
  bits "town_euclidean_dist" 0x46 0 32, bits "company_num" 0x47 0 8, bits "company_type" 0x47 16 2,
  bits "company_colour1" 0x47 24 4, bits "company_colour2" 0x47 28 4,
  bits "animation_frame" 0x49 0 8, bits "drawn_in_gui" 0x50 4 1, bits "waiting_triggers" 0x5F 0 8,
  bits "random_bits_tile" 0x5F 24 8]

def roadStopCalled : Table := extend stopCalled (
  called (.tileOffset (-8) 7) [bits "nearby_tile_animation_frame" 0x66 0 32,
    bits "nearby_tile_info" 0x67 0 32, bits "nearby_tile_slope" 0x67 0 5,
    bits "nearby_tile_is_water" 0x67 9 1, bits "nearby_tile_terrain_type" 0x67 10 3,
    bits "nearby_tile_water_class" 0x67 13 2, bits "nearby_tile_height" 0x67 16 8,
    bits "nearby_tile_class" 0x67 24 4, bits "nearby_tile_road_stop_info" 0x68 0 32,
    bits "nearby_tile_is_road_stop" 0x68 0 32 (.differs 0xFFFFFFFF),
    bits "nearby_tile_same_grf" 0x68 8 2 (.equals 0),
    bits "nearby_tile_other_grf" 0x68 8 2 (.equals 1),
    bits "nearby_tile_original_gfx" 0x68 8 2 (.equals 2), bits "nearby_tile_same_station" 0x68 10 1,
    bits "nearby_tile_different_view" 0x68 11 1, bits "nearby_tile_view" 0x68 12 4,
    bits "nearby_tile_is_drive_through" 0x68 12 4 (.atLeast 4),
    bits "nearby_tile_stop_type" 0x68 16 4, bits "nearby_tile_same_stop_type" 0x68 20 1,
    bits "nearby_tile_grfid" 0x6A 0 32, bits "nearby_tile_road_stop_id" 0x6B 0 16])

structure Scope where
  name : String
  plain : Table
  called : Table
  persistentStorage : Bool := false

namespace Scope

def towns : Scope :=
  { name := "Towns", plain := town, called := [], persistentStorage := true }

def trains : Scope :=
  { name := "Trains", plain := train, called := trainCalled }

def roadVehicles : Scope :=
  { name := "RoadVehs", plain := roadVehicle, called := roadVehicleCalled }

def ships : Scope :=
  { name := "Ships", plain := ship, called := vehicleCalled }

def aircraft : Scope :=
  { name := "Aircraft", plain := plane, called := vehicleCalled }

def stations : Scope :=
  { name := "Stations", plain := station, called := stationCalled }

def canals : Scope :=
  { name := "Canals", plain := canal, called := [] }

def houses : Scope :=
  { name := "Houses", plain := house, called := houseCalled }

def industryTiles : Scope :=
  { name := "IndustryTiles", plain := industryTile, called := industryTileCalled }

def industries : Scope :=
  { name := "Industries", plain := industry, called := industryCalled, persistentStorage := true }

def cargos : Scope :=
  { name := "Cargos", plain := [], called := [] }

def soundEffects : Scope :=
  { name := "SoundEffects", plain := [], called := [] }

def airports : Scope :=
  { name := "Airports", plain := airport, called := airportCalled, persistentStorage := true }

def objects : Scope :=
  { name := "Objects", plain := object, called := objectCalled }

def railTypes : Scope :=
  { name := "RailTypes", plain := railType, called := [] }

def airportTiles : Scope :=
  { name := "AirportTiles", plain := airportTile, called := airportTileCalled }

def roadTypes : Scope :=
  { name := "RoadTypes", plain := roadType, called := [] }

def tramTypes : Scope :=
  { name := "TramTypes", plain := tramType, called := [] }

def roadStops : Scope :=
  { name := "RoadStops", plain := roadStop, called := roadStopCalled }

def ofFeature? : Int → Option (Scope × Option Scope)
  | 0x00 => some (trains, some trains)
  | 0x01 => some (roadVehicles, some roadVehicles)
  | 0x02 => some (ships, some ships)
  | 0x03 => some (aircraft, some aircraft)
  | 0x04 => some (stations, some towns)
  | 0x05 => some (canals, none)
  | 0x07 => some (houses, some towns)
  | 0x09 => some (industryTiles, some industries)
  | 0x0A => some (industries, some towns)
  | 0x0B => some (cargos, none)
  | 0x0C => some (soundEffects, none)
  | 0x0D => some (airports, some towns)
  | 0x0F => some (objects, some towns)
  | 0x10 => some (railTypes, none)
  | 0x11 => some (airportTiles, some airports)
  | 0x12 => some (roadTypes, none)
  | 0x13 => some (tramTypes, none)
  | 0x14 => some (roadStops, some towns)
  | _ => none

end Scope

end NewGrf.Variable
