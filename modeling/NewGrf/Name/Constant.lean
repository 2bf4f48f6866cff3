namespace NewGrf.Constant

private def under (stem : String) (rest : List (String × Int)) : List (String × Int) :=
  rest.map fun (name, value) => (stem ++ name, value)

private def count (stem : String) (first : Int) (rest : List String) : List (String × Int) :=
  rest.mapIdx fun i name => (stem ++ name, first + i)

private def numbers0 : List (String × Int) := List.flatten [
  under "CLIMATE_" [("TEMPERATE", 0), ("ARCTIC", 1), ("TROPIC", 2), ("TROPICAL", 2),
    ("TOYLAND", 3)],
  [("ABOVE_SNOWLINE", 11), ("NO_CLIMATE", 0), ("ALL_CLIMATES", 15), ("VEHICLE_NEVER_EXPIRES", 255),
    ("DEFAULT_CARGO_FIRST_REFITTABLE", 255)],
  count "CC_" 0 ["PASSENGERS", "MAIL", "EXPRESS", "ARMOURED", "BULK", "PIECE_GOODS", "LIQUID",
    "REFRIGERATED", "HAZARDOUS", "COVERED", "OVERSIZED", "POWDERIZED", "NON_POURABLE"],
  count "CC_" 12 ["NEO_BULK", "POTABLE", "NON_POTABLE", "SPECIAL"],
  [("NO_CARGO_CLASS", 0), ("ALL_NORMAL_CARGO_CLASSES", 0x7fff), ("ALL_CARGO_CLASSES", 0xffff)],
  under "ENGINE_CLASS_" [("STEAM", 0), ("DIESEL", 8), ("ELECTRIC", 40), ("MONORAIL", 50),
    ("MAGLEV", 56)],
  under "RUNNING_COST_" [("STEAM", 0x4c30), ("DIESEL", 0x4c36), ("ELECTRIC", 0x4c3c),
    ("ROADVEH", 0x4c48), ("NONE", 0)],
  under "VEHICLE_" [("LENGTH", 8)],
  under "VISUAL_EFFECT_" [("DEFAULT", 0), ("STEAM", 16), ("DIESEL", 32), ("ELECTRIC", 48),
    ("DISABLE", 64)],
  count "EFFECT_SPAWN_MODEL_" 64 ["NONE", "STEAM", "DIESEL", "ELECTRIC"],
  [("ENABLE_WAGON_POWER", 0), ("DISABLE_WAGON_POWER", 128)],
  under "EFFECT_SPRITE_" [("STEAM", 241), ("DIESEL", 242), ("ELECTRIC", 243),
    ("AIRCRAFT_BREAKDOWN_SMOKE", 250), ("NONE", 255)],
  under "CB_RESULT_CREATE_EFFECT_" [("CENTER", 0x2000), ("NO_ROTATION", 0x4000)],
  count "TRAIN_FLAG_" 0 ["TILT", "2CC", "MU", "FLIP", "AUTOREFIT"],
  count "TRAIN_FLAG_" 6 ["NO_BREAKDOWN_SMOKE", "SPRITE_STACK"],
  under "ROADVEH_FLAG_" [("TRAM", 0), ("2CC", 1), ("AUTOREFIT", 4), ("NO_BREAKDOWN_SMOKE", 6),
    ("SPRITE_STACK", 7)],
  under "SHIP_FLAG_" [("2CC", 1), ("AUTOREFIT", 4), ("NO_BREAKDOWN_SMOKE", 6), ("SPRITE_STACK", 7)],
  under "AIRCRAFT_FLAG_" [("2CC", 1), ("AUTOREFIT", 4), ("NO_BREAKDOWN_SMOKE", 6),
    ("SPRITE_STACK", 7)],
  under "VEHICLE_FLAG_" [("2CC", 1), ("AUTOREFIT", 4), ("NO_BREAKDOWN_SMOKE", 6),
    ("DISABLE_NEW_VEHICLE_MESSAGE", 0), ("DISABLE_EXCLUSIVE_PREVIEW", 1),
    ("SYNC_VARIANT_EXCLUSIVE_PREVIEW", 2), ("SYNC_VARIANT_RELIABILITY", 3)],
  under "WATERFEATURE_ALTERNATIVE_" [("SPRITES", 0)],
  count "WF_" 0 ["WATERCLIFFS", "LOCKS", "DIKES", "CANAL_GUI", "FLAT_DOCKS", "RIVER_SLOPE",
    "RIVERBANKS", "RIVER_GUI", "BUOY"],
  under "AI_FLAG_" [("PASSENGER", 1), ("CARGO", 0)],
  count "CB_RESULT_ATTACH_" 0x400 ["ALLOW_IF_RAILTYPES", "ALLOW", "DISALLOW"],
  under "CB_RESULT_" [("NO_MORE_ARTICULATED_PARTS", 0x7fff), ("REVERSED_VEHICLE", 0x4000),
    ("32_DAYS_TRIGGER", 0), ("32_DAYS_COLOUR_MAPPING", 1), ("COLOUR_MAPPING_ADD_CC", 0x4000),
    ("AUTOREFIT", 0x4000), ("REFIT_COST_MASK", 0x3fff), ("NO_SOUND", 0x7eff)],
  under "CB_FLAG_MORE_" [("SPRITES", 0x80000000)],
  count "SOUND_EVENT_" 1 ["START", "TUNNEL", "BREAKDOWN", "RUNNING", "TOUCHDOWN", "VISUAL_EFFECT",
    "RUNNING_16", "STOPPED", "LOAD_UNLOAD"],
  count "SOUND_" 0 ["CONSTRUCTION_WATER", "FACTORY", "DEPARTURE_STEAM", "TRAIN_THROUGH_TUNNEL",
    "DEPARTURE_CARGO_SHIP", "DEPARTURE_FERRY", "TAKEOFF_PROPELLER", "TAKEOFF_JET",
    "DEPARTURE_TRAIN", "MINE", "POWER_STATION", "STEAM", "LEVEL_CROSSING", "BREAKDOWN_ROADVEHICLE",
    "BREAKDOWN_TRAIN_SHIP", "CRASH", "EXPLOSION", "TRAIN_COLLISION", "CASHTILL", "BEEP",
    "NEWS_TICKER", "SKID_PLANE", "TAKEOFF_HELICOPTER"],
  count "SOUND_DEPARTURE_" 23 ["OLD_RV_1", "OLD_RV_2", "MODERN_BUS", "OLD_BUS"],
  count "SOUND_" 27 ["APPLAUSE", "NEW_ENGINE", "CONSTRUCTION_OTHER", "CONSTRUCTION_RAIL",
    "ROAD_WORKS", "CAR_HORN", "CAR_HORN_2", "FARM_1", "FARM_2", "FARM_3", "CONSTRUCTION_BRIDGE",
    "SAWMILL", "GOOD_YEAR", "BAD_YEAR", "SUGAR_MINE_2", "TOY_FACTORY_3", "TOY_FACTORY_2",
    "TOY_FACTORY_1", "SUGAR_MINE_1", "BUBBLE_GENERATOR", "BUBBLE_GENERATOR_FAIL", "TOFFEE_QUARRY",
    "BUBBLE_GENERATOR_SUCCESS", "POP_2", "PLASTIC_MINE", "ARCTIC_SNOW_1",
    "BREAKDOWN_ROADVEHICLE_TOYLAND", "LUMBER_MILL_3", "LUMBER_MILL_2", "LUMBER_MILL_1",
    "ARCTIC_SNOW_2", "BREAKDOWN_TRAIN_SHIP_TOYLAND", "TAKEOFF_JET_FAST", "DEPARTURE_BUS_TOYLAND_1",
    "TAKEOFF_JET_BIG", "DEPARTURE_BUS_TOYLAND_2", "DEPARTURE_TRUCK_TOYLAND_1",
    "DEPARTURE_TRUCK_TOYLAND_2", "DEPARTURE_MAGLEV", "RAINFOREST_1", "RAINFOREST_2", "RAINFOREST_3",
    "TAKEOFF_PROPELLER_TOYLAND_1", "TAKEOFF_PROPELLER_TOYLAND_2", "DEPARTURE_MONORAIL",
    "RAINFOREST_4"],
  under "SPRITE_ID_NEW_" [("TRAIN", 253), ("ROADVEH", 255), ("SHIP", 255), ("AIRCRAFT", 255)],
  under "NEW_CARGO_" [("SPRITE", 0xffff)],
  under "AIRCRAFT_TYPE_" [("HELICOPTER", 0), ("SMALL", 2), ("LARGE", 3)],
  under "GROUNDSPRITE_" [("RAIL_Y", 0x3f3), ("RAIL_X", 0x3f4), ("ROAD_Y", 0x534), ("ROAD_X", 0x535),
    ("CONCRETE", 0x58c), ("CLEARED", 0xf54), ("GRASS_1_3", 0xf67), ("GRASS_2_3", 0xf7a),
    ("GRASS_3_3", 0xf8d), ("GRASS", 0xf8d), ("NORMAL", 0xf8d), ("WATER", 0xfdd),
    ("SNOW_1_4", 0x118d), ("SNOW_2_4", 0x11a0), ("SNOW_3_4", 0x11b3), ("SNOW_4_4", 0x11c6),
    ("SNOW", 0x11c6), ("DESERT_1_2", 0x11a0), ("DESERT_2_2", 0x11c6), ("DESERT", 0x11c6)]]

private def numbers1 : List (String × Int) := List.flatten [
  under "CB_RANDOM_" [("TRIGGER", 1)],
  count "STAT_FLAG_" 1 ["DISTRIBUTED_CARGO", "RANDOM_ANIMATION", "CUSTOM_FOUNDATIONS",
    "EXTENDED_FOUNDATIONS"],
  count "STAT_TILE_" 0 ["PYLON", "NOWIRE", "BLOCKED"],
  [("STAT_ALL_TILES", 255), ("HOUSE_FLAG_NOT_SLOPED", 1)],
  count "HOUSE_FLAG_" 5 ["ANIMATE", "CHURCH", "STADIUM", "ONLY_SE", "PROTECTED", "SYNC_CALLBACK",
    "RANDOM_ANIMATION"],
  under "HOUSE_ACCEPT_" [("GOODS", 0), ("FOOD", 16), ("FIZZY_DRINKS", 16)],
  under "HOUSE_SIZE_" [("1X1", 0), ("2X1", 2), ("1X2", 3), ("2X2", 4)],
  count "HOUSE_TILE_" 0 ["NORTH", "EAST", "WEST", "SOUTH"],
  under "CB_RESULT_HOUSE_NO_MORE_" [("PRODUCTION", 0x20ff)],
  count "TOWNZONE_" 0 ["EDGE", "OUTSKIRT", "OUTER_SUBURB", "INNER_SUBURB", "CENTRE"],
  [("ALL_TOWNZONES", 31), ("INDTILE_FLAG_RANDOM_ANIMATION", 0), ("INDTILE_FLAG_ACCEPT_ALL", 1)],
  count "CB_RESULT_IND_PROD_" 0 ["NO_CHANGE", "HALF", "DOUBLE", "CLOSE", "RANDOM", "DIVIDE_BY_4",
    "DIVIDE_BY_8", "DIVIDE_BY_16", "DIVIDE_BY_32", "MULTIPLY_BY_4", "MULTIPLY_BY_8",
    "MULTIPLY_BY_16", "MULTIPLY_BY_32", "DECREMENT_BY_1", "INCREMENT_BY_1", "SET_BY_0x100"],
  under "CB_RESULT_" [("IND_DO_NOT_USE_SPECIAL", 0), ("IND_USE_SPECIAL", 1),
    ("IND_NO_CONSTRUCTION", 0), ("IND_PROBABILITY_FROM_PROPERTY", 0x100), ("NO_TEXT", 0x400),
    ("IND_NO_TEXT_NO_AMOUNT", 0x401), ("LOCATION_ALLOW", 0x400), ("LOCATION_DISALLOW", 0x401)],
  count "CB_RESULT_LOCATION_DISALLOW_" 0x402 ["ONLY_RAINFOREST", "ONLY_DESERT",
    "ONLY_ABOVE_SNOWLINE", "ONLY_BELOW_SNOWLINE", "NOT_ON_OPEN_SEA", "NOT_ON_CANAL",
    "NOT_ON_RIVER"],
  count "IND_FLAG_" 0 ["PLANT_FIELDS_PERIODICALLY", "CUT_TREES", "BUILT_ON_WATER",
    "ONLY_IN_LARGE_TOWNS", "ONLY_IN_TOWNS", "BUILT_NEAR_TOWN", "PLANT_FIELDS_WHEN_BUILT",
    "NO_PRODUCTION_INCREASE", "BUILT_ONLY_BEFORE_1950", "BUILT_ONLY_AFTER_1960",
    "AI_CREATES_AIR_AND_SHIP_ROUTES", "MILITARY_AIRPLANE_CAN_EXPLODE",
    "MILITARY_HELICOPTER_CAN_EXPLODE", "CAN_CAUSE_SUBSIDENCE", "AUTOMATIC_PRODUCTION_MULTIPLIER",
    "RANDOM_BITS_IN_PRODUCTION_CALLBACK", "DO_NOT_FORCE_INSTANCE_AT_MAP_GENERATION",
    "ALLOW_CLOSING_LAST_INSTANCE", "LONG_CARGO_TYPE_LISTS", "DO_NOT_CLAMP_PASSENGER_PRODUCTION"],
  [("IND_TYPE_OLD", 0), ("IND_TYPE_NEW", 1), ("FOUNDER_GAME", 16)],
  count "OBJ_FLAG_" 0 ["ONLY_SE", "IRREMOVABLE", "ANYTHING_REMOVE", "ON_WATER", "REMOVE_IS_INCOME",
    "NO_FOUNDATIONS", "ANIMATED", "ONLY_INGAME", "2CC", "NOT_ON_LAND", "DRAW_WATER", "ALLOW_BRIDGE",
    "RANDOM_ANIMATION", "SCALE_BY_WATER"],
  count "OBJECT_TYPE_" 0xfffe ["OTHER_GRF", "NO_OBJECT"],
  count "RAILTYPE_FLAG_" 0 ["CATENARY", "NO_LEVEL_CROSSING", "HIDDEN", "PRECOMBINED", "ALLOW_90DEG",
    "DISALLOW_90DEG"],
  count "ROADTYPE_FLAG_" 0 ["CATENARY", "NO_LEVEL_CROSSING", "NO_HOUSES", "HIDDEN", "TOWN_BUILD"],
  count "TRAMTYPE_FLAG_" 0 ["CATENARY", "NO_LEVEL_CROSSING", "NO_HOUSES", "HIDDEN", "TOWN_BUILD"],
  count "ROADTYPE_" 254 ["OTHER_GRF", "NO_ROAD"],
  count "TRAMTYPE_" 254 ["OTHER_GRF", "NO_TRAM"],
  count "RAILTYPE_" 254 ["OTHER_GRF", "NO_RAIL"],
  count "RAILTYPE_STATION_" 0 ["NORMAL", "MONORAIL", "MAGLEV"],
  under "TILETYPE_" [("NORMAL", 0), ("DESERT", 1), ("RAIN_FOREST", 2), ("SNOW", 4)],
  count "WATER_CLASS_" 0 ["NONE", "SEA", "CANAL", "RIVER"],
  under "LEVEL_CROSSING_" [("CLOSED", 1), ("OPEN", 0), ("NONE", 0)],
  count "ACC_MODEL_" 0 ["RAIL", "MONORAIL", "MAGLEV"],
  count "INDUSTRYTYPE_" 0 ["COAL_MINE", "POWER_PLANT", "SAWMILL", "FOREST", "OIL_REFINERY",
    "OIL_RIG", "TEMPERATE_FACTORY", "PRINTING_WORKS", "STEEL_MILL", "TEMPERATE_ARCTIC_FARM",
    "COPPER_ORE_MINE", "OIL_WELLS", "TEMPERATE_BANK", "FOOD_PROCESSING_PLANT", "PAPER_MILL",
    "GOLD_MINE", "TROPICAL_ARCTIC_BANK", "DIAMOND_MINE", "IRON_ORE_MINE", "FRUIT_PLANTATION",
    "RUBBER_PLANTATION", "WATER_WELL", "WATER_TOWER", "TROPICAL_FACTORY", "TROPICAL_FARM",
    "LUMBER_MILL", "CANDYFLOSS_FOREST", "SWEETS_FACTORY", "BATTERY_FARM", "COLA_WELLS", "TOY_SHOP",
    "TOY_FACTORY", "PLASTIC_FOUNTAIN", "FIZZY_DRINKS_FACTORY", "BUBBLE_GENERATOR", "TOFFE_QUARRY",
    "SUGAR_MINE"],
  count "INDUSTRYTYPE_" 254 ["UNKNOWN", "TOWN"],
  under "IND_LIFE_TYPE_" [("BLACK_HOLE", 0), ("EXTRACTIVE", 1), ("ORGANIC", 2), ("PROCESSING", 4)],
  count "TRAFFIC_SIDE_" 0 ["LEFT", "RIGHT"]]

private def numbers2 : List (String × Int) := List.flatten [
  count "PLATFORM_" 0 ["TTDPATCH", "OPENTTD"],
  count "PLAYERTYPE_" 0 ["HUMAN", "AI", "HUMAN_IN_AI", "AI_IN_HUMAN"],
  count "SEARCH_HOUSE_BY_" 0 ["TYPE", "CLASS", "GRFID"],
  count "BUILDTYPE_" 0 ["UNKNOWN", "GAMEPLAY", "GENERATION", "EDITOR"],
  count "IND_CREATION_" 0 ["GENERATION", "RANDOM", "FUND", "PROSPECT"],
  count "AIRPORTTYPE_" 0 ["SMALL", "LARGE", "HELIPORT", "OILRIG"],
  count "DIRECTION_" 0 ["NORTH", "NORTHEAST", "EAST", "SOUTHEAST", "SOUTH", "SOUTHWEST", "WEST",
    "NORTHWEST"],
  under "CANAL_DIRECTION_" [("NORTH", 7), ("NORTHEAST", 0), ("EAST", 4), ("SOUTHEAST", 1),
    ("SOUTH", 5), ("SOUTHWEST", 2), ("WEST", 6), ("NORTHWEST", 3)],
  count "CORNER_" 0 ["W", "S", "E", "N"],
  [("IS_STEEP_SLOPE", 4), ("SLOPE_FLAT", 0)],
  under "SLOPE_" [("W", 1), ("S", 2), ("E", 4), ("N", 8), ("NW", 9), ("SW", 3), ("SE", 6),
    ("NE", 12), ("EW", 5), ("NS", 10), ("NWS", 11), ("WSE", 7), ("SEN", 14), ("ENW", 13),
    ("STEEP_W", 27), ("STEEP_S", 23), ("STEEP_E", 30), ("STEEP_N", 29)],
  under "LOADING_STAGE_" [("INITIALIZE", 0), ("RESERVE", 0x101), ("ACTIVATE", 0x201),
    ("TEST", 0x401)],
  under "PALETTE_" [("DOS", 0), ("DEFAULT", 0), ("WIN", 1), ("LEGACY", 1)],
  count "GAMEMODE_" 0 ["MENU", "GAME", "EDITOR"],
  count "DIFFICULTY_" 0 ["EASY", "MEDIUM", "HARD", "CUSTOM"],
  under "DISPLAY_" [("TOWN_NAMES", 0), ("STATION_NAMES", 1), ("SIGNS", 2), ("ANIMATION", 3),
    ("FULL_DETAIL", 5)],
  count "MAP_TYPE_" 0 ["X_BIGGER", "SQUARE", "Y_BIGGER"],
  count "PLATFORM_SAME_" 0 ["STATION", "SECTION", "DIRECTION"],
  count "HAD_VEHICLE_OF_TYPE_" 0 ["TRAIN", "BUS", "TRUCK", "AIRCRAFT", "SHIP"],
  count "FACILITY_" 0 ["TRAIN", "TRUCK_STOP", "BUS_STOP", "AIRPORT", "DOCK"],
  under "TRIGGER_ALL_" [("NEEDED", 7)],
  count "TRIGGER_VEHICLE_" 0 ["NEW_LOAD", "SERVICE", "UNLOAD_ALL", "ANY_LOAD", "32_CALLBACK"],
  count "TRIGGER_STATION_" 0 ["NEW_CARGO", "NO_MORE_CARGO", "TRAIN_ARRIVES", "TRAIN_LEAVES",
    "TRAIN_LOADS_UNLOADS", "TRAIN_RESERVES"],
  count "TRIGGER_ROAD_STOP_" 0 ["NEW_CARGO", "NO_MORE_CARGO", "VEH_ARRIVES", "VEH_LEAVES",
    "VEH_LOADS_UNLOADS", "VEH_RESERVES"],
  count "TRIGGER_HOUSE_" 0 ["TILELOOP", "TOP_TILELOOP"],
  count "TRIGGER_INDUSTRYTILE_" 0 ["TILELOOP", "256_TICKS", "CARGO_DELIVERY"],
  count "TILE_CLASS_" 0 ["GROUND", "RAIL", "ROAD", "HOUSE", "TREES", "STATION", "WATER", "VOID",
    "INDUSTRY", "TUNNEL_BRIDGE", "OBJECTS"],
  count "LSF_CANNOT_LOWER_" 0 ["NW_EDGE", "NE_EDGE", "SW_EDGE", "SE_EDGE"],
  count "LSF_" 4 ["ONLY_ON_FLAT_LAND", "ALLOW_ON_WATER"],
  count "ANIM_TRIGGER_INDTILE_" 0 ["CONSTRUCTION_STATE", "TILE_LOOP", "INDUSTRY_LOOP",
    "RECEIVED_CARGO", "DISTRIBUTES_CARGO"],
  count "ANIM_TRIGGER_OBJ_" 0 ["BUILT", "TILELOOP", "256_TICKS"],
  count "ANIM_TRIGGER_APT_" 0 ["BUILT", "TILELOOP", "NEW_CARGO", "CARGO_TAKEN", "250_TICKS",
    "AIRPLANE_LANDS"],
  count "ANIM_TRIGGER_ROAD_STOP_" 0 ["BUILT", "NEW_CARGO", "CARGO_TAKEN", "VEH_ENTER", "VEH_LEAVE",
    "VEH_LOAD", "250_TICKS", "TILELOOP"]]

private def numbers3 : List (String × Int) := List.flatten [
  count "ANIM_TRIGGER_STAT_" 0 ["BUILT", "NEW_CARGO", "CARGO_TAKEN", "VEH_ENTER", "VEH_LEAVE",
    "VEH_LOAD", "250_TICKS", "TILELOOP", "TRAIN_RESERVES"],
  count "ANIMATION_" 0 ["NON_LOOPING", "LOOPING"],
  under "CB_RESULT_" [("STOP_ANIMATION", 255), ("START_ANIMATION", 254), ("NEXT_FRAME", 254),
    ("DO_NOTHING", 253), ("FOUNDATIONS", 1), ("NO_FOUNDATIONS", 0), ("AUTOSLOPE", 0),
    ("NO_AUTOSLOPE", 1)],
  count "RECOLOUR_" 0 ["NONE", "TRANSPARENT", "REMAP"],
  under "PALETTE_" [("USE_DEFAULT", 0), ("TILE_RED_PULSATING", 0x303), ("SEL_TILE_RED", 0x304),
    ("SEL_TILE_BLUE", 0x305), ("IDENTITY", 0x307), ("CC_FIRST", 0x307)],
  count "PALETTE_CC_" 0x307 ["DARK_BLUE", "PALE_GREEN", "PINK", "YELLOW", "RED", "LIGHT_BLUE",
    "GREEN", "DARK_GREEN", "BLUE", "CREAM", "MAUVE", "PURPLE", "ORANGE", "BROWN", "GREY", "WHITE"],
  under "PALETTE_BARE_" [("LAND", 0x317)],
  count "PALETTE_STRUCT_" 0x31b ["BLUE", "BROWN", "WHITE", "RED", "GREEN", "CONCRETE", "YELLOW"],
  count "PALETTE_" 0x322 ["TRANSPARENT", "STRUCT_GREY", "CRASH"],
  count "PALETTE_CHURCH_" 0x59e ["RED", "CREAM"],
  count "COLOUR_" 0 ["DARK_BLUE", "PALE_GREEN", "PINK", "YELLOW", "RED", "LIGHT_BLUE", "GREEN",
    "DARK_GREEN", "BLUE", "CREAM", "MAUVE", "PURPLE", "ORANGE", "BROWN", "GREY", "WHITE"],
  under "TOWNGROWTH_" [("PASSENGERS", 0), ("MAIL", 2), ("GOODS", 5), ("WATER", 9), ("FOOD", 11),
    ("NONE", 255)],
  under "TOWNPRODUCTION_" [("PASSENGERS", 0), ("MAIL", 2), ("NONE", 255)],
  count "CARGO_CB_" 1 ["PROFIT", "STATION_RATING"],
  count "CMP_" 0 ["LESS", "EQUAL", "GREATER"],
  count "TTD_STR_CARGO_PLURAL_" 14 ["NOTHING", "PASSENGERS", "COAL", "MAIL", "OIL", "LIVESTOCK",
    "GOODS", "GRAIN", "WOOD", "IRON_ORE", "STEEL", "VALUABLES", "COPPER_ORE", "MAIZE", "FRUIT",
    "DIAMONDS", "FOOD", "PAPER", "GOLD", "WATER", "WHEAT", "RUBBER", "SUGAR", "TOYS", "SWEETS",
    "COLA", "CANDYFLOSS", "BUBBLES", "TOFFEE", "BATTERIES", "PLASTIC", "FIZZY_DRINKS"],
  count "TTD_STR_CARGO_SINGULAR_" 46 ["NOTHING", "PASSENGER", "COAL", "MAIL", "OIL", "LIVESTOCK",
    "GOODS", "GRAIN", "WOOD", "IRON_ORE", "STEEL", "VALUABLES", "COPPER_ORE", "MAIZE", "FRUIT",
    "DIAMOND", "FOOD", "PAPER", "GOLD", "WATER", "WHEAT", "RUBBER", "SUGAR", "TOY", "SWEETS",
    "COLA", "CANDYFLOSS", "BUBBLE", "TOFFEE", "BATTERY", "PLASTIC", "FIZZY_DRINK"],
  count "TTD_STR_" 79 ["PASSENGERS", "TONS", "BAGS", "LITERS", "ITEMS", "CRATES"],
  count "TTD_STR_QUANTITY_" 110 ["NOTHING", "PASSENGERS", "COAL", "MAIL", "OIL", "LIVESTOCK",
    "GOODS", "GRAIN", "WOOD", "IRON_ORE", "STEEL", "VALUABLES", "COPPER_ORE", "MAIZE", "FRUIT",
    "DIAMONDS", "FOOD", "PAPER", "GOLD", "WATER", "WHEAT", "RUBBER", "SUGAR", "TOYS", "SWEETS",
    "COLA", "CANDYFLOSS", "BUBBLES", "TOFFEE", "BATTERIES", "PLASTIC", "FIZZY_DRINKS"],
  count "TTD_STR_ABBREV_" 142 ["NOTHING", "PASSENGERS", "COAL", "MAIL", "OIL", "LIVESTOCK", "GOODS",
    "GRAIN", "WOOD", "IRON_ORE", "STEEL", "VALUABLES", "COPPER_ORE", "MAIZE", "FRUIT", "DIAMONDS",
    "FOOD", "PAPER", "GOLD", "WATER", "WHEAT", "RUBBER", "SUGAR", "TOYS", "SWEETS", "COLA",
    "CANDYFLOSS", "BUBBLES", "TOFFEE", "BATTERIES", "PLASTIC", "FIZZY_DRINKS"],
  count "TTD_STR_TOWN_BUILDING_NAME_" 0x200f ["TALL_OFFICE_BLOCK_1", "OFFICE_BLOCK_1",
    "SMALL_BLOCK_OF_FLATS_1", "CHURCH_1", "LARGE_OFFICE_BLOCK_1", "TOWN_HOUSES_1", "HOTEL_1",
    "STATUE_1", "FOUNTAIN_1", "PARK_1", "OFFICE_BLOCK_2", "SHOPS_AND_OFFICES_1",
    "MODERN_OFFICE_BUILDING_1", "WAREHOUSE_1", "OFFICE_BLOCK_3", "STADIUM_1", "OLD_HOUSES_1"],
  count "TTD_STR_TOWN_BUILDING_NAME_" 0x2036 ["COTTAGES_1", "HOUSES_1", "FLATS_1",
    "TALL_OFFICE_BLOCK_2", "SHOPS_AND_OFFICES_2", "SHOPS_AND_OFFICES_3", "THEATER_1", "STADIUM_2",
    "OFFICES_1", "HOUSES_2", "CINEMA_1", "SHOPPING_MALL_1"],
  count "TTD_STR_TOWN_BUILDING_NAME_" 0x2059 ["IGLOO_1", "TEPEES_1", "TEAPOT_HOUSE_1",
    "PIGGY_BANK_1"],
  count "TTD_STR_INDUSTRY_NAME_" 0x4802 ["COAL_MINE", "POWER_STATION", "SAWMILL", "FOREST",
    "OIL_REFINERY", "OIL_RIG", "FACTORY", "PRINTING_WORKS", "STEEL_MILL", "FARM", "COPPER_ORE_MINE",
    "OIL_WELLS", "BANK", "FOOD_PROCESSING_PLANT", "PAPER_MILL", "GOLD_MINE", "BANK_TROPIC_ARCTIC",
    "DIAMOND_MINE", "IRON_ORE_MINE", "FRUIT_PLANTATION", "RUBBER_PLANTATION", "WATER_SUPPLY",
    "WATER_TOWER", "FACTORY_2", "FARM_2", "LUMBER_MILL", "COTTON_CANDY_FOREST", "CANDY_FACTORY",
    "BATTERY_FARM", "COLA_WELLS", "TOY_SHOP", "TOY_FACTORY", "PLASTIC_FOUNTAINS",
    "FIZZY_DRINK_FACTORY", "BUBBLE_GENERATOR", "TOFFEE_QUARRY", "SUGAR_MINE"],
  count "TTD_STR_NEWS_INDUSTRY_" 0x482d ["CONSTRUCTION", "PLANTED"],
  count "TTD_STR_NEWS_INDUSTRY_CLOSURE_" 0x4832 ["GENERAL", "SUPPLY_PROBLEMS", "LACK_OF_TREES"],
  count "TTD_STR_NEWS_INDUSTRY_PRODUCTION_" 0x4835 ["INCREASE_GENERAL", "INCREASE_COAL",
    "INCREASE_OIL", "INCREASE_FARM", "DECREASE_GENERAL", "DECREASE_FARM"],
  under "TTD_STR_ERROR_" [("CAN_T_CONSTRUCT_THIS_INDUSTRY", 0x4830),
    ("FOREST_CAN_ONLY_BE_PLANTED", 0x4831), ("CAN_ONLY_BE_POSITIONED", 0x483b)],
  count "RST_AVAILABILITY_TYPE_" 0 ["PASSENGER", "FREIGHT", "ALL"],
  count "RST_TYPE_" 0 ["BUS", "TRUCK", "WAYPOINT"],
  count "RST_DRAW_FLAG_" 0 ["BAY_ROAD", "DRIVE_THROUGH_ROAD_OVERLAY", "WAYPOINT_GROUND"],
  under "RST_GENERAL_FLAG_" [("RANDOM_ANIMATION", 0), ("NO_CATENARY", 2), ("DRIVE_THROUGH_ONLY", 3),
    ("NO_AUTO_ROAD_CONNECTION", 4), ("BUILD_MENU_ROAD_ONLY", 5), ("BUILD_MENU_TRAM_ONLY", 6),
    ("DRAW_MODE_REGISTER", 8)],
  count "RST_VIEW_" 0 ["BAY_NE", "BAY_SE", "BAY_SW", "BAY_NW", "DRIVE_THROUGH_X",
    "DRIVE_THROUGH_Y"]]

def numbers : List (String × Int) := numbers0 ++ numbers1 ++ numbers2 ++ numbers3

private def renamed (stem newStem : String) (names : List (String × String)) :
    List (String × String) :=
  names.map fun (name, newName) => (stem ++ name, newStem ++ newName)

/-- Deprecated names and the constants to use in their place. -/
def aliases : List (String × String) := List.flatten [
  renamed "SOUND_" "SOUND_" [("SPLAT", "CONSTRUCTION_WATER"), ("FACTORY_WHISTLE", "FACTORY"),
    ("TRAIN", "DEPARTURE_STEAM"), ("SHIP_HORN", "DEPARTURE_CARGO_SHIP"),
    ("FERRY_HORN", "DEPARTURE_FERRY"), ("PLANE_TAKE_OFF", "TAKEOFF_PROPELLER"),
    ("JET", "TAKEOFF_JET"), ("TRAIN_HORN", "DEPARTURE_TRAIN"), ("MINING_MACHINERY", "MINE"),
    ("ELECTRIC_SPARK", "POWER_STATION"), ("VEHICLE_BREAKDOWN", "BREAKDOWN_ROADVEHICLE"),
    ("TRAIN_BREAKDOWN", "BREAKDOWN_TRAIN_SHIP"), ("BIG_CRASH", "TRAIN_COLLISION"),
    ("MORSE", "NEWS_TICKER"), ("HELICOPTER", "TAKEOFF_HELICOPTER"),
    ("BUS_START_PULL_AWAY", "DEPARTURE_OLD_RV_1"),
    ("BUS_START_PULL_AWAY_WITH_HORN", "DEPARTURE_OLD_RV_2"),
    ("TRUCK_START", "DEPARTURE_MODERN_BUS"), ("TRUCK_START_2", "DEPARTURE_OLD_BUS"),
    ("OOOOH", "NEW_ENGINE"), ("SPLAT_2", "CONSTRUCTION_OTHER"), ("SPLAT_3", "CONSTRUCTION_RAIL"),
    ("JACKHAMMER", "ROAD_WORKS"), ("SHEEP", "FARM_1"), ("COW", "FARM_2"), ("HORSE", "FARM_3"),
    ("BLACKSMITH_ANVIL", "CONSTRUCTION_BRIDGE"), ("RIP", "SUGAR_MINE_2"),
    ("EXTRACT_AND_POP", "TOY_FACTORY_3"), ("COMEDY_HIT", "TOY_FACTORY_2"),
    ("MACHINERY", "TOY_FACTORY_1"), ("RIP_2", "SUGAR_MINE_1"),
    ("EXTRACT_AND_POP_2", "BUBBLE_GENERATOR"), ("POP", "BUBBLE_GENERATOR_FAIL"),
    ("CARTOON_SOUND", "TOFFEE_QUARRY"), ("EXTRACT", "BUBBLE_GENERATOR_SUCCESS"),
    ("WIND", "ARCTIC_SNOW_1"), ("COMEDY_BREAKDOWN", "BREAKDOWN_ROADVEHICLE_TOYLAND"),
    ("CARTOON_CRASH", "LUMBER_MILL_3"), ("BALLOON_SQUEAK", "LUMBER_MILL_2"),
    ("CHAINSAW", "LUMBER_MILL_1"), ("HEAVY_WIND", "ARCTIC_SNOW_2"),
    ("COMEDY_BREAKDOWN_2", "BREAKDOWN_TRAIN_SHIP_TOYLAND"), ("JET_OVERHEAD", "TAKEOFF_JET_FAST"),
    ("COMEDY_CAR", "DEPARTURE_BUS_TOYLAND_1"), ("ANOTHER_JET_OVERHEAD", "TAKEOFF_JET_BIG"),
    ("COMEDY_CAR_2", "DEPARTURE_BUS_TOYLAND_2"), ("COMEDY_CAR_3", "DEPARTURE_TRUCK_TOYLAND_1"),
    ("COMEDY_CAR_START_AND_PULL_AWAY", "DEPARTURE_TRUCK_TOYLAND_2"), ("MAGLEV", "DEPARTURE_MAGLEV"),
    ("LOON_BIRD", "RAINFOREST_1"), ("LION", "RAINFOREST_2"), ("MONKEYS", "RAINFOREST_3"),
    ("PLANE_CRASHING", "TAKEOFF_PROPELLER_TOYLAND_1"),
    ("PLANE_ENGINE_SPUTTERING", "TAKEOFF_PROPELLER_TOYLAND_2"), ("MAGLEV_2", "DEPARTURE_MONORAIL"),
    ("DISTANT_BIRD", "RAINFOREST_4")],
  [("MAP_TYPE_RECTANGULAR", "MAP_TYPE_SQUARE")],
  renamed "OBJ_ANIM_" "ANIM_TRIGGER_OBJ_" [("IS_BUILT", "BUILT"), ("PERIODIC", "TILELOOP"),
    ("SYNC", "256_TICKS")],
  renamed "STAT_ANIM_" "ANIM_TRIGGER_STAT_" [("IS_BUILT", "BUILT"), ("CARGO_ARRIVES", "NEW_CARGO"),
    ("CARGO_REMOVED", "CARGO_TAKEN"), ("TRAIN_ENTERS", "VEH_ENTER"), ("TRAIN_LEAVES", "VEH_LEAVE"),
    ("TRAIN_LOAD_UNLOAD", "VEH_LOAD"), ("250_TICKS", "250_TICKS")],
  renamed "TTD_STR_CARGO_" "TTD_STR_CARGO_" [("PLURAL_CANDY", "PLURAL_SWEETS"),
    ("PLURAL_COTTON_CANDY", "PLURAL_CANDYFLOSS"), ("SINGULAR_CANDY", "SINGULAR_SWEETS"),
    ("SINGULAR_COTTON_CANDY", "SINGULAR_CANDYFLOSS")]]

end NewGrf.Constant
