/-!
# Names of nature and life

The pictographs from U+1F300 to U+1F4FF: weather, plants, food and festivities up to U+1F3FF, then
animals, people and belongings.
-/

namespace CodeConventions.Console.Pictograph

/-- The names of weather, plants, food and festivities with their characters. -/
def nature : Array (String × List Nat) := #[
  ("cyclone", [0x1F300]), ("foggy", [0x1F301]), ("closed_umbrella", [0x1F302]),
  ("night_with_stars", [0x1F303]), ("sunrise_over_mountains", [0x1F304]), ("sunrise", [0x1F305]),
  ("city_sunset", [0x1F306]), ("cityscape_at_dusk", [0x1F306]), ("city_sunrise", [0x1F307]),
  ("sunset", [0x1F307]), ("rainbow", [0x1F308]), ("bridge_at_night", [0x1F309]),
  ("ocean", [0x1F30A]), ("water_wave", [0x1F30A]), ("volcano", [0x1F30B]), ("milky_way", [0x1F30C]),
  ("earth_africa", [0x1F30D]), ("globe_showing_europe-africa", [0x1F30D]),
  ("earth_americas", [0x1F30E]), ("globe_showing_americas", [0x1F30E]), ("earth_asia", [0x1F30F]),
  ("globe_showing_asia-australia", [0x1F30F]), ("globe_with_meridians", [0x1F310]),
  ("new_moon", [0x1F311]), ("waxing_crescent_moon", [0x1F312]), ("first_quarter_moon", [0x1F313]),
  ("moon", [0x1F314]), ("waxing_gibbous_moon", [0x1F314]), ("full_moon", [0x1F315]),
  ("waning_gibbous_moon", [0x1F316]), ("last_quarter_moon", [0x1F317]),
  ("waning_crescent_moon", [0x1F318]), ("crescent_moon", [0x1F319]), ("new_moon_face", [0x1F31A]),
  ("new_moon_with_face", [0x1F31A]), ("first_quarter_moon_face", [0x1F31B]),
  ("first_quarter_moon_with_face", [0x1F31B]), ("last_quarter_moon_face", [0x1F31C]),
  ("last_quarter_moon_with_face", [0x1F31C]), ("full_moon_face", [0x1F31D]),
  ("full_moon_with_face", [0x1F31D]), ("sun_with_face", [0x1F31E]), ("glowing_star", [0x1F31F]),
  ("star2", [0x1F31F]), ("shooting_star", [0x1F320]), ("stars", [0x1F320]),
  ("thermometer", [0x1F321]), ("sun_behind_small_cloud", [0x1F324]),
  ("white_sun_with_small_cloud", [0x1F324]), ("sun_behind_large_cloud", [0x1F325]),
  ("white_sun_behind_cloud", [0x1F325]), ("sun_behind_rain_cloud", [0x1F326]),
  ("white_sun_behind_cloud_with_rain", [0x1F326]), ("cloud_with_rain", [0x1F327]),
  ("cloud_with_snow", [0x1F328]), ("cloud_with_lightning", [0x1F329]),
  ("cloud_with_tornado", [0x1F32A]), ("tornado", [0x1F32A]), ("fog", [0x1F32B]),
  ("wind_blowing_face", [0x1F32C]), ("wind_face", [0x1F32C]), ("hot_dog", [0x1F32D]),
  ("taco", [0x1F32E]), ("burrito", [0x1F32F]), ("chestnut", [0x1F330]), ("seedling", [0x1F331]),
  ("evergreen_tree", [0x1F332]), ("deciduous_tree", [0x1F333]), ("palm_tree", [0x1F334]),
  ("cactus", [0x1F335]), ("hot_pepper", [0x1F336]), ("tulip", [0x1F337]),
  ("cherry_blossom", [0x1F338]), ("rose", [0x1F339]), ("hibiscus", [0x1F33A]),
  ("sunflower", [0x1F33B]), ("blossom", [0x1F33C]), ("corn", [0x1F33D]), ("ear_of_corn", [0x1F33D]),
  ("ear_of_rice", [0x1F33E]), ("sheaf_of_rice", [0x1F33E]), ("herb", [0x1F33F]),
  ("four_leaf_clover", [0x1F340]), ("maple_leaf", [0x1F341]), ("fallen_leaf", [0x1F342]),
  ("leaf_fluttering_in_wind", [0x1F343]), ("leaves", [0x1F343]), ("mushroom", [0x1F344]),
  ("tomato", [0x1F345]), ("eggplant", [0x1F346]), ("grapes", [0x1F347]), ("melon", [0x1F348]),
  ("watermelon", [0x1F349]), ("tangerine", [0x1F34A]), ("lemon", [0x1F34B]), ("banana", [0x1F34C]),
  ("pineapple", [0x1F34D]), ("apple", [0x1F34E]), ("red_apple", [0x1F34E]),
  ("green_apple", [0x1F34F]), ("pear", [0x1F350]), ("peach", [0x1F351]), ("cherries", [0x1F352]),
  ("strawberry", [0x1F353]), ("hamburger", [0x1F354]), ("pizza", [0x1F355]),
  ("meat_on_bone", [0x1F356]), ("poultry_leg", [0x1F357]), ("rice_cracker", [0x1F358]),
  ("rice_ball", [0x1F359]), ("cooked_rice", [0x1F35A]), ("rice", [0x1F35A]), ("curry", [0x1F35B]),
  ("curry_rice", [0x1F35B]), ("ramen", [0x1F35C]), ("steaming_bowl", [0x1F35C]),
  ("spaghetti", [0x1F35D]), ("bread", [0x1F35E]), ("french_fries", [0x1F35F]), ("fries", [0x1F35F]),
  ("roasted_sweet_potato", [0x1F360]), ("sweet_potato", [0x1F360]), ("dango", [0x1F361]),
  ("oden", [0x1F362]), ("sushi", [0x1F363]), ("fried_shrimp", [0x1F364]), ("fish_cake", [0x1F365]),
  ("fish_cake_with_swirl", [0x1F365]), ("icecream", [0x1F366]), ("soft_ice_cream", [0x1F366]),
  ("shaved_ice", [0x1F367]), ("ice_cream", [0x1F368]), ("doughnut", [0x1F369]),
  ("cookie", [0x1F36A]), ("chocolate_bar", [0x1F36B]), ("candy", [0x1F36C]),
  ("lollipop", [0x1F36D]), ("custard", [0x1F36E]), ("honey_pot", [0x1F36F]), ("cake", [0x1F370]),
  ("shortcake", [0x1F370]), ("bento", [0x1F371]), ("bento_box", [0x1F371]),
  ("pot_of_food", [0x1F372]), ("stew", [0x1F372]), ("cooking", [0x1F373]), ("egg", [0x1F373]),
  ("fork_and_knife", [0x1F374]), ("tea", [0x1F375]), ("teacup_without_handle", [0x1F375]),
  ("sake", [0x1F376]), ("wine_glass", [0x1F377]), ("cocktail", [0x1F378]),
  ("cocktail_glass", [0x1F378]), ("tropical_drink", [0x1F379]), ("beer", [0x1F37A]),
  ("beer_mug", [0x1F37A]), ("beers", [0x1F37B]), ("clinking_beer_mugs", [0x1F37B]),
  ("baby_bottle", [0x1F37C]), ("fork_and_knife_with_plate", [0x1F37D]),
  ("bottle_with_popping_cork", [0x1F37E]), ("popcorn", [0x1F37F]), ("ribbon", [0x1F380]),
  ("gift", [0x1F381]), ("wrapped_gift", [0x1F381]), ("birthday", [0x1F382]),
  ("birthday_cake", [0x1F382]), ("jack-o-lantern", [0x1F383]), ("jack_o_lantern", [0x1F383]),
  ("christmas_tree", [0x1F384]), ("santa", [0x1F385]), ("fireworks", [0x1F386]),
  ("sparkler", [0x1F387]), ("balloon", [0x1F388]), ("party_popper", [0x1F389]), ("tada", [0x1F389]),
  ("confetti_ball", [0x1F38A]), ("tanabata_tree", [0x1F38B]), ("crossed_flags", [0x1F38C]),
  ("bamboo", [0x1F38D]), ("pine_decoration", [0x1F38D]), ("dolls", [0x1F38E]),
  ("japanese_dolls", [0x1F38E]), ("carp_streamer", [0x1F38F]), ("flags", [0x1F38F]),
  ("wind_chime", [0x1F390]), ("moon_viewing_ceremony", [0x1F391]), ("rice_scene", [0x1F391]),
  ("school_backpack", [0x1F392]), ("school_satchel", [0x1F392]), ("graduation_cap", [0x1F393]),
  ("mortar_board", [0x1F393]), ("military_medal", [0x1F396]), ("reminder_ribbon", [0x1F397]),
  ("studio_microphone", [0x1F399]), ("level_slider", [0x1F39A]), ("control_knobs", [0x1F39B]),
  ("film_frames", [0x1F39E]), ("admission_tickets", [0x1F39F]), ("carousel_horse", [0x1F3A0]),
  ("ferris_wheel", [0x1F3A1]), ("roller_coaster", [0x1F3A2]), ("fishing_pole", [0x1F3A3]),
  ("fishing_pole_and_fish", [0x1F3A3]), ("microphone", [0x1F3A4]), ("movie_camera", [0x1F3A5]),
  ("cinema", [0x1F3A6]), ("headphone", [0x1F3A7]), ("headphones", [0x1F3A7]), ("art", [0x1F3A8]),
  ("artist_palette", [0x1F3A8]), ("top_hat", [0x1F3A9]), ("tophat", [0x1F3A9]),
  ("circus_tent", [0x1F3AA]), ("ticket", [0x1F3AB]), ("clapper", [0x1F3AC]),
  ("clapper_board", [0x1F3AC]), ("performing_arts", [0x1F3AD]), ("video_game", [0x1F3AE]),
  ("dart", [0x1F3AF]), ("direct_hit", [0x1F3AF]), ("slot_machine", [0x1F3B0]), ("8ball", [0x1F3B1]),
  ("pool_8_ball", [0x1F3B1]), ("game_die", [0x1F3B2]), ("bowling", [0x1F3B3]),
  ("flower_playing_cards", [0x1F3B4]), ("musical_note", [0x1F3B5]), ("musical_notes", [0x1F3B6]),
  ("notes", [0x1F3B6]), ("saxophone", [0x1F3B7]), ("guitar", [0x1F3B8]),
  ("musical_keyboard", [0x1F3B9]), ("trumpet", [0x1F3BA]), ("violin", [0x1F3BB]),
  ("musical_score", [0x1F3BC]), ("running_shirt", [0x1F3BD]),
  ("running_shirt_with_sash", [0x1F3BD]), ("tennis", [0x1F3BE]), ("ski", [0x1F3BF]),
  ("skis", [0x1F3BF]), ("basketball", [0x1F3C0]), ("checkered_flag", [0x1F3C1]),
  ("chequered_flag", [0x1F3C1]), ("runner", [0x1F3C3]), ("running", [0x1F3C3]),
  ("surfer", [0x1F3C4]), ("sports_medal", [0x1F3C5]), ("trophy", [0x1F3C6]),
  ("american_football", [0x1F3C8]), ("football", [0x1F3C8]), ("rugby_football", [0x1F3C9]),
  ("swimmer", [0x1F3CA]), ("weight_lifter", [0x1F3CB]), ("golfer", [0x1F3CC]),
  ("motorcycle", [0x1F3CD]), ("racing_motorcycle", [0x1F3CD]), ("racing_car", [0x1F3CE]),
  ("cricket_bat_and_ball", [0x1F3CF]), ("cricket_game", [0x1F3CF]), ("volleyball", [0x1F3D0]),
  ("field_hockey", [0x1F3D1]), ("field_hockey_stick_and_ball", [0x1F3D1]),
  ("ice_hockey", [0x1F3D2]), ("ice_hockey_stick_and_puck", [0x1F3D2]), ("ping_pong", [0x1F3D3]),
  ("table_tennis_paddle_and_ball", [0x1F3D3]), ("snow-capped_mountain", [0x1F3D4]),
  ("snow_capped_mountain", [0x1F3D4]), ("camping", [0x1F3D5]), ("beach_with_umbrella", [0x1F3D6]),
  ("building_construction", [0x1F3D7]), ("house_buildings", [0x1F3D8]), ("houses", [0x1F3D8]),
  ("cityscape", [0x1F3D9]), ("derelict_house", [0x1F3DA]), ("derelict_house_building", [0x1F3DA]),
  ("classical_building", [0x1F3DB]), ("desert", [0x1F3DC]), ("desert_island", [0x1F3DD]),
  ("national_park", [0x1F3DE]), ("stadium", [0x1F3DF]), ("house", [0x1F3E0]),
  ("house_with_garden", [0x1F3E1]), ("office", [0x1F3E2]), ("office_building", [0x1F3E2]),
  ("japanese_post_office", [0x1F3E3]), ("post_office", [0x1F3E3]),
  ("european_post_office", [0x1F3E4]), ("hospital", [0x1F3E5]), ("bank", [0x1F3E6]),
  ("atm", [0x1F3E7]), ("atm_sign", [0x1F3E7]), ("hotel", [0x1F3E8]), ("love_hotel", [0x1F3E9]),
  ("convenience_store", [0x1F3EA]), ("school", [0x1F3EB]), ("department_store", [0x1F3EC]),
  ("factory", [0x1F3ED]), ("izakaya_lantern", [0x1F3EE]), ("lantern", [0x1F3EE]),
  ("red_paper_lantern", [0x1F3EE]), ("japanese_castle", [0x1F3EF]), ("castle", [0x1F3F0]),
  ("european_castle", [0x1F3F0]), ("waving_white_flag", [0x1F3F3]), ("white_flag", [0x1F3F3]),
  ("rainbow_flag", [0x1F3F3, 0xFE0F, 0x200D, 0x1F308]), ("black_flag", [0x1F3F4]),
  ("waving_black_flag", [0x1F3F4]), ("pirate_flag", [0x1F3F4, 0x200D, 0x2620, 0xFE0F]),
  ("england", [0x1F3F4, 0xE0067, 0xE0062, 0xE0065, 0xE006E, 0xE0067, 0xE007F]),
  ("scotland", [0x1F3F4, 0xE0067, 0xE0062, 0xE0073, 0xE0063, 0xE0074, 0xE007F]),
  ("wales", [0x1F3F4, 0xE0067, 0xE0062, 0xE0077, 0xE006C, 0xE0073, 0xE007F]),
  ("rosette", [0x1F3F5]), ("label", [0x1F3F7]), ("badminton", [0x1F3F8]),
  ("badminton_racquet_and_shuttlecock", [0x1F3F8]), ("bow_and_arrow", [0x1F3F9]),
  ("amphora", [0x1F3FA]), ("emoji_modifier_fitzpatrick_type__1__2", [0x1F3FB]),
  ("light_skin_tone", [0x1F3FB]), ("emoji_modifier_fitzpatrick_type__3", [0x1F3FC]),
  ("medium_light_skin_tone", [0x1F3FC]), ("emoji_modifier_fitzpatrick_type__4", [0x1F3FD]),
  ("medium_skin_tone", [0x1F3FD]), ("emoji_modifier_fitzpatrick_type__5", [0x1F3FE]),
  ("medium_dark_skin_tone", [0x1F3FE]), ("dark_skin_tone", [0x1F3FF]),
  ("emoji_modifier_fitzpatrick_type__6", [0x1F3FF])]

/-- The names of animals, people and belongings with their characters. -/
def life : Array (String × List Nat) := #[
  ("rat", [0x1F400]), ("mouse2", [0x1F401]), ("ox", [0x1F402]), ("water_buffalo", [0x1F403]),
  ("cow2", [0x1F404]), ("tiger2", [0x1F405]), ("leopard", [0x1F406]), ("rabbit2", [0x1F407]),
  ("cat2", [0x1F408]), ("dragon", [0x1F409]), ("crocodile", [0x1F40A]), ("whale2", [0x1F40B]),
  ("snail", [0x1F40C]), ("snake", [0x1F40D]), ("racehorse", [0x1F40E]), ("ram", [0x1F40F]),
  ("goat", [0x1F410]), ("ewe", [0x1F411]), ("sheep", [0x1F411]), ("monkey", [0x1F412]),
  ("rooster", [0x1F413]), ("chicken", [0x1F414]), ("dog2", [0x1F415]),
  ("service_dog", [0x1F415, 0x200D, 0x1F9BA]), ("pig2", [0x1F416]), ("boar", [0x1F417]),
  ("elephant", [0x1F418]), ("octopus", [0x1F419]), ("shell", [0x1F41A]),
  ("spiral_shell", [0x1F41A]), ("bug", [0x1F41B]), ("ant", [0x1F41C]), ("bee", [0x1F41D]),
  ("honeybee", [0x1F41D]), ("beetle", [0x1F41E]), ("lady_beetle", [0x1F41E]), ("fish", [0x1F41F]),
  ("tropical_fish", [0x1F420]), ("blowfish", [0x1F421]), ("turtle", [0x1F422]),
  ("hatching_chick", [0x1F423]), ("baby_chick", [0x1F424]), ("front-facing_baby_chick", [0x1F425]),
  ("hatched_chick", [0x1F425]), ("bird", [0x1F426]), ("penguin", [0x1F427]), ("koala", [0x1F428]),
  ("poodle", [0x1F429]), ("dromedary_camel", [0x1F42A]), ("camel", [0x1F42B]),
  ("two-hump_camel", [0x1F42B]), ("dolphin", [0x1F42C]), ("flipper", [0x1F42C]),
  ("mouse", [0x1F42D]), ("mouse_face", [0x1F42D]), ("cow", [0x1F42E]), ("cow_face", [0x1F42E]),
  ("tiger", [0x1F42F]), ("tiger_face", [0x1F42F]), ("rabbit", [0x1F430]),
  ("rabbit_face", [0x1F430]), ("cat", [0x1F431]), ("cat_face", [0x1F431]),
  ("dragon_face", [0x1F432]), ("spouting_whale", [0x1F433]), ("whale", [0x1F433]),
  ("horse", [0x1F434]), ("horse_face", [0x1F434]), ("monkey_face", [0x1F435]), ("dog", [0x1F436]),
  ("dog_face", [0x1F436]), ("pig", [0x1F437]), ("pig_face", [0x1F437]), ("frog", [0x1F438]),
  ("frog_face", [0x1F438]), ("hamster", [0x1F439]), ("hamster_face", [0x1F439]),
  ("wolf", [0x1F43A]), ("wolf_face", [0x1F43A]), ("bear", [0x1F43B]), ("bear_face", [0x1F43B]),
  ("panda_face", [0x1F43C]), ("pig_nose", [0x1F43D]), ("feet", [0x1F43E]),
  ("paw_prints", [0x1F43E]), ("chipmunk", [0x1F43F]), ("eyes", [0x1F440]), ("eye", [0x1F441]),
  ("eye_in_speech_bubble", [0x1F441, 0xFE0F, 0x200D, 0x1F5E8, 0xFE0F]), ("lips", [0x1F444]),
  ("mouth", [0x1F444]), ("tongue", [0x1F445]), ("point_up_2", [0x1F446]), ("point_down", [0x1F447]),
  ("point_left", [0x1F448]), ("point_right", [0x1F449]), ("facepunch", [0x1F44A]),
  ("punch", [0x1F44A]), ("wave", [0x1F44B]), ("+1", [0x1F44D]), ("thumbsup", [0x1F44D]),
  ("-1", [0x1F44E]), ("__1", [0x1F44E]), ("thumbsdown", [0x1F44E]), ("clap", [0x1F44F]),
  ("crown", [0x1F451]), ("womans_hat", [0x1F452]), ("woman’s_hat", [0x1F452]),
  ("eyeglasses", [0x1F453]), ("glasses", [0x1F453]), ("necktie", [0x1F454]), ("shirt", [0x1F455]),
  ("t-shirt", [0x1F455]), ("tshirt", [0x1F455]), ("jeans", [0x1F456]), ("dress", [0x1F457]),
  ("kimono", [0x1F458]), ("bikini", [0x1F459]), ("womans_clothes", [0x1F45A]),
  ("woman’s_clothes", [0x1F45A]), ("purse", [0x1F45B]), ("handbag", [0x1F45C]),
  ("clutch_bag", [0x1F45D]), ("pouch", [0x1F45D]), ("mans_shoe", [0x1F45E]),
  ("man’s_shoe", [0x1F45E]), ("shoe", [0x1F45E]), ("athletic_shoe", [0x1F45F]),
  ("running_shoe", [0x1F45F]), ("high-heeled_shoe", [0x1F460]), ("high_heel", [0x1F460]),
  ("sandal", [0x1F461]), ("woman’s_sandal", [0x1F461]), ("boot", [0x1F462]),
  ("woman’s_boot", [0x1F462]), ("footprints", [0x1F463]), ("bust_in_silhouette", [0x1F464]),
  ("busts_in_silhouette", [0x1F465]),
  ("couple_with_heart_man_man", [0x1F468, 0x200D, 0x2764, 0xFE0F, 0x200D, 0x1F468]),
  ("kiss_man_man", [0x1F468, 0x200D, 0x2764, 0xFE0F, 0x200D, 0x1F48B, 0x200D, 0x1F468]),
  ("family_man_boy", [0x1F468, 0x200D, 0x1F466]),
  ("family_man_boy_boy", [0x1F468, 0x200D, 0x1F466, 0x200D, 0x1F466]),
  ("family_man_girl", [0x1F468, 0x200D, 0x1F467]),
  ("family_man_girl_boy", [0x1F468, 0x200D, 0x1F467, 0x200D, 0x1F466]),
  ("family_man_girl_girl", [0x1F468, 0x200D, 0x1F467, 0x200D, 0x1F467]),
  ("family_man_man_boy", [0x1F468, 0x200D, 0x1F468, 0x200D, 0x1F466]),
  ("family_man_man_boy_boy", [0x1F468, 0x200D, 0x1F468, 0x200D, 0x1F466, 0x200D, 0x1F466]),
  ("family_man_man_girl", [0x1F468, 0x200D, 0x1F468, 0x200D, 0x1F467]),
  ("family_man_man_girl_boy", [0x1F468, 0x200D, 0x1F468, 0x200D, 0x1F467, 0x200D, 0x1F466]),
  ("family_man_man_girl_girl", [0x1F468, 0x200D, 0x1F468, 0x200D, 0x1F467, 0x200D, 0x1F467]),
  ("family_man_woman_boy", [0x1F468, 0x200D, 0x1F469, 0x200D, 0x1F466]),
  ("family_man_woman_boy_boy", [0x1F468, 0x200D, 0x1F469, 0x200D, 0x1F466, 0x200D, 0x1F466]),
  ("family_man_woman_girl", [0x1F468, 0x200D, 0x1F469, 0x200D, 0x1F467]),
  ("family_man_woman_girl_boy", [0x1F468, 0x200D, 0x1F469, 0x200D, 0x1F467, 0x200D, 0x1F466]),
  ("family_man_woman_girl_girl", [0x1F468, 0x200D, 0x1F469, 0x200D, 0x1F467, 0x200D, 0x1F467]),
  ("man_with_probing_cane", [0x1F468, 0x200D, 0x1F9AF]),
  ("red-haired_man", [0x1F468, 0x200D, 0x1F9B0]), ("curly-haired_man", [0x1F468, 0x200D, 0x1F9B1]),
  ("bald_man", [0x1F468, 0x200D, 0x1F9B2]), ("white-haired_man", [0x1F468, 0x200D, 0x1F9B3]),
  ("man_in_motorized_wheelchair", [0x1F468, 0x200D, 0x1F9BC]),
  ("man_in_manual_wheelchair", [0x1F468, 0x200D, 0x1F9BD]),
  ("couple_with_heart_woman_man", [0x1F469, 0x200D, 0x2764, 0xFE0F, 0x200D, 0x1F468]),
  ("couple_with_heart_woman_woman", [0x1F469, 0x200D, 0x2764, 0xFE0F, 0x200D, 0x1F469]),
  ("kiss_woman_man", [0x1F469, 0x200D, 0x2764, 0xFE0F, 0x200D, 0x1F48B, 0x200D, 0x1F468]),
  ("kiss_woman_woman", [0x1F469, 0x200D, 0x2764, 0xFE0F, 0x200D, 0x1F48B, 0x200D, 0x1F469]),
  ("family_woman_boy", [0x1F469, 0x200D, 0x1F466]),
  ("family_woman_boy_boy", [0x1F469, 0x200D, 0x1F466, 0x200D, 0x1F466]),
  ("family_woman_girl", [0x1F469, 0x200D, 0x1F467]),
  ("family_woman_girl_boy", [0x1F469, 0x200D, 0x1F467, 0x200D, 0x1F466]),
  ("family_woman_girl_girl", [0x1F469, 0x200D, 0x1F467, 0x200D, 0x1F467]),
  ("family_woman_woman_boy", [0x1F469, 0x200D, 0x1F469, 0x200D, 0x1F466]),
  ("family_woman_woman_boy_boy", [0x1F469, 0x200D, 0x1F469, 0x200D, 0x1F466, 0x200D, 0x1F466]),
  ("family_woman_woman_girl", [0x1F469, 0x200D, 0x1F469, 0x200D, 0x1F467]),
  ("family_woman_woman_girl_boy", [0x1F469, 0x200D, 0x1F469, 0x200D, 0x1F467, 0x200D, 0x1F466]),
  ("family_woman_woman_girl_girl", [0x1F469, 0x200D, 0x1F469, 0x200D, 0x1F467, 0x200D, 0x1F467]),
  ("woman_with_probing_cane", [0x1F469, 0x200D, 0x1F9AF]),
  ("red-haired_woman", [0x1F469, 0x200D, 0x1F9B0]),
  ("curly-haired_woman", [0x1F469, 0x200D, 0x1F9B1]), ("bald_woman", [0x1F469, 0x200D, 0x1F9B2]),
  ("white-haired_woman", [0x1F469, 0x200D, 0x1F9B3]),
  ("woman_in_motorized_wheelchair", [0x1F469, 0x200D, 0x1F9BC]),
  ("woman_in_manual_wheelchair", [0x1F469, 0x200D, 0x1F9BD]), ("family", [0x1F46A]),
  ("couple", [0x1F46B]), ("man_and_woman_holding_hands", [0x1F46B]),
  ("two_men_holding_hands", [0x1F46C]), ("two_women_holding_hands", [0x1F46D]), ("cop", [0x1F46E]),
  ("dancers", [0x1F46F]), ("people_with_bunny_ears", [0x1F46F]),
  ("women_with_bunny_ears", [0x1F46F, 0x200D, 0x2640, 0xFE0F]),
  ("men_with_bunny_ears", [0x1F46F, 0x200D, 0x2642, 0xFE0F]), ("person_with_blond_hair", [0x1F471]),
  ("man_with_gua_pi_mao", [0x1F472]), ("man_with_turban", [0x1F473]), ("older_man", [0x1F474]),
  ("older_woman", [0x1F475]), ("japanese_ogre", [0x1F479]), ("ogre", [0x1F479]),
  ("goblin", [0x1F47A]), ("japanese_goblin", [0x1F47A]), ("ghost", [0x1F47B]), ("angel", [0x1F47C]),
  ("alien", [0x1F47D]), ("alien_monster", [0x1F47E]), ("space_invader", [0x1F47E]),
  ("angry_face_with_horns", [0x1F47F]), ("imp", [0x1F47F]), ("skull", [0x1F480]),
  ("information_desk_person", [0x1F481]), ("guardsman", [0x1F482]), ("dancer", [0x1F483]),
  ("lipstick", [0x1F484]), ("nail_care", [0x1F485]), ("massage", [0x1F486]), ("haircut", [0x1F487]),
  ("barber", [0x1F488]), ("barber_pole", [0x1F488]), ("syringe", [0x1F489]), ("pill", [0x1F48A]),
  ("kiss", [0x1F48B]), ("kiss_mark", [0x1F48B]), ("love_letter", [0x1F48C]), ("ring", [0x1F48D]),
  ("gem", [0x1F48E]), ("gem_stone", [0x1F48E]), ("couplekiss", [0x1F48F]), ("bouquet", [0x1F490]),
  ("couple_with_heart", [0x1F491]), ("wedding", [0x1F492]), ("beating_heart", [0x1F493]),
  ("heartbeat", [0x1F493]), ("broken_heart", [0x1F494]), ("two_hearts", [0x1F495]),
  ("sparkling_heart", [0x1F496]), ("growing_heart", [0x1F497]), ("heartpulse", [0x1F497]),
  ("cupid", [0x1F498]), ("heart_with_arrow", [0x1F498]), ("blue_heart", [0x1F499]),
  ("green_heart", [0x1F49A]), ("yellow_heart", [0x1F49B]), ("purple_heart", [0x1F49C]),
  ("gift_heart", [0x1F49D]), ("heart_with_ribbon", [0x1F49D]), ("revolving_hearts", [0x1F49E]),
  ("heart_decoration", [0x1F49F]), ("diamond_shape_with_a_dot_inside", [0x1F4A0]),
  ("diamond_with_a_dot", [0x1F4A0]), ("bulb", [0x1F4A1]), ("light_bulb", [0x1F4A1]),
  ("anger", [0x1F4A2]), ("anger_symbol", [0x1F4A2]), ("bomb", [0x1F4A3]), ("zzz", [0x1F4A4]),
  ("boom", [0x1F4A5]), ("collision", [0x1F4A5]), ("sweat_droplets", [0x1F4A6]),
  ("sweat_drops", [0x1F4A6]), ("droplet", [0x1F4A7]), ("dash", [0x1F4A8]),
  ("dashing_away", [0x1F4A8]), ("hankey", [0x1F4A9]), ("pile_of_poo", [0x1F4A9]),
  ("poop", [0x1F4A9]), ("shit", [0x1F4A9]), ("muscle", [0x1F4AA]), ("dizzy", [0x1F4AB]),
  ("speech_balloon", [0x1F4AC]), ("thought_balloon", [0x1F4AD]), ("white_flower", [0x1F4AE]),
  ("100", [0x1F4AF]), ("hundred_points", [0x1F4AF]), ("money_bag", [0x1F4B0]),
  ("moneybag", [0x1F4B0]), ("currency_exchange", [0x1F4B1]), ("heavy_dollar_sign", [0x1F4B2]),
  ("credit_card", [0x1F4B3]), ("yen", [0x1F4B4]), ("yen_banknote", [0x1F4B4]),
  ("dollar", [0x1F4B5]), ("dollar_banknote", [0x1F4B5]), ("euro", [0x1F4B6]),
  ("euro_banknote", [0x1F4B6]), ("pound", [0x1F4B7]), ("pound_banknote", [0x1F4B7]),
  ("money_with_wings", [0x1F4B8]), ("chart", [0x1F4B9]), ("chart_increasing_with_yen", [0x1F4B9]),
  ("seat", [0x1F4BA]), ("computer", [0x1F4BB]), ("laptop_computer", [0x1F4BB]),
  ("briefcase", [0x1F4BC]), ("computer_disk", [0x1F4BD]), ("minidisc", [0x1F4BD]),
  ("floppy_disk", [0x1F4BE]), ("cd", [0x1F4BF]), ("optical_disk", [0x1F4BF]), ("dvd", [0x1F4C0]),
  ("file_folder", [0x1F4C1]), ("open_file_folder", [0x1F4C2]), ("page_with_curl", [0x1F4C3]),
  ("page_facing_up", [0x1F4C4]), ("date", [0x1F4C5]), ("calendar", [0x1F4C6]),
  ("tear-off_calendar", [0x1F4C6]), ("card_index", [0x1F4C7]), ("chart_increasing", [0x1F4C8]),
  ("chart_with_upwards_trend", [0x1F4C8]), ("chart_decreasing", [0x1F4C9]),
  ("chart_with_downwards_trend", [0x1F4C9]), ("bar_chart", [0x1F4CA]), ("clipboard", [0x1F4CB]),
  ("pushpin", [0x1F4CC]), ("round_pushpin", [0x1F4CD]), ("paperclip", [0x1F4CE]),
  ("straight_ruler", [0x1F4CF]), ("triangular_ruler", [0x1F4D0]), ("bookmark_tabs", [0x1F4D1]),
  ("ledger", [0x1F4D2]), ("notebook", [0x1F4D3]), ("notebook_with_decorative_cover", [0x1F4D4]),
  ("closed_book", [0x1F4D5]), ("book", [0x1F4D6]), ("open_book", [0x1F4D6]),
  ("green_book", [0x1F4D7]), ("blue_book", [0x1F4D8]), ("orange_book", [0x1F4D9]),
  ("books", [0x1F4DA]), ("name_badge", [0x1F4DB]), ("scroll", [0x1F4DC]), ("memo", [0x1F4DD]),
  ("pencil", [0x1F4DD]), ("telephone_receiver", [0x1F4DE]), ("pager", [0x1F4DF]),
  ("fax", [0x1F4E0]), ("fax_machine", [0x1F4E0]), ("satellite", [0x1F4E1]),
  ("satellite_antenna", [0x1F4E1]), ("loudspeaker", [0x1F4E2]), ("mega", [0x1F4E3]),
  ("megaphone", [0x1F4E3]), ("outbox_tray", [0x1F4E4]), ("inbox_tray", [0x1F4E5]),
  ("package", [0x1F4E6]), ("e-mail", [0x1F4E7]), ("e__mail", [0x1F4E7]),
  ("incoming_envelope", [0x1F4E8]), ("envelope_with_arrow", [0x1F4E9]),
  ("closed_mailbox_with_lowered_flag", [0x1F4EA]), ("mailbox_closed", [0x1F4EA]),
  ("closed_mailbox_with_raised_flag", [0x1F4EB]), ("mailbox", [0x1F4EB]),
  ("mailbox_with_mail", [0x1F4EC]), ("open_mailbox_with_raised_flag", [0x1F4EC]),
  ("mailbox_with_no_mail", [0x1F4ED]), ("open_mailbox_with_lowered_flag", [0x1F4ED]),
  ("postbox", [0x1F4EE]), ("postal_horn", [0x1F4EF]), ("newspaper", [0x1F4F0]),
  ("iphone", [0x1F4F1]), ("mobile_phone", [0x1F4F1]), ("calling", [0x1F4F2]),
  ("mobile_phone_with_arrow", [0x1F4F2]), ("vibration_mode", [0x1F4F3]),
  ("mobile_phone_off", [0x1F4F4]), ("no_mobile_phones", [0x1F4F5]), ("antenna_bars", [0x1F4F6]),
  ("signal_strength", [0x1F4F6]), ("camera", [0x1F4F7]), ("camera_with_flash", [0x1F4F8]),
  ("video_camera", [0x1F4F9]), ("television", [0x1F4FA]), ("tv", [0x1F4FA]), ("radio", [0x1F4FB]),
  ("vhs", [0x1F4FC]), ("videocassette", [0x1F4FC]), ("film_projector", [0x1F4FD]),
  ("prayer_beads", [0x1F4FF])]

end CodeConventions.Console.Pictograph
