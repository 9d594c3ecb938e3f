/-!
# Names of people and faces

The people, hands and other parts of the body that are shown in five skin tones besides the plain
form, and the pictographs from U+1F600 to U+1F6FF, which are faces and what moves.
-/

namespace CodeConventions.Console.Pictograph

/-- The names of people and parts of the body with the characters of their plain form. -/
def persons : Array (String × List Nat) := #[
  ("index_pointing_up", [0x261D]), ("person_bouncing_ball", [0x26F9]),
  ("woman_bouncing_ball", [0x26F9, 0xFE0F, 0x200D, 0x2640, 0xFE0F]),
  ("man_bouncing_ball", [0x26F9, 0xFE0F, 0x200D, 0x2642, 0xFE0F]), ("raised_fist", [0x270A]),
  ("raised_hand", [0x270B]), ("victory_hand", [0x270C]), ("writing_hand", [0x270D]),
  ("santa_claus", [0x1F385]), ("snowboarder", [0x1F3C2]), ("person_running", [0x1F3C3]),
  ("woman_running", [0x1F3C3, 0x200D, 0x2640, 0xFE0F]),
  ("man_running", [0x1F3C3, 0x200D, 0x2642, 0xFE0F]), ("person_surfing", [0x1F3C4]),
  ("woman_surfing", [0x1F3C4, 0x200D, 0x2640, 0xFE0F]),
  ("man_surfing", [0x1F3C4, 0x200D, 0x2642, 0xFE0F]), ("horse_racing", [0x1F3C7]),
  ("person_swimming", [0x1F3CA]), ("woman_swimming", [0x1F3CA, 0x200D, 0x2640, 0xFE0F]),
  ("man_swimming", [0x1F3CA, 0x200D, 0x2642, 0xFE0F]), ("person_lifting_weights", [0x1F3CB]),
  ("woman_lifting_weights", [0x1F3CB, 0xFE0F, 0x200D, 0x2640, 0xFE0F]),
  ("man_lifting_weights", [0x1F3CB, 0xFE0F, 0x200D, 0x2642, 0xFE0F]), ("person_golfing", [0x1F3CC]),
  ("woman_golfing", [0x1F3CC, 0xFE0F, 0x200D, 0x2640, 0xFE0F]),
  ("man_golfing", [0x1F3CC, 0xFE0F, 0x200D, 0x2642, 0xFE0F]), ("ear", [0x1F442]),
  ("nose", [0x1F443]), ("backhand_index_pointing_up", [0x1F446]),
  ("backhand_index_pointing_down", [0x1F447]), ("backhand_index_pointing_left", [0x1F448]),
  ("backhand_index_pointing_right", [0x1F449]), ("oncoming_fist", [0x1F44A]),
  ("waving_hand", [0x1F44B]), ("ok_hand", [0x1F44C]), ("thumbs_up", [0x1F44D]),
  ("thumbs_down", [0x1F44E]), ("clapping_hands", [0x1F44F]), ("open_hands", [0x1F450]),
  ("boy", [0x1F466]), ("girl", [0x1F467]), ("man", [0x1F468]),
  ("man_health_worker", [0x1F468, 0x200D, 0x2695, 0xFE0F]),
  ("man_judge", [0x1F468, 0x200D, 0x2696, 0xFE0F]),
  ("man_pilot", [0x1F468, 0x200D, 0x2708, 0xFE0F]), ("man_farmer", [0x1F468, 0x200D, 0x1F33E]),
  ("man_cook", [0x1F468, 0x200D, 0x1F373]), ("man_student", [0x1F468, 0x200D, 0x1F393]),
  ("man_singer", [0x1F468, 0x200D, 0x1F3A4]), ("man_artist", [0x1F468, 0x200D, 0x1F3A8]),
  ("man_teacher", [0x1F468, 0x200D, 0x1F3EB]), ("man_factory_worker", [0x1F468, 0x200D, 0x1F3ED]),
  ("man_technologist", [0x1F468, 0x200D, 0x1F4BB]),
  ("man_office_worker", [0x1F468, 0x200D, 0x1F4BC]), ("man_mechanic", [0x1F468, 0x200D, 0x1F527]),
  ("man_scientist", [0x1F468, 0x200D, 0x1F52C]), ("man_astronaut", [0x1F468, 0x200D, 0x1F680]),
  ("man_firefighter", [0x1F468, 0x200D, 0x1F692]), ("woman", [0x1F469]),
  ("woman_health_worker", [0x1F469, 0x200D, 0x2695, 0xFE0F]),
  ("woman_judge", [0x1F469, 0x200D, 0x2696, 0xFE0F]),
  ("woman_pilot", [0x1F469, 0x200D, 0x2708, 0xFE0F]), ("woman_farmer", [0x1F469, 0x200D, 0x1F33E]),
  ("woman_cook", [0x1F469, 0x200D, 0x1F373]), ("woman_student", [0x1F469, 0x200D, 0x1F393]),
  ("woman_singer", [0x1F469, 0x200D, 0x1F3A4]), ("woman_artist", [0x1F469, 0x200D, 0x1F3A8]),
  ("woman_teacher", [0x1F469, 0x200D, 0x1F3EB]),
  ("woman_factory_worker", [0x1F469, 0x200D, 0x1F3ED]),
  ("woman_technologist", [0x1F469, 0x200D, 0x1F4BB]),
  ("woman_office_worker", [0x1F469, 0x200D, 0x1F4BC]),
  ("woman_mechanic", [0x1F469, 0x200D, 0x1F527]), ("woman_scientist", [0x1F469, 0x200D, 0x1F52C]),
  ("woman_astronaut", [0x1F469, 0x200D, 0x1F680]),
  ("woman_firefighter", [0x1F469, 0x200D, 0x1F692]), ("police_officer", [0x1F46E]),
  ("woman_police_officer", [0x1F46E, 0x200D, 0x2640, 0xFE0F]),
  ("man_police_officer", [0x1F46E, 0x200D, 0x2642, 0xFE0F]), ("bride_with_veil", [0x1F470]),
  ("blond-haired_person", [0x1F471]), ("blond-haired_woman", [0x1F471, 0x200D, 0x2640, 0xFE0F]),
  ("blond-haired_man", [0x1F471, 0x200D, 0x2642, 0xFE0F]), ("man_with_chinese_cap", [0x1F472]),
  ("person_wearing_turban", [0x1F473]), ("woman_wearing_turban", [0x1F473, 0x200D, 0x2640, 0xFE0F]),
  ("man_wearing_turban", [0x1F473, 0x200D, 0x2642, 0xFE0F]), ("old_man", [0x1F474]),
  ("old_woman", [0x1F475]), ("baby", [0x1F476]), ("construction_worker", [0x1F477]),
  ("woman_construction_worker", [0x1F477, 0x200D, 0x2640, 0xFE0F]),
  ("man_construction_worker", [0x1F477, 0x200D, 0x2642, 0xFE0F]), ("princess", [0x1F478]),
  ("baby_angel", [0x1F47C]), ("person_tipping_hand", [0x1F481]),
  ("woman_tipping_hand", [0x1F481, 0x200D, 0x2640, 0xFE0F]),
  ("man_tipping_hand", [0x1F481, 0x200D, 0x2642, 0xFE0F]), ("guard", [0x1F482]),
  ("woman_guard", [0x1F482, 0x200D, 0x2640, 0xFE0F]),
  ("man_guard", [0x1F482, 0x200D, 0x2642, 0xFE0F]), ("woman_dancing", [0x1F483]),
  ("nail_polish", [0x1F485]), ("person_getting_massage", [0x1F486]),
  ("woman_getting_massage", [0x1F486, 0x200D, 0x2640, 0xFE0F]),
  ("man_getting_massage", [0x1F486, 0x200D, 0x2642, 0xFE0F]), ("person_getting_haircut", [0x1F487]),
  ("woman_getting_haircut", [0x1F487, 0x200D, 0x2640, 0xFE0F]),
  ("man_getting_haircut", [0x1F487, 0x200D, 0x2642, 0xFE0F]), ("flexed_biceps", [0x1F4AA]),
  ("man_in_suit_levitating", [0x1F574]), ("detective", [0x1F575]),
  ("woman_detective", [0x1F575, 0xFE0F, 0x200D, 0x2640, 0xFE0F]),
  ("man_detective", [0x1F575, 0xFE0F, 0x200D, 0x2642, 0xFE0F]), ("man_dancing", [0x1F57A]),
  ("hand_with_fingers_splayed", [0x1F590]), ("middle_finger", [0x1F595]),
  ("vulcan_salute", [0x1F596]), ("person_gesturing_no", [0x1F645]),
  ("woman_gesturing_no", [0x1F645, 0x200D, 0x2640, 0xFE0F]),
  ("man_gesturing_no", [0x1F645, 0x200D, 0x2642, 0xFE0F]), ("person_gesturing_ok", [0x1F646]),
  ("woman_gesturing_ok", [0x1F646, 0x200D, 0x2640, 0xFE0F]),
  ("man_gesturing_ok", [0x1F646, 0x200D, 0x2642, 0xFE0F]), ("person_bowing", [0x1F647]),
  ("woman_bowing", [0x1F647, 0x200D, 0x2640, 0xFE0F]),
  ("man_bowing", [0x1F647, 0x200D, 0x2642, 0xFE0F]), ("person_raising_hand", [0x1F64B]),
  ("woman_raising_hand", [0x1F64B, 0x200D, 0x2640, 0xFE0F]),
  ("man_raising_hand", [0x1F64B, 0x200D, 0x2642, 0xFE0F]), ("raising_hands", [0x1F64C]),
  ("person_frowning", [0x1F64D]), ("woman_frowning", [0x1F64D, 0x200D, 0x2640, 0xFE0F]),
  ("man_frowning", [0x1F64D, 0x200D, 0x2642, 0xFE0F]), ("person_pouting", [0x1F64E]),
  ("woman_pouting", [0x1F64E, 0x200D, 0x2640, 0xFE0F]),
  ("man_pouting", [0x1F64E, 0x200D, 0x2642, 0xFE0F]), ("folded_hands", [0x1F64F]),
  ("person_rowing_boat", [0x1F6A3]), ("woman_rowing_boat", [0x1F6A3, 0x200D, 0x2640, 0xFE0F]),
  ("man_rowing_boat", [0x1F6A3, 0x200D, 0x2642, 0xFE0F]), ("person_biking", [0x1F6B4]),
  ("woman_biking", [0x1F6B4, 0x200D, 0x2640, 0xFE0F]),
  ("man_biking", [0x1F6B4, 0x200D, 0x2642, 0xFE0F]), ("person_mountain_biking", [0x1F6B5]),
  ("woman_mountain_biking", [0x1F6B5, 0x200D, 0x2640, 0xFE0F]),
  ("man_mountain_biking", [0x1F6B5, 0x200D, 0x2642, 0xFE0F]), ("person_walking", [0x1F6B6]),
  ("woman_walking", [0x1F6B6, 0x200D, 0x2640, 0xFE0F]),
  ("man_walking", [0x1F6B6, 0x200D, 0x2642, 0xFE0F]), ("person_taking_bath", [0x1F6C0]),
  ("person_in_bed", [0x1F6CC]), ("sign_of_the_horns", [0x1F918]), ("call_me_hand", [0x1F919]),
  ("raised_back_of_hand", [0x1F91A]), ("left-facing_fist", [0x1F91B]),
  ("right-facing_fist", [0x1F91C]), ("crossed_fingers", [0x1F91E]), ("love-you_gesture", [0x1F91F]),
  ("person_facepalming", [0x1F926]), ("woman_facepalming", [0x1F926, 0x200D, 0x2640, 0xFE0F]),
  ("man_facepalming", [0x1F926, 0x200D, 0x2642, 0xFE0F]), ("pregnant_woman", [0x1F930]),
  ("breast-feeding", [0x1F931]), ("palms_up_together", [0x1F932]), ("selfie", [0x1F933]),
  ("prince", [0x1F934]), ("man_in_tuxedo", [0x1F935]), ("mrs._claus", [0x1F936]),
  ("person_shrugging", [0x1F937]), ("woman_shrugging", [0x1F937, 0x200D, 0x2640, 0xFE0F]),
  ("man_shrugging", [0x1F937, 0x200D, 0x2642, 0xFE0F]), ("person_cartwheeling", [0x1F938]),
  ("woman_cartwheeling", [0x1F938, 0x200D, 0x2640, 0xFE0F]),
  ("man_cartwheeling", [0x1F938, 0x200D, 0x2642, 0xFE0F]), ("person_juggling", [0x1F939]),
  ("woman_juggling", [0x1F939, 0x200D, 0x2640, 0xFE0F]),
  ("man_juggling", [0x1F939, 0x200D, 0x2642, 0xFE0F]), ("person_playing_water_polo", [0x1F93D]),
  ("woman_playing_water_polo", [0x1F93D, 0x200D, 0x2640, 0xFE0F]),
  ("man_playing_water_polo", [0x1F93D, 0x200D, 0x2642, 0xFE0F]),
  ("person_playing_handball", [0x1F93E]),
  ("woman_playing_handball", [0x1F93E, 0x200D, 0x2640, 0xFE0F]),
  ("man_playing_handball", [0x1F93E, 0x200D, 0x2642, 0xFE0F]), ("adult", [0x1F9D1]),
  ("child", [0x1F9D2]), ("older_adult", [0x1F9D3]), ("bearded_person", [0x1F9D4]),
  ("woman_with_headscarf", [0x1F9D5]), ("person_in_steamy_room", [0x1F9D6]),
  ("woman_in_steamy_room", [0x1F9D6, 0x200D, 0x2640, 0xFE0F]),
  ("man_in_steamy_room", [0x1F9D6, 0x200D, 0x2642, 0xFE0F]), ("person_climbing", [0x1F9D7]),
  ("woman_climbing", [0x1F9D7, 0x200D, 0x2640, 0xFE0F]),
  ("man_climbing", [0x1F9D7, 0x200D, 0x2642, 0xFE0F]), ("person_in_lotus_position", [0x1F9D8]),
  ("woman_in_lotus_position", [0x1F9D8, 0x200D, 0x2640, 0xFE0F]),
  ("man_in_lotus_position", [0x1F9D8, 0x200D, 0x2642, 0xFE0F]), ("mage", [0x1F9D9]),
  ("woman_mage", [0x1F9D9, 0x200D, 0x2640, 0xFE0F]),
  ("man_mage", [0x1F9D9, 0x200D, 0x2642, 0xFE0F]), ("fairy", [0x1F9DA]),
  ("woman_fairy", [0x1F9DA, 0x200D, 0x2640, 0xFE0F]),
  ("man_fairy", [0x1F9DA, 0x200D, 0x2642, 0xFE0F]), ("vampire", [0x1F9DB]),
  ("woman_vampire", [0x1F9DB, 0x200D, 0x2640, 0xFE0F]),
  ("man_vampire", [0x1F9DB, 0x200D, 0x2642, 0xFE0F]), ("merperson", [0x1F9DC]),
  ("mermaid", [0x1F9DC, 0x200D, 0x2640, 0xFE0F]), ("merman", [0x1F9DC, 0x200D, 0x2642, 0xFE0F]),
  ("elf", [0x1F9DD]), ("woman_elf", [0x1F9DD, 0x200D, 0x2640, 0xFE0F]),
  ("man_elf", [0x1F9DD, 0x200D, 0x2642, 0xFE0F])]

/-- The names of faces and gestures with their characters. -/
def faces : Array (String × List Nat) := #[
  ("grinning", [0x1F600]), ("grinning_face", [0x1F600]),
  ("beaming_face_with_smiling_eyes", [0x1F601]), ("grin", [0x1F601]),
  ("face_with_tears_of_joy", [0x1F602]), ("joy", [0x1F602]),
  ("grinning_face_with_big_eyes", [0x1F603]), ("smiley", [0x1F603]),
  ("grinning_face_with_smiling_eyes", [0x1F604]), ("smile", [0x1F604]),
  ("grinning_face_with_sweat", [0x1F605]), ("sweat_smile", [0x1F605]),
  ("grinning_squinting_face", [0x1F606]), ("laughing", [0x1F606]), ("satisfied", [0x1F606]),
  ("innocent", [0x1F607]), ("smiling_face_with_halo", [0x1F607]),
  ("smiling_face_with_horns", [0x1F608]), ("smiling_imp", [0x1F608]), ("wink", [0x1F609]),
  ("winking_face", [0x1F609]), ("blush", [0x1F60A]), ("smiling_face_with_smiling_eyes", [0x1F60A]),
  ("face_savoring_food", [0x1F60B]), ("yum", [0x1F60B]), ("relieved", [0x1F60C]),
  ("relieved_face", [0x1F60C]), ("heart_eyes", [0x1F60D]),
  ("smiling_face_with_heart-eyes", [0x1F60D]), ("smiling_face_with_sunglasses", [0x1F60E]),
  ("sunglasses", [0x1F60E]), ("smirk", [0x1F60F]), ("smirking_face", [0x1F60F]),
  ("neutral_face", [0x1F610]), ("expressionless", [0x1F611]), ("expressionless_face", [0x1F611]),
  ("unamused", [0x1F612]), ("unamused_face", [0x1F612]), ("downcast_face_with_sweat", [0x1F613]),
  ("sweat", [0x1F613]), ("pensive", [0x1F614]), ("pensive_face", [0x1F614]),
  ("confused", [0x1F615]), ("confused_face", [0x1F615]), ("confounded", [0x1F616]),
  ("confounded_face", [0x1F616]), ("kissing", [0x1F617]), ("kissing_face", [0x1F617]),
  ("face_blowing_a_kiss", [0x1F618]), ("kissing_heart", [0x1F618]),
  ("kissing_face_with_smiling_eyes", [0x1F619]), ("kissing_smiling_eyes", [0x1F619]),
  ("kissing_closed_eyes", [0x1F61A]), ("kissing_face_with_closed_eyes", [0x1F61A]),
  ("face_with_tongue", [0x1F61B]), ("stuck_out_tongue", [0x1F61B]),
  ("stuck_out_tongue_winking_eye", [0x1F61C]), ("winking_face_with_tongue", [0x1F61C]),
  ("squinting_face_with_tongue", [0x1F61D]), ("stuck_out_tongue_closed_eyes", [0x1F61D]),
  ("disappointed", [0x1F61E]), ("disappointed_face", [0x1F61E]), ("worried", [0x1F61F]),
  ("worried_face", [0x1F61F]), ("angry", [0x1F620]), ("angry_face", [0x1F620]),
  ("pouting_face", [0x1F621]), ("rage", [0x1F621]), ("cry", [0x1F622]), ("crying_face", [0x1F622]),
  ("persevere", [0x1F623]), ("persevering_face", [0x1F623]),
  ("face_with_steam_from_nose", [0x1F624]), ("triumph", [0x1F624]),
  ("disappointed_relieved", [0x1F625]), ("sad_but_relieved_face", [0x1F625]),
  ("frowning", [0x1F626]), ("frowning_face_with_open_mouth", [0x1F626]), ("anguished", [0x1F627]),
  ("anguished_face", [0x1F627]), ("fearful", [0x1F628]), ("fearful_face", [0x1F628]),
  ("weary", [0x1F629]), ("weary_face", [0x1F629]), ("sleepy", [0x1F62A]),
  ("sleepy_face", [0x1F62A]), ("tired_face", [0x1F62B]), ("grimacing", [0x1F62C]),
  ("grimacing_face", [0x1F62C]), ("loudly_crying_face", [0x1F62D]), ("sob", [0x1F62D]),
  ("face_with_open_mouth", [0x1F62E]), ("open_mouth", [0x1F62E]), ("hushed", [0x1F62F]),
  ("hushed_face", [0x1F62F]), ("anxious_face_with_sweat", [0x1F630]), ("cold_sweat", [0x1F630]),
  ("face_screaming_in_fear", [0x1F631]), ("scream", [0x1F631]), ("astonished", [0x1F632]),
  ("astonished_face", [0x1F632]), ("flushed", [0x1F633]), ("flushed_face", [0x1F633]),
  ("sleeping", [0x1F634]), ("sleeping_face", [0x1F634]), ("dizzy_face", [0x1F635]),
  ("face_without_mouth", [0x1F636]), ("no_mouth", [0x1F636]), ("face_with_medical_mask", [0x1F637]),
  ("mask", [0x1F637]), ("grinning_cat_face_with_smiling_eyes", [0x1F638]), ("smile_cat", [0x1F638]),
  ("cat_face_with_tears_of_joy", [0x1F639]), ("joy_cat", [0x1F639]),
  ("grinning_cat_face", [0x1F63A]), ("smiley_cat", [0x1F63A]), ("heart_eyes_cat", [0x1F63B]),
  ("smiling_cat_face_with_heart-eyes", [0x1F63B]), ("cat_face_with_wry_smile", [0x1F63C]),
  ("smirk_cat", [0x1F63C]), ("kissing_cat", [0x1F63D]), ("kissing_cat_face", [0x1F63D]),
  ("pouting_cat", [0x1F63E]), ("pouting_cat_face", [0x1F63E]), ("crying_cat_face", [0x1F63F]),
  ("scream_cat", [0x1F640]), ("weary_cat_face", [0x1F640]), ("slightly_frowning_face", [0x1F641]),
  ("slightly_smiling_face", [0x1F642]), ("upside-down_face", [0x1F643]),
  ("upside__down_face", [0x1F643]), ("face_with_rolling_eyes", [0x1F644]), ("no_good", [0x1F645]),
  ("ok_woman", [0x1F646]), ("bow", [0x1F647]), ("see-no-evil_monkey", [0x1F648]),
  ("see_no_evil", [0x1F648]), ("hear-no-evil_monkey", [0x1F649]), ("hear_no_evil", [0x1F649]),
  ("speak-no-evil_monkey", [0x1F64A]), ("speak_no_evil", [0x1F64A]), ("raising_hand", [0x1F64B]),
  ("raised_hands", [0x1F64C]), ("person_with_pouting_face", [0x1F64E]), ("pray", [0x1F64F])]

/-- The names of vehicles and of signs on the way with their characters. -/
def vehicles : Array (String × List Nat) := #[
  ("rocket", [0x1F680]), ("helicopter", [0x1F681]), ("locomotive", [0x1F682]),
  ("steam_locomotive", [0x1F682]), ("railway_car", [0x1F683]), ("bullettrain_side", [0x1F684]),
  ("high-speed_train", [0x1F684]), ("bullet_train", [0x1F685]), ("bullettrain_front", [0x1F685]),
  ("train2", [0x1F686]), ("metro", [0x1F687]), ("light_rail", [0x1F688]), ("station", [0x1F689]),
  ("tram", [0x1F68A]), ("train", [0x1F68B]), ("tram_car", [0x1F68B]), ("bus", [0x1F68C]),
  ("oncoming_bus", [0x1F68D]), ("trolleybus", [0x1F68E]), ("bus_stop", [0x1F68F]),
  ("busstop", [0x1F68F]), ("minibus", [0x1F690]), ("ambulance", [0x1F691]),
  ("fire_engine", [0x1F692]), ("police_car", [0x1F693]), ("oncoming_police_car", [0x1F694]),
  ("taxi", [0x1F695]), ("oncoming_taxi", [0x1F696]), ("automobile", [0x1F697]), ("car", [0x1F697]),
  ("red_car", [0x1F697]), ("oncoming_automobile", [0x1F698]), ("blue_car", [0x1F699]),
  ("sport_utility_vehicle", [0x1F699]), ("delivery_truck", [0x1F69A]), ("truck", [0x1F69A]),
  ("articulated_lorry", [0x1F69B]), ("tractor", [0x1F69C]), ("monorail", [0x1F69D]),
  ("mountain_railway", [0x1F69E]), ("suspension_railway", [0x1F69F]),
  ("mountain_cableway", [0x1F6A0]), ("aerial_tramway", [0x1F6A1]), ("ship", [0x1F6A2]),
  ("rowboat", [0x1F6A3]), ("speedboat", [0x1F6A4]), ("horizontal_traffic_light", [0x1F6A5]),
  ("traffic_light", [0x1F6A5]), ("vertical_traffic_light", [0x1F6A6]), ("construction", [0x1F6A7]),
  ("police_car_light", [0x1F6A8]), ("rotating_light", [0x1F6A8]), ("triangular_flag", [0x1F6A9]),
  ("triangular_flag_on_post", [0x1F6A9]), ("door", [0x1F6AA]), ("no_entry_sign", [0x1F6AB]),
  ("prohibited", [0x1F6AB]), ("cigarette", [0x1F6AC]), ("smoking", [0x1F6AC]),
  ("no_smoking", [0x1F6AD]), ("litter_in_bin_sign", [0x1F6AE]),
  ("put_litter_in_its_place", [0x1F6AE]), ("do_not_litter", [0x1F6AF]), ("no_littering", [0x1F6AF]),
  ("potable_water", [0x1F6B0]), ("non-potable_water", [0x1F6B1]), ("non__potable_water", [0x1F6B1]),
  ("bicycle", [0x1F6B2]), ("bike", [0x1F6B2]), ("no_bicycles", [0x1F6B3]), ("bicyclist", [0x1F6B4]),
  ("mountain_bicyclist", [0x1F6B5]), ("walking", [0x1F6B6]), ("no_pedestrians", [0x1F6B7]),
  ("children_crossing", [0x1F6B8]), ("mens", [0x1F6B9]), ("men’s_room", [0x1F6B9]),
  ("womens", [0x1F6BA]), ("women’s_room", [0x1F6BA]), ("restroom", [0x1F6BB]),
  ("baby_symbol", [0x1F6BC]), ("toilet", [0x1F6BD]), ("water_closet", [0x1F6BE]), ("wc", [0x1F6BE]),
  ("shower", [0x1F6BF]), ("bath", [0x1F6C0]), ("bathtub", [0x1F6C1]),
  ("passport_control", [0x1F6C2]), ("customs", [0x1F6C3]), ("baggage_claim", [0x1F6C4]),
  ("left_luggage", [0x1F6C5]), ("couch_and_lamp", [0x1F6CB]), ("sleeping_accommodation", [0x1F6CC]),
  ("shopping_bags", [0x1F6CD]), ("bellhop_bell", [0x1F6CE]), ("bed", [0x1F6CF]),
  ("place_of_worship", [0x1F6D0]), ("stop_sign", [0x1F6D1]), ("shopping_cart", [0x1F6D2]),
  ("hindu_temple", [0x1F6D5]), ("hammer_and_wrench", [0x1F6E0]), ("shield", [0x1F6E1]),
  ("oil_drum", [0x1F6E2]), ("motorway", [0x1F6E3]), ("railway_track", [0x1F6E4]),
  ("motor_boat", [0x1F6E5]), ("small_airplane", [0x1F6E9]), ("airplane_departure", [0x1F6EB]),
  ("airplane_arrival", [0x1F6EC]), ("airplane_arriving", [0x1F6EC]), ("passenger_ship", [0x1F6F3]),
  ("kick_scooter", [0x1F6F4]), ("motor_scooter", [0x1F6F5]), ("canoe", [0x1F6F6]),
  ("sled", [0x1F6F7]), ("flying_saucer", [0x1F6F8]), ("skateboard", [0x1F6F9]),
  ("auto_rickshaw", [0x1F6FA])]

end CodeConventions.Console.Pictograph
