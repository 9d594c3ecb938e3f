/-!
# Names of symbols

The pictographs for symbols, and those of the supplement.
-/

namespace CodeConventions.Console.Pictograph

/-!
## Names of symbols and tools

The pictographs below U+1F300, which are arrows, signs, letters and numbers in frames and signs of
the zodiac, and those from U+1F500 to U+1F5FF, which are tools, clocks and signs.
-/

/-- The names of symbols with their characters. -/
def symbols : Array (String × List Nat) := #[
  ("keycap_number_sign", [0x23, 0x20E3]), ("keycap_#", [0x23, 0xFE0F, 0x20E3]),
  ("keycap_asterisk", [0x2A, 0x20E3]), ("keycap_*", [0x2A, 0xFE0F, 0x20E3]),
  ("keycap_digit_zero", [0x30, 0x20E3]), ("keycap_0", [0x30, 0xFE0F, 0x20E3]),
  ("zero", [0x30, 0xFE0F, 0x20E3]), ("keycap_digit_one", [0x31, 0x20E3]),
  ("keycap_1", [0x31, 0xFE0F, 0x20E3]), ("one", [0x31, 0xFE0F, 0x20E3]),
  ("keycap_digit_two", [0x32, 0x20E3]), ("keycap_2", [0x32, 0xFE0F, 0x20E3]),
  ("two", [0x32, 0xFE0F, 0x20E3]), ("keycap_digit_three", [0x33, 0x20E3]),
  ("keycap_3", [0x33, 0xFE0F, 0x20E3]), ("three", [0x33, 0xFE0F, 0x20E3]),
  ("keycap_digit_four", [0x34, 0x20E3]), ("four", [0x34, 0xFE0F, 0x20E3]),
  ("keycap_4", [0x34, 0xFE0F, 0x20E3]), ("keycap_digit_five", [0x35, 0x20E3]),
  ("five", [0x35, 0xFE0F, 0x20E3]), ("keycap_5", [0x35, 0xFE0F, 0x20E3]),
  ("keycap_digit_six", [0x36, 0x20E3]), ("keycap_6", [0x36, 0xFE0F, 0x20E3]),
  ("six", [0x36, 0xFE0F, 0x20E3]), ("keycap_digit_seven", [0x37, 0x20E3]),
  ("keycap_7", [0x37, 0xFE0F, 0x20E3]), ("seven", [0x37, 0xFE0F, 0x20E3]),
  ("keycap_digit_eight", [0x38, 0x20E3]), ("eight", [0x38, 0xFE0F, 0x20E3]),
  ("keycap_8", [0x38, 0xFE0F, 0x20E3]), ("keycap_digit_nine", [0x39, 0x20E3]),
  ("keycap_9", [0x39, 0xFE0F, 0x20E3]), ("nine", [0x39, 0xFE0F, 0x20E3]), ("copyright", [0xA9]),
  ("registered", [0xAE]), ("bangbang", [0x203C]), ("double_exclamation_mark", [0x203C]),
  ("exclamation_question_mark", [0x2049]), ("interrobang", [0x2049]), ("tm", [0x2122]),
  ("trade_mark", [0x2122]), ("information", [0x2139]), ("information_source", [0x2139]),
  ("left-right_arrow", [0x2194]), ("left_right_arrow", [0x2194]), ("arrow_up_down", [0x2195]),
  ("up-down_arrow", [0x2195]), ("arrow_upper_left", [0x2196]), ("up-left_arrow", [0x2196]),
  ("arrow_upper_right", [0x2197]), ("up-right_arrow", [0x2197]), ("arrow_lower_right", [0x2198]),
  ("down-right_arrow", [0x2198]), ("arrow_lower_left", [0x2199]), ("down-left_arrow", [0x2199]),
  ("leftwards_arrow_with_hook", [0x21A9]), ("right_arrow_curving_left", [0x21A9]),
  ("arrow_right_hook", [0x21AA]), ("left_arrow_curving_right", [0x21AA]), ("watch", [0x231A]),
  ("hourglass", [0x231B]), ("hourglass_done", [0x231B]), ("keyboard", [0x2328]),
  ("helm_symbol", [0x2388]), ("eject_button", [0x23CF]), ("eject_symbol", [0x23CF]),
  ("fast-forward_button", [0x23E9]), ("fast_forward", [0x23E9]), ("fast_reverse_button", [0x23EA]),
  ("rewind", [0x23EA]), ("arrow_double_up", [0x23EB]), ("fast_up_button", [0x23EB]),
  ("arrow_double_down", [0x23EC]), ("fast_down_button", [0x23EC]),
  ("black_right__pointing_double_triangle_with_vertical_bar", [0x23ED]),
  ("next_track_button", [0x23ED]),
  ("black_left__pointing_double_triangle_with_vertical_bar", [0x23EE]),
  ("last_track_button", [0x23EE]),
  ("black_right__pointing_triangle_with_double_vertical_bar", [0x23EF]),
  ("play_or_pause_button", [0x23EF]), ("alarm_clock", [0x23F0]), ("stopwatch", [0x23F1]),
  ("timer_clock", [0x23F2]), ("hourglass_flowing_sand", [0x23F3]), ("hourglass_not_done", [0x23F3]),
  ("double_vertical_bar", [0x23F8]), ("pause_button", [0x23F8]),
  ("black_square_for_stop", [0x23F9]), ("stop_button", [0x23F9]),
  ("black_circle_for_record", [0x23FA]), ("record_button", [0x23FA]), ("circled_m", [0x24C2]),
  ("m", [0x24C2]), ("black_small_square", [0x25AA]), ("white_small_square", [0x25AB]),
  ("arrow_forward", [0x25B6]), ("play_button", [0x25B6]), ("arrow_backward", [0x25C0]),
  ("reverse_button", [0x25C0]), ("white_medium_square", [0x25FB]),
  ("black_medium_square", [0x25FC]), ("white_medium-small_square", [0x25FD]),
  ("white_medium_small_square", [0x25FD]), ("black_medium-small_square", [0x25FE]),
  ("black_medium_small_square", [0x25FE]), ("sun", [0x2600]), ("sunny", [0x2600]),
  ("cloud", [0x2601]), ("umbrella", [0x2602]), ("snowman", [0x2603]), ("comet", [0x2604]),
  ("phone", [0x260E]), ("telephone", [0x260E]), ("ballot_box_with_check", [0x2611]),
  ("umbrella_with_rain_drops", [0x2614]), ("coffee", [0x2615]), ("hot_beverage", [0x2615]),
  ("shamrock", [0x2618]), ("point_up", [0x261D]), ("skull_and_crossbones", [0x2620]),
  ("radioactive", [0x2622]), ("radioactive_sign", [0x2622]), ("biohazard", [0x2623]),
  ("biohazard_sign", [0x2623]), ("orthodox_cross", [0x2626]), ("star_and_crescent", [0x262A]),
  ("peace_symbol", [0x262E]), ("yin_yang", [0x262F]), ("wheel_of_dharma", [0x2638]),
  ("frowning_face", [0x2639]), ("white_frowning_face", [0x2639]), ("relaxed", [0x263A]),
  ("smiling_face", [0x263A]), ("female_sign", [0x2640]), ("male_sign", [0x2642]),
  ("aries", [0x2648]), ("taurus", [0x2649]), ("gemini", [0x264A]), ("cancer", [0x264B]),
  ("leo", [0x264C]), ("virgo", [0x264D]), ("libra", [0x264E]), ("scorpio", [0x264F]),
  ("scorpius", [0x264F]), ("sagittarius", [0x2650]), ("capricorn", [0x2651]),
  ("aquarius", [0x2652]), ("pisces", [0x2653]), ("chess_pawn", [0x265F]), ("spade_suit", [0x2660]),
  ("spades", [0x2660]), ("club_suit", [0x2663]), ("clubs", [0x2663]), ("heart_suit", [0x2665]),
  ("hearts", [0x2665]), ("diamond_suit", [0x2666]), ("diamonds", [0x2666]),
  ("hot_springs", [0x2668]), ("hotsprings", [0x2668]), ("recycle", [0x267B]),
  ("recycling_symbol", [0x267B]), ("infinity", [0x267E]), ("wheelchair", [0x267F]),
  ("wheelchair_symbol", [0x267F]), ("hammer_and_pick", [0x2692]), ("anchor", [0x2693]),
  ("crossed_swords", [0x2694]), ("medical_symbol", [0x2695]), ("balance_scale", [0x2696]),
  ("scales", [0x2696]), ("alembic", [0x2697]), ("gear", [0x2699]), ("atom_symbol", [0x269B]),
  ("fleur-de-lis", [0x269C]), ("fleur__de__lis", [0x269C]), ("warning", [0x26A0]),
  ("high_voltage", [0x26A1]), ("zap", [0x26A1]), ("white_circle", [0x26AA]),
  ("black_circle", [0x26AB]), ("coffin", [0x26B0]), ("funeral_urn", [0x26B1]), ("soccer", [0x26BD]),
  ("soccer_ball", [0x26BD]), ("baseball", [0x26BE]), ("snowman_without_snow", [0x26C4]),
  ("partly_sunny", [0x26C5]), ("sun_behind_cloud", [0x26C5]),
  ("cloud_with_lightning_and_rain", [0x26C8]), ("thunder_cloud_and_rain", [0x26C8]),
  ("ophiuchus", [0x26CE]), ("pick", [0x26CF]), ("helmet_with_white_cross", [0x26D1]),
  ("rescue_worker’s_helmet", [0x26D1]), ("chains", [0x26D3]), ("no_entry", [0x26D4]),
  ("shinto_shrine", [0x26E9]), ("church", [0x26EA]), ("mountain", [0x26F0]),
  ("umbrella_on_ground", [0x26F1]), ("fountain", [0x26F2]), ("flag_in_hole", [0x26F3]),
  ("golf", [0x26F3]), ("ferry", [0x26F4]), ("boat", [0x26F5]), ("sailboat", [0x26F5]),
  ("skier", [0x26F7]), ("ice_skate", [0x26F8]), ("person_with_ball", [0x26F9]), ("tent", [0x26FA]),
  ("fuel_pump", [0x26FD]), ("fuelpump", [0x26FD]), ("scissors", [0x2702]),
  ("white_check_mark", [0x2705]), ("white_heavy_check_mark", [0x2705]), ("airplane", [0x2708]),
  ("email", [0x2709]), ("envelope", [0x2709]), ("fist", [0x270A]), ("hand", [0x270B]),
  ("v", [0x270C]), ("pencil2", [0x270F]), ("black_nib", [0x2712]), ("heavy_check_mark", [0x2714]),
  ("heavy_multiplication_x", [0x2716]), ("latin_cross", [0x271D]), ("star_of_david", [0x2721]),
  ("sparkles", [0x2728]), ("eight-spoked_asterisk", [0x2733]), ("eight_spoked_asterisk", [0x2733]),
  ("eight-pointed_star", [0x2734]), ("eight_pointed_black_star", [0x2734]), ("snowflake", [0x2744]),
  ("sparkle", [0x2747]), ("cross_mark", [0x274C]), ("x", [0x274C]), ("cross_mark_button", [0x274E]),
  ("negative_squared_cross_mark", [0x274E]), ("question", [0x2753]), ("question_mark", [0x2753]),
  ("grey_question", [0x2754]), ("white_question_mark", [0x2754]), ("grey_exclamation", [0x2755]),
  ("white_exclamation_mark", [0x2755]), ("exclamation", [0x2757]), ("exclamation_mark", [0x2757]),
  ("heavy_exclamation_mark", [0x2757]), ("heavy_heart_exclamation", [0x2763]),
  ("heavy_heart_exclamation_mark_ornament", [0x2763]), ("heart", [0x2764]), ("red_heart", [0x2764]),
  ("heavy_plus_sign", [0x2795]), ("heavy_minus_sign", [0x2796]), ("heavy_division_sign", [0x2797]),
  ("arrow_right", [0x27A1]), ("right_arrow", [0x27A1]), ("curly_loop", [0x27B0]),
  ("double_curly_loop", [0x27BF]), ("loop", [0x27BF]), ("arrow_heading_up", [0x2934]),
  ("right_arrow_curving_up", [0x2934]), ("arrow_heading_down", [0x2935]),
  ("right_arrow_curving_down", [0x2935]), ("arrow_left", [0x2B05]), ("left_arrow", [0x2B05]),
  ("arrow_up", [0x2B06]), ("up_arrow", [0x2B06]), ("arrow_down", [0x2B07]),
  ("down_arrow", [0x2B07]), ("black_large_square", [0x2B1B]), ("white_large_square", [0x2B1C]),
  ("star", [0x2B50]), ("white_medium_star", [0x2B50]), ("heavy_large_circle", [0x2B55]),
  ("o", [0x2B55]), ("wavy_dash", [0x3030]), ("part_alternation_mark", [0x303D]),
  ("congratulations", [0x3297]), ("japanese_congratulations_button", [0x3297]),
  ("japanese_secret_button", [0x3299]), ("secret", [0x3299]), ("mahjong", [0x1F004]),
  ("mahjong_red_dragon", [0x1F004]), ("black_joker", [0x1F0CF]), ("joker", [0x1F0CF]),
  ("a", [0x1F170]), ("a_button_(blood_type)", [0x1F170]), ("b", [0x1F171]),
  ("b_button_(blood_type)", [0x1F171]), ("o2", [0x1F17E]), ("o_button_(blood_type)", [0x1F17E]),
  ("p_button", [0x1F17F]), ("parking", [0x1F17F]), ("ab", [0x1F18E]),
  ("ab_button_(blood_type)", [0x1F18E]), ("cl", [0x1F191]), ("cl_button", [0x1F191]),
  ("cool", [0x1F192]), ("cool_button", [0x1F192]), ("free", [0x1F193]), ("free_button", [0x1F193]),
  ("id", [0x1F194]), ("id_button", [0x1F194]), ("new", [0x1F195]), ("new_button", [0x1F195]),
  ("ng", [0x1F196]), ("ng_button", [0x1F196]), ("ok", [0x1F197]), ("ok_button", [0x1F197]),
  ("sos", [0x1F198]), ("sos_button", [0x1F198]), ("up", [0x1F199]), ("up!_button", [0x1F199]),
  ("vs", [0x1F19A]), ("vs_button", [0x1F19A]), ("regional_indicator_a", [0x1F1E6]),
  ("regional_indicator_symbol_letter_a", [0x1F1E6]), ("regional_indicator_b", [0x1F1E7]),
  ("regional_indicator_symbol_letter_b", [0x1F1E7]), ("regional_indicator_c", [0x1F1E8]),
  ("regional_indicator_symbol_letter_c", [0x1F1E8]), ("regional_indicator_d", [0x1F1E9]),
  ("regional_indicator_symbol_letter_d", [0x1F1E9]), ("regional_indicator_e", [0x1F1EA]),
  ("regional_indicator_symbol_letter_e", [0x1F1EA]), ("regional_indicator_f", [0x1F1EB]),
  ("regional_indicator_symbol_letter_f", [0x1F1EB]), ("regional_indicator_g", [0x1F1EC]),
  ("regional_indicator_symbol_letter_g", [0x1F1EC]), ("regional_indicator_h", [0x1F1ED]),
  ("regional_indicator_symbol_letter_h", [0x1F1ED]), ("regional_indicator_i", [0x1F1EE]),
  ("regional_indicator_symbol_letter_i", [0x1F1EE]), ("regional_indicator_j", [0x1F1EF]),
  ("regional_indicator_symbol_letter_j", [0x1F1EF]), ("regional_indicator_k", [0x1F1F0]),
  ("regional_indicator_symbol_letter_k", [0x1F1F0]), ("regional_indicator_l", [0x1F1F1]),
  ("regional_indicator_symbol_letter_l", [0x1F1F1]), ("regional_indicator_m", [0x1F1F2]),
  ("regional_indicator_symbol_letter_m", [0x1F1F2]), ("regional_indicator_n", [0x1F1F3]),
  ("regional_indicator_symbol_letter_n", [0x1F1F3]), ("regional_indicator_o", [0x1F1F4]),
  ("regional_indicator_symbol_letter_o", [0x1F1F4]), ("regional_indicator_p", [0x1F1F5]),
  ("regional_indicator_symbol_letter_p", [0x1F1F5]), ("regional_indicator_q", [0x1F1F6]),
  ("regional_indicator_symbol_letter_q", [0x1F1F6]), ("regional_indicator_r", [0x1F1F7]),
  ("regional_indicator_symbol_letter_r", [0x1F1F7]), ("regional_indicator_s", [0x1F1F8]),
  ("regional_indicator_symbol_letter_s", [0x1F1F8]),
  ("regional_indicator_symbol_letter_t", [0x1F1F9]), ("regional_indicator_t", [0x1F1F9]),
  ("regional_indicator_symbol_letter_u", [0x1F1FA]), ("regional_indicator_u", [0x1F1FA]),
  ("regional_indicator_symbol_letter_v", [0x1F1FB]), ("regional_indicator_v", [0x1F1FB]),
  ("regional_indicator_symbol_letter_w", [0x1F1FC]), ("regional_indicator_w", [0x1F1FC]),
  ("regional_indicator_symbol_letter_x", [0x1F1FD]), ("regional_indicator_x", [0x1F1FD]),
  ("regional_indicator_symbol_letter_y", [0x1F1FE]), ("regional_indicator_y", [0x1F1FE]),
  ("regional_indicator_symbol_letter_z", [0x1F1FF]), ("regional_indicator_z", [0x1F1FF]),
  ("japanese_here_button", [0x1F201]), ("koko", [0x1F201]),
  ("japanese_service_charge_button", [0x1F202]), ("sa", [0x1F202]),
  ("japanese_free_of_charge_button", [0x1F21A]), ("u7121", [0x1F21A]),
  ("japanese_reserved_button", [0x1F22F]), ("u6307", [0x1F22F]),
  ("japanese_prohibited_button", [0x1F232]), ("u7981", [0x1F232]),
  ("japanese_vacancy_button", [0x1F233]), ("u7a7a", [0x1F233]),
  ("japanese_passing_grade_button", [0x1F234]), ("u5408", [0x1F234]),
  ("japanese_no_vacancy_button", [0x1F235]), ("u6e80", [0x1F235]),
  ("japanese_not_free_of_charge_button", [0x1F236]), ("u6709", [0x1F236]),
  ("japanese_monthly_amount_button", [0x1F237]), ("u6708", [0x1F237]),
  ("japanese_application_button", [0x1F238]), ("u7533", [0x1F238]),
  ("japanese_discount_button", [0x1F239]), ("u5272", [0x1F239]),
  ("japanese_open_for_business_button", [0x1F23A]), ("u55b6", [0x1F23A]),
  ("ideograph_advantage", [0x1F250]), ("japanese_bargain_button", [0x1F250]), ("accept", [0x1F251]),
  ("japanese_acceptable_button", [0x1F251])]

/-- The names of tools, clocks and signs with their characters. -/
def tools : Array (String × List Nat) := #[
  ("shuffle_tracks_button", [0x1F500]), ("twisted_rightwards_arrows", [0x1F500]),
  ("repeat", [0x1F501]), ("repeat_button", [0x1F501]), ("repeat_one", [0x1F502]),
  ("repeat_single_button", [0x1F502]), ("arrows_clockwise", [0x1F503]),
  ("clockwise_vertical_arrows", [0x1F503]), ("arrows_counterclockwise", [0x1F504]),
  ("counterclockwise_arrows_button", [0x1F504]), ("dim_button", [0x1F505]),
  ("low_brightness", [0x1F505]), ("bright_button", [0x1F506]), ("high_brightness", [0x1F506]),
  ("mute", [0x1F507]), ("muted_speaker", [0x1F507]), ("speaker", [0x1F508]),
  ("speaker_low_volume", [0x1F508]), ("sound", [0x1F509]), ("speaker_medium_volume", [0x1F509]),
  ("loud_sound", [0x1F50A]), ("speaker_high_volume", [0x1F50A]), ("battery", [0x1F50B]),
  ("electric_plug", [0x1F50C]), ("mag", [0x1F50D]), ("magnifying_glass_tilted_left", [0x1F50D]),
  ("mag_right", [0x1F50E]), ("magnifying_glass_tilted_right", [0x1F50E]),
  ("lock_with_ink_pen", [0x1F50F]), ("locked_with_pen", [0x1F50F]),
  ("closed_lock_with_key", [0x1F510]), ("locked_with_key", [0x1F510]), ("key", [0x1F511]),
  ("lock", [0x1F512]), ("locked", [0x1F512]), ("unlock", [0x1F513]), ("unlocked", [0x1F513]),
  ("bell", [0x1F514]), ("bell_with_slash", [0x1F515]), ("no_bell", [0x1F515]),
  ("bookmark", [0x1F516]), ("link", [0x1F517]), ("radio_button", [0x1F518]), ("back", [0x1F519]),
  ("back_arrow", [0x1F519]), ("end", [0x1F51A]), ("end_arrow", [0x1F51A]), ("on", [0x1F51B]),
  ("on!_arrow", [0x1F51B]), ("soon", [0x1F51C]), ("soon_arrow", [0x1F51C]), ("top", [0x1F51D]),
  ("top_arrow", [0x1F51D]), ("no_one_under_eighteen", [0x1F51E]), ("underage", [0x1F51E]),
  ("keycap_10", [0x1F51F]), ("ten", [0x1F51F]), ("capital_abcd", [0x1F520]),
  ("input_latin_uppercase", [0x1F520]), ("abcd", [0x1F521]), ("input_latin_lowercase", [0x1F521]),
  ("1234", [0x1F522]), ("input_numbers", [0x1F522]), ("input_symbols", [0x1F523]),
  ("symbols", [0x1F523]), ("abc", [0x1F524]), ("input_latin_letters", [0x1F524]),
  ("fire", [0x1F525]), ("flashlight", [0x1F526]), ("wrench", [0x1F527]), ("hammer", [0x1F528]),
  ("nut_and_bolt", [0x1F529]), ("hocho", [0x1F52A]), ("kitchen_knife", [0x1F52A]),
  ("knife", [0x1F52A]), ("gun", [0x1F52B]), ("pistol", [0x1F52B]), ("microscope", [0x1F52C]),
  ("telescope", [0x1F52D]), ("crystal_ball", [0x1F52E]), ("dotted_six-pointed_star", [0x1F52F]),
  ("six_pointed_star", [0x1F52F]), ("beginner", [0x1F530]),
  ("japanese_symbol_for_beginner", [0x1F530]), ("trident", [0x1F531]),
  ("trident_emblem", [0x1F531]), ("black_square_button", [0x1F532]),
  ("white_square_button", [0x1F533]), ("red_circle", [0x1F534]), ("blue_circle", [0x1F535]),
  ("large_blue_circle", [0x1F535]), ("large_orange_diamond", [0x1F536]),
  ("large_blue_diamond", [0x1F537]), ("small_orange_diamond", [0x1F538]),
  ("small_blue_diamond", [0x1F539]), ("red_triangle_pointed_up", [0x1F53A]),
  ("small_red_triangle", [0x1F53A]), ("red_triangle_pointed_down", [0x1F53B]),
  ("small_red_triangle_down", [0x1F53B]), ("arrow_up_small", [0x1F53C]),
  ("upwards_button", [0x1F53C]), ("arrow_down_small", [0x1F53D]), ("downwards_button", [0x1F53D]),
  ("om", [0x1F549]), ("om_symbol", [0x1F549]), ("dove", [0x1F54A]), ("dove_of_peace", [0x1F54A]),
  ("kaaba", [0x1F54B]), ("mosque", [0x1F54C]), ("synagogue", [0x1F54D]), ("menorah", [0x1F54E]),
  ("menorah_with_nine_branches", [0x1F54E]), ("clock1", [0x1F550]), ("one_o’clock", [0x1F550]),
  ("clock2", [0x1F551]), ("two_o’clock", [0x1F551]), ("clock3", [0x1F552]),
  ("three_o’clock", [0x1F552]), ("clock4", [0x1F553]), ("four_o’clock", [0x1F553]),
  ("clock5", [0x1F554]), ("five_o’clock", [0x1F554]), ("clock6", [0x1F555]),
  ("six_o’clock", [0x1F555]), ("clock7", [0x1F556]), ("seven_o’clock", [0x1F556]),
  ("clock8", [0x1F557]), ("eight_o’clock", [0x1F557]), ("clock9", [0x1F558]),
  ("nine_o’clock", [0x1F558]), ("clock10", [0x1F559]), ("ten_o’clock", [0x1F559]),
  ("clock11", [0x1F55A]), ("eleven_o’clock", [0x1F55A]), ("clock12", [0x1F55B]),
  ("twelve_o’clock", [0x1F55B]), ("clock130", [0x1F55C]), ("one-thirty", [0x1F55C]),
  ("clock230", [0x1F55D]), ("two-thirty", [0x1F55D]), ("clock330", [0x1F55E]),
  ("three-thirty", [0x1F55E]), ("clock430", [0x1F55F]), ("four-thirty", [0x1F55F]),
  ("clock530", [0x1F560]), ("five-thirty", [0x1F560]), ("clock630", [0x1F561]),
  ("six-thirty", [0x1F561]), ("clock730", [0x1F562]), ("seven-thirty", [0x1F562]),
  ("clock830", [0x1F563]), ("eight-thirty", [0x1F563]), ("clock930", [0x1F564]),
  ("nine-thirty", [0x1F564]), ("clock1030", [0x1F565]), ("ten-thirty", [0x1F565]),
  ("clock1130", [0x1F566]), ("eleven-thirty", [0x1F566]), ("clock1230", [0x1F567]),
  ("twelve-thirty", [0x1F567]), ("candle", [0x1F56F]), ("mantelpiece_clock", [0x1F570]),
  ("hole", [0x1F573]), ("man_in_business_suit_levitating", [0x1F574]), ("sleuth_or_spy", [0x1F575]),
  ("dark_sunglasses", [0x1F576]), ("spider", [0x1F577]), ("spider_web", [0x1F578]),
  ("joystick", [0x1F579]), ("linked_paperclips", [0x1F587]),
  ("lower_left_ballpoint_pen", [0x1F58A]), ("pen", [0x1F58A]), ("fountain_pen", [0x1F58B]),
  ("lower_left_fountain_pen", [0x1F58B]), ("lower_left_paintbrush", [0x1F58C]),
  ("paintbrush", [0x1F58C]), ("crayon", [0x1F58D]), ("lower_left_crayon", [0x1F58D]),
  ("raised_hand_with_fingers_splayed", [0x1F590]),
  ("reversed_hand_with_middle_finger_extended", [0x1F595]),
  ("raised_hand_with_part_between_middle_and_ring_fingers", [0x1F596]), ("black_heart", [0x1F5A4]),
  ("desktop_computer", [0x1F5A5]), ("printer", [0x1F5A8]), ("computer_mouse", [0x1F5B1]),
  ("three_button_mouse", [0x1F5B1]), ("trackball", [0x1F5B2]), ("frame_with_picture", [0x1F5BC]),
  ("framed_picture", [0x1F5BC]), ("card_index_dividers", [0x1F5C2]), ("card_file_box", [0x1F5C3]),
  ("file_cabinet", [0x1F5C4]), ("wastebasket", [0x1F5D1]), ("spiral_note_pad", [0x1F5D2]),
  ("spiral_notepad", [0x1F5D2]), ("spiral_calendar", [0x1F5D3]), ("spiral_calendar_pad", [0x1F5D3]),
  ("clamp", [0x1F5DC]), ("compression", [0x1F5DC]), ("old_key", [0x1F5DD]),
  ("rolled-up_newspaper", [0x1F5DE]), ("rolled__up_newspaper", [0x1F5DE]), ("dagger", [0x1F5E1]),
  ("dagger_knife", [0x1F5E1]), ("speaking_head", [0x1F5E3]),
  ("speaking_head_in_silhouette", [0x1F5E3]), ("left_speech_bubble", [0x1F5E8]),
  ("right_anger_bubble", [0x1F5EF]), ("ballot_box_with_ballot", [0x1F5F3]),
  ("world_map", [0x1F5FA]), ("mount_fuji", [0x1F5FB]), ("tokyo_tower", [0x1F5FC]),
  ("statue_of_liberty", [0x1F5FD]), ("japan", [0x1F5FE]), ("map_of_japan", [0x1F5FE]),
  ("moai", [0x1F5FF]), ("moyai", [0x1F5FF])]

/-!
## Names of the supplement

The pictographs from U+1F900 on.
-/

/-- The names of the supplement with their characters. -/
def supplement : Array (String × List Nat) := #[
  ("orange_circle", [0x1F7E0]), ("yellow_circle", [0x1F7E1]), ("green_circle", [0x1F7E2]),
  ("purple_circle", [0x1F7E3]), ("brown_circle", [0x1F7E4]), ("red_square", [0x1F7E5]),
  ("blue_square", [0x1F7E6]), ("orange_square", [0x1F7E7]), ("yellow_square", [0x1F7E8]),
  ("green_square", [0x1F7E9]), ("purple_square", [0x1F7EA]), ("brown_square", [0x1F7EB]),
  ("white_heart", [0x1F90D]), ("brown_heart", [0x1F90E]), ("pinching_hand", [0x1F90F]),
  ("zipper-mouth_face", [0x1F910]), ("zipper__mouth_face", [0x1F910]),
  ("money-mouth_face", [0x1F911]), ("money__mouth_face", [0x1F911]),
  ("face_with_thermometer", [0x1F912]), ("nerd_face", [0x1F913]), ("thinking_face", [0x1F914]),
  ("face_with_head-bandage", [0x1F915]), ("face_with_head__bandage", [0x1F915]),
  ("robot", [0x1F916]), ("robot_face", [0x1F916]), ("hugging_face", [0x1F917]),
  ("handshake", [0x1F91D]), ("cowboy_hat_face", [0x1F920]), ("clown_face", [0x1F921]),
  ("nauseated_face", [0x1F922]), ("rolling_on_the_floor_laughing", [0x1F923]),
  ("drooling_face", [0x1F924]), ("lying_face", [0x1F925]), ("sneezing_face", [0x1F927]),
  ("face_with_raised_eyebrow", [0x1F928]), ("star-struck", [0x1F929]), ("zany_face", [0x1F92A]),
  ("shushing_face", [0x1F92B]), ("face_with_symbols_on_mouth", [0x1F92C]),
  ("face_with_hand_over_mouth", [0x1F92D]), ("face_vomiting", [0x1F92E]),
  ("exploding_head", [0x1F92F]), ("person_fencing", [0x1F93A]), ("people_wrestling", [0x1F93C]),
  ("women_wrestling", [0x1F93C, 0x200D, 0x2640, 0xFE0F]),
  ("men_wrestling", [0x1F93C, 0x200D, 0x2642, 0xFE0F]), ("diving_mask", [0x1F93F]),
  ("wilted_flower", [0x1F940]), ("drum", [0x1F941]), ("clinking_glasses", [0x1F942]),
  ("tumbler_glass", [0x1F943]), ("spoon", [0x1F944]), ("goal_net", [0x1F945]),
  ("1st_place_medal", [0x1F947]), ("2nd_place_medal", [0x1F948]), ("3rd_place_medal", [0x1F949]),
  ("boxing_glove", [0x1F94A]), ("martial_arts_uniform", [0x1F94B]), ("curling_stone", [0x1F94C]),
  ("lacrosse", [0x1F94D]), ("softball", [0x1F94E]), ("flying_disc", [0x1F94F]),
  ("croissant", [0x1F950]), ("avocado", [0x1F951]), ("cucumber", [0x1F952]), ("bacon", [0x1F953]),
  ("potato", [0x1F954]), ("carrot", [0x1F955]), ("baguette_bread", [0x1F956]),
  ("green_salad", [0x1F957]), ("shallow_pan_of_food", [0x1F958]), ("stuffed_flatbread", [0x1F959]),
  ("glass_of_milk", [0x1F95B]), ("peanuts", [0x1F95C]), ("kiwi_fruit", [0x1F95D]),
  ("pancakes", [0x1F95E]), ("dumpling", [0x1F95F]), ("fortune_cookie", [0x1F960]),
  ("takeout_box", [0x1F961]), ("chopsticks", [0x1F962]), ("bowl_with_spoon", [0x1F963]),
  ("cup_with_straw", [0x1F964]), ("coconut", [0x1F965]), ("broccoli", [0x1F966]),
  ("pie", [0x1F967]), ("pretzel", [0x1F968]), ("cut_of_meat", [0x1F969]), ("sandwich", [0x1F96A]),
  ("canned_food", [0x1F96B]), ("leafy_green", [0x1F96C]), ("mango", [0x1F96D]),
  ("moon_cake", [0x1F96E]), ("bagel", [0x1F96F]), ("smiling_face_with_3_hearts", [0x1F970]),
  ("yawning_face", [0x1F971]), ("partying_face", [0x1F973]), ("woozy_face", [0x1F974]),
  ("hot_face", [0x1F975]), ("cold_face", [0x1F976]), ("pleading_face", [0x1F97A]),
  ("sari", [0x1F97B]), ("lab_coat", [0x1F97C]), ("goggles", [0x1F97D]), ("hiking_boot", [0x1F97E]),
  ("flat_shoe", [0x1F97F]), ("crab", [0x1F980]), ("lion_face", [0x1F981]), ("scorpion", [0x1F982]),
  ("turkey", [0x1F983]), ("unicorn_face", [0x1F984]), ("eagle", [0x1F985]), ("duck", [0x1F986]),
  ("bat", [0x1F987]), ("shark", [0x1F988]), ("owl", [0x1F989]), ("fox_face", [0x1F98A]),
  ("butterfly", [0x1F98B]), ("deer", [0x1F98C]), ("gorilla", [0x1F98D]), ("lizard", [0x1F98E]),
  ("rhinoceros", [0x1F98F]), ("shrimp", [0x1F990]), ("squid", [0x1F991]), ("giraffe", [0x1F992]),
  ("zebra", [0x1F993]), ("hedgehog", [0x1F994]), ("sauropod", [0x1F995]), ("t-rex", [0x1F996]),
  ("cricket", [0x1F997]), ("kangaroo", [0x1F998]), ("llama", [0x1F999]), ("peacock", [0x1F99A]),
  ("hippopotamus", [0x1F99B]), ("parrot", [0x1F99C]), ("raccoon", [0x1F99D]),
  ("lobster", [0x1F99E]), ("mosquito", [0x1F99F]), ("microbe", [0x1F9A0]), ("badger", [0x1F9A1]),
  ("swan", [0x1F9A2]), ("sloth", [0x1F9A5]), ("otter", [0x1F9A6]), ("orangutan", [0x1F9A7]),
  ("skunk", [0x1F9A8]), ("flamingo", [0x1F9A9]), ("oyster", [0x1F9AA]), ("guide_dog", [0x1F9AE]),
  ("probing_cane", [0x1F9AF]), ("red_hair", [0x1F9B0]), ("curly_hair", [0x1F9B1]),
  ("bald", [0x1F9B2]), ("white_hair", [0x1F9B3]), ("bone", [0x1F9B4]), ("leg", [0x1F9B5]),
  ("foot", [0x1F9B6]), ("tooth", [0x1F9B7]), ("superhero", [0x1F9B8]), ("supervillain", [0x1F9B9]),
  ("safety_vest", [0x1F9BA]), ("ear_with_hearing_aid", [0x1F9BB]),
  ("motorized_wheelchair", [0x1F9BC]), ("manual_wheelchair", [0x1F9BD]),
  ("mechanical_arm", [0x1F9BE]), ("mechanical_leg", [0x1F9BF]), ("cheese_wedge", [0x1F9C0]),
  ("cupcake", [0x1F9C1]), ("salt", [0x1F9C2]), ("beverage_box", [0x1F9C3]), ("garlic", [0x1F9C4]),
  ("onion", [0x1F9C5]), ("falafel", [0x1F9C6]), ("waffle", [0x1F9C7]), ("butter", [0x1F9C8]),
  ("mate", [0x1F9C9]), ("ice", [0x1F9CA]), ("person_standing", [0x1F9CD]),
  ("person_kneeling", [0x1F9CE]), ("deaf_person", [0x1F9CF]), ("face_with_monocle", [0x1F9D0]),
  ("people_holding_hands", [0x1F9D1, 0x200D, 0x1F91D, 0x200D, 0x1F9D1]), ("genie", [0x1F9DE]),
  ("woman_genie", [0x1F9DE, 0x200D, 0x2640, 0xFE0F]),
  ("man_genie", [0x1F9DE, 0x200D, 0x2642, 0xFE0F]), ("zombie", [0x1F9DF]),
  ("woman_zombie", [0x1F9DF, 0x200D, 0x2640, 0xFE0F]),
  ("man_zombie", [0x1F9DF, 0x200D, 0x2642, 0xFE0F]), ("brain", [0x1F9E0]),
  ("orange_heart", [0x1F9E1]), ("billed_cap", [0x1F9E2]), ("scarf", [0x1F9E3]),
  ("gloves", [0x1F9E4]), ("coat", [0x1F9E5]), ("socks", [0x1F9E6]), ("red_envelope", [0x1F9E7]),
  ("firecracker", [0x1F9E8]), ("jigsaw", [0x1F9E9]), ("test_tube", [0x1F9EA]),
  ("petri_dish", [0x1F9EB]), ("dna", [0x1F9EC]), ("compass", [0x1F9ED]), ("abacus", [0x1F9EE]),
  ("fire_extinguisher", [0x1F9EF]), ("toolbox", [0x1F9F0]), ("brick", [0x1F9F1]),
  ("magnet", [0x1F9F2]), ("luggage", [0x1F9F3]), ("lotion_bottle", [0x1F9F4]),
  ("thread", [0x1F9F5]), ("yarn", [0x1F9F6]), ("safety_pin", [0x1F9F7]), ("teddy_bear", [0x1F9F8]),
  ("broom", [0x1F9F9]), ("basket", [0x1F9FA]), ("roll_of_paper", [0x1F9FB]), ("soap", [0x1F9FC]),
  ("sponge", [0x1F9FD]), ("receipt", [0x1F9FE]), ("nazar_amulet", [0x1F9FF]),
  ("ballet_shoes", [0x1FA70]), ("one-piece_swimsuit", [0x1FA71]), ("briefs", [0x1FA72]),
  ("shorts", [0x1FA73]), ("drop_of_blood", [0x1FA78]), ("adhesive_bandage", [0x1FA79]),
  ("stethoscope", [0x1FA7A]), ("yo-yo", [0x1FA80]), ("kite", [0x1FA81]),
  ("ringed_planet", [0x1FA90]), ("chair", [0x1FA91]), ("razor", [0x1FA92]), ("axe", [0x1FA93]),
  ("diya_lamp", [0x1FA94]), ("banjo", [0x1FA95])]

end CodeConventions.Console.Pictograph
