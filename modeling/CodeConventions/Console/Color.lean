import CodeConventions.Number.Digits
import CodeConventions.Text.Letters
import CodeConventions.Text.Lines

/-!
# Colours by name

A colour of the console is named by a word in small letters: by one of the fixed names, by six
hexadecimal digits, by its number in the palette, or by the shares of its three components.
-/

namespace CodeConventions.Console

/-- What a word says as the name of a colour. -/
inductive ColorWord where
  /-- The word names a colour. -/
  | color
  /-- The word names no colour. -/
  | other
  /-- The word has the form of a colour with components, but a component is no number. -/
  | broken
  deriving DecidableEq, Repr

namespace ColorWord

/-- The fixed names of colours. -/
def names : List String := [
  "default", "black", "red", "green", "yellow", "blue", "magenta", "cyan", "white", "bright_black",
  "bright_red", "bright_green", "bright_yellow", "bright_blue", "bright_magenta", "bright_cyan",
  "bright_white", "aquamarine1", "aquamarine3", "blue1", "blue3", "blue_violet", "cadet_blue",
  "chartreuse1", "chartreuse2", "chartreuse3", "chartreuse4", "cornflower_blue", "cornsilk1",
  "cyan1", "cyan2", "cyan3", "dark_blue", "dark_cyan", "dark_goldenrod", "dark_green", "dark_khaki",
  "dark_magenta", "dark_olive_green1", "dark_olive_green2", "dark_olive_green3", "dark_orange",
  "dark_orange3", "dark_red", "dark_sea_green", "dark_sea_green1", "dark_sea_green2",
  "dark_sea_green3", "dark_sea_green4", "dark_slate_gray1", "dark_slate_gray2", "dark_slate_gray3",
  "dark_turquoise", "dark_violet", "deep_pink1", "deep_pink2", "deep_pink3", "deep_pink4",
  "deep_sky_blue1", "deep_sky_blue2", "deep_sky_blue3", "deep_sky_blue4", "dodger_blue1",
  "dodger_blue2", "dodger_blue3", "gold1", "gold3", "gray0", "gray100", "gray11", "gray15",
  "gray19", "gray23", "gray27", "gray3", "gray30", "gray35", "gray37", "gray39", "gray42", "gray46",
  "gray50", "gray53", "gray54", "gray58", "gray62", "gray63", "gray66", "gray69", "gray7", "gray70",
  "gray74", "gray78", "gray82", "gray84", "gray85", "gray89", "gray93", "green1", "green3",
  "green4", "green_yellow", "grey0", "grey100", "grey11", "grey15", "grey19", "grey23", "grey27",
  "grey3", "grey30", "grey35", "grey37", "grey39", "grey42", "grey46", "grey50", "grey53", "grey54",
  "grey58", "grey62", "grey63", "grey66", "grey69", "grey7", "grey70", "grey74", "grey78", "grey82",
  "grey84", "grey85", "grey89", "grey93", "honeydew2", "hot_pink", "hot_pink2", "hot_pink3",
  "indian_red", "indian_red1", "khaki1", "khaki3", "light_coral", "light_cyan1", "light_cyan3",
  "light_goldenrod1", "light_goldenrod2", "light_goldenrod3", "light_green", "light_pink1",
  "light_pink3", "light_pink4", "light_salmon1", "light_salmon3", "light_sea_green",
  "light_sky_blue1", "light_sky_blue3", "light_slate_blue", "light_slate_gray", "light_slate_grey",
  "light_steel_blue", "light_steel_blue1", "light_steel_blue3", "light_yellow3", "magenta1",
  "magenta2", "magenta3", "medium_orchid", "medium_orchid1", "medium_orchid3", "medium_purple",
  "medium_purple1", "medium_purple2", "medium_purple3", "medium_purple4", "medium_spring_green",
  "medium_turquoise", "medium_violet_red", "misty_rose1", "misty_rose3", "navajo_white1",
  "navajo_white3", "navy_blue", "orange1", "orange3", "orange4", "orange_red1", "orchid", "orchid1",
  "orchid2", "pale_green1", "pale_green3", "pale_turquoise1", "pale_turquoise4", "pale_violet_red1",
  "pink1", "pink3", "plum1", "plum2", "plum3", "plum4", "purple", "purple3", "purple4", "red1",
  "red3", "rosy_brown", "royal_blue1", "salmon1", "sandy_brown", "sea_green1", "sea_green2",
  "sea_green3", "sky_blue1", "sky_blue2", "sky_blue3", "slate_blue1", "slate_blue3",
  "spring_green1", "spring_green2", "spring_green3", "spring_green4", "steel_blue", "steel_blue1",
  "steel_blue3", "tan", "thistle1", "thistle3", "turquoise2", "turquoise4", "violet", "wheat1",
  "wheat4", "yellow1", "yellow2", "yellow3", "yellow4"]

/-- A digit or small letter of a hexadecimal number. -/
def isHexDigit (c : Char) : Bool := ('0' ≤ c && c ≤ '9') || ('a' ≤ c && c ≤ 'f')

/-- The text between some words and a closing parenthesis at the end. -/
def inside? (opening : String) (cs : List Char) : Option (List Char) :=
  match opening.toList.isPrefixOf cs, (cs.drop opening.length).reverse with
  | true, ')' :: content => some content.reverse
  | _, _ => none

/-- The number of a component, if it is one and has not too many digits. -/
def component? (cs : List Char) : Option Nat :=
  if cs.isEmpty || !cs.all Text.isDigit || NumberLimit.digits < cs.length then none
  else some (Text.numberOfDigits cs)

/-- What the components of a colour say. -/
def ofComponents (cs : List Char) : ColorWord :=
  if cs.isEmpty || !cs.all fun c => Text.isDigit c || c == ',' then .other
  else
    let parts := Text.splitAtChar ',' cs
    if parts.length ≠ 3 then .other
    else
      match parts.mapM component? with
      | none => .broken
      | some shares => if shares.all (· ≤ 255) then .color else .other

/-- What a word in small letters says as the name of a colour. -/
def ofWord (word : String) : ColorWord :=
  let cs := word.toList
  if names.contains word then .color
  else
    match inside? "color(" cs, inside? "rgb(" cs with
    | some digits, _ =>
      if 1 ≤ digits.length && digits.length ≤ 3 && digits.all (fun c => '0' ≤ c && c ≤ '9')
          && Text.numberOfDigits digits ≤ 255 then .color
      else .other
    | none, some shares => ofComponents shares
    | none, none =>
      match cs with
      | '#' :: digits => if digits.length = 6 && digits.all isHexDigit then .color else .other
      | _ => .other

end ColorWord

end CodeConventions.Console
