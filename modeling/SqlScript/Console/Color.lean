import SqlScript.Fault
import SqlScript.Text.Digit
import SqlScript.Text.Split

/-!
# Colors

The words that stand for a color: a name, six hexadecimal digits, a number, or the three parts red,
green and blue.

* `colorNames`: the names.
* `namesColor`: whether a word stands for a color.
-/

namespace SqlScript.Console

/-! ## Names -/

/-- The names of the basic colors. -/
def basicColors : List String :=
  ["black", "red", "green", "yellow", "blue", "magenta", "cyan", "white"]

/-- The levels of grey that have a name. -/
def greyLevels : List Nat :=
  [0, 3, 7, 11, 15, 19, 23, 27, 30, 35, 37, 39, 42, 46, 50, 53, 54, 58, 62, 63, 66, 69, 70, 74,
    78, 82, 84, 85, 89, 93, 100]

/-- The names of the other colors. -/
def otherColors : List String :=
  ["aquamarine1", "aquamarine3", "blue1", "blue3", "blue_violet", "cadet_blue", "chartreuse1",
    "chartreuse2", "chartreuse3", "chartreuse4", "cornflower_blue", "cornsilk1", "cyan1", "cyan2",
    "cyan3", "dark_blue", "dark_cyan", "dark_goldenrod", "dark_green", "dark_khaki",
    "dark_magenta", "dark_olive_green1", "dark_olive_green2", "dark_olive_green3", "dark_orange",
    "dark_orange3", "dark_red", "dark_sea_green", "dark_sea_green1", "dark_sea_green2",
    "dark_sea_green3", "dark_sea_green4", "dark_slate_gray1", "dark_slate_gray2",
    "dark_slate_gray3", "dark_turquoise", "dark_violet", "deep_pink1", "deep_pink2", "deep_pink3",
    "deep_pink4", "deep_sky_blue1", "deep_sky_blue2", "deep_sky_blue3", "deep_sky_blue4",
    "dodger_blue1", "dodger_blue2", "dodger_blue3", "gold1", "gold3", "green1", "green3",
    "green4", "green_yellow", "honeydew2", "hot_pink", "hot_pink2", "hot_pink3", "indian_red",
    "indian_red1", "khaki1", "khaki3", "light_coral", "light_cyan1", "light_cyan3",
    "light_goldenrod1", "light_goldenrod2", "light_goldenrod3", "light_green", "light_pink1",
    "light_pink3", "light_pink4", "light_salmon1", "light_salmon3", "light_sea_green",
    "light_sky_blue1", "light_sky_blue3", "light_slate_blue", "light_slate_gray",
    "light_slate_grey", "light_steel_blue", "light_steel_blue1", "light_steel_blue3",
    "light_yellow3", "magenta1", "magenta2", "magenta3", "medium_orchid", "medium_orchid1",
    "medium_orchid3", "medium_purple", "medium_purple1", "medium_purple2", "medium_purple3",
    "medium_purple4", "medium_spring_green", "medium_turquoise", "medium_violet_red",
    "misty_rose1", "misty_rose3", "navajo_white1", "navajo_white3", "navy_blue", "orange1",
    "orange3", "orange4", "orange_red1", "orchid", "orchid1", "orchid2", "pale_green1",
    "pale_green3", "pale_turquoise1", "pale_turquoise4", "pale_violet_red1", "pink1", "pink3",
    "plum1", "plum2", "plum3", "plum4", "purple", "purple3", "purple4", "red1", "red3",
    "rosy_brown", "royal_blue1", "salmon1", "sandy_brown", "sea_green1", "sea_green2",
    "sea_green3", "sky_blue1", "sky_blue2", "sky_blue3", "slate_blue1", "slate_blue3",
    "spring_green1", "spring_green2", "spring_green3", "spring_green4", "steel_blue",
    "steel_blue1", "steel_blue3", "tan", "thistle1", "thistle3", "turquoise2", "turquoise4",
    "violet", "wheat1", "wheat4", "yellow1", "yellow2", "yellow3", "yellow4"]

/-- **The names of colors.** Grey has two spellings. -/
def colorNames : List String :=
  "default" :: basicColors ++ basicColors.map ("bright_" ++ ·)
    ++ greyLevels.flatMap (fun n => [s!"grey{n}", s!"gray{n}"]) ++ otherColors

/-! ## Other words -/

/-- A digit of a color in hexadecimal. -/
def isColorDigit (c : Char) : Bool := c.isDigit || ('a' ≤ c && c ≤ 'f')

/-- What stands between an opening and a closing parenthesis at the end. -/
def insideOf (opening : List Char) (cs : List Char) : Option (List Char) :=
  if opening.isPrefixOf cs && cs.getLast? == some ')' then some (cs.drop opening.length).dropLast
  else none

/-- The most digits of a part of a color. -/
def mostPartDigits : Nat := 4300

/-- A part of a color: digits of any script. A part without digits is no number, and a part with
too many is not read. -/
def colorPart (ds : List Char) : Except Fault Nat :=
  if ds.isEmpty then .error (.of .value "invalid literal for int() with base 10: ''")
  else if mostPartDigits < ds.length then
    let limit := s!"Exceeds the limit ({mostPartDigits} digits) for integer string conversion: "
    let count := s!"value has {ds.length} digits; "
    .error (.of .value
      (limit ++ count ++ "use sys.set_int_max_str_digits() to increase the limit"))
  else .ok (ds.foldl (fun n d => 10 * n + (Text.digitValue? d).getD 0) 0)

/-- Whether red, green and blue make a color. -/
def partsMakeColor (cs : List Char) : Except Fault Bool :=
  match Text.splitAtChar ',' cs with
  | [red, green, blue] => do
    let parts := [← colorPart red, ← colorPart green, ← colorPart blue]
    return parts.all (· ≤ 255)
  | _ => .ok false

/-- **Whether a word stands for a color.** A color whose parts cannot be read is a fault. -/
def namesColor (word : String) : Except Fault Bool :=
  let cs := word.toList
  if colorNames.contains word then .ok true
  else match cs, insideOf "color(".toList cs, insideOf "rgb(".toList cs with
    | '#' :: ds, _, _ => .ok (ds.length == 6 && ds.all isColorDigit)
    | _, some ds, _ =>
      let isNumber := !ds.isEmpty && ds.length ≤ 3 && ds.all Char.isDigit
      .ok (isNumber && ds.foldl (fun n d => 10 * n + (d.toNat - 48)) 0 ≤ 255)
    | _, _, some parts =>
      let isList := !parts.isEmpty && parts.all fun c => c == ',' || (Text.digitValue? c).isSome
      if isList then partsMakeColor parts else .ok false
    | _, _, _ => .ok false

end SqlScript.Console
