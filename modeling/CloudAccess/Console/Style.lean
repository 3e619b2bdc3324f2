/-
# Styles in words

A style is described by words: attributes such as `bold`, each perhaps after `not`; a colour; `on`
and a second colour; `link` and an address.  Descriptions that say the same have the same normal
form, and that is all that is needed of them here, since nothing is drawn.

What is no description of a style has a normal form too: itself, in lower case and without the
blanks around it.
-/
import CloudAccess.Text.Blank
import CloudAccess.Text.Case
import CloudAccess.Text.Integer

namespace CloudAccess.Console

namespace Colour

/-! ## 1. Colours -/

/-- The names of the colours, a number of them in each text. -/
def nameLines : List String := [
  "black red green yellow blue magenta cyan white bright_black bright_red bright_green",
  "bright_yellow bright_blue bright_magenta bright_cyan bright_white grey0 gray0 navy_blue",
  "dark_blue blue3 blue1 dark_green deep_sky_blue4 dodger_blue3 dodger_blue2 green4 spring_green4",
  "turquoise4 deep_sky_blue3 dodger_blue1 green3 spring_green3 dark_cyan light_sea_green",
  "deep_sky_blue2 deep_sky_blue1 spring_green2 cyan3 dark_turquoise turquoise2 green1",
  "spring_green1 medium_spring_green cyan2 cyan1 dark_red deep_pink4 purple4 purple3 blue_violet",
  "orange4 grey37 gray37 medium_purple4 slate_blue3 royal_blue1 chartreuse4 dark_sea_green4",
  "pale_turquoise4 steel_blue steel_blue3 cornflower_blue chartreuse3 cadet_blue sky_blue3",
  "steel_blue1 pale_green3 sea_green3 aquamarine3 medium_turquoise chartreuse2 sea_green2",
  "sea_green1 aquamarine1 dark_slate_gray2 dark_magenta dark_violet purple light_pink4 plum4",
  "medium_purple3 slate_blue1 yellow4 wheat4 grey53 gray53 light_slate_grey light_slate_gray",
  "medium_purple light_slate_blue dark_olive_green3 dark_sea_green light_sky_blue3 sky_blue2",
  "dark_sea_green3 dark_slate_gray3 sky_blue1 chartreuse1 light_green pale_green1",
  "dark_slate_gray1 red3 medium_violet_red magenta3 dark_orange3 indian_red hot_pink3",
  "medium_orchid3 medium_orchid medium_purple2 dark_goldenrod light_salmon3 rosy_brown grey63",
  "gray63 medium_purple1 gold3 dark_khaki navajo_white3 grey69 gray69 light_steel_blue3",
  "light_steel_blue yellow3 dark_sea_green2 light_cyan3 light_sky_blue1 green_yellow",
  "dark_olive_green2 dark_sea_green1 pale_turquoise1 deep_pink3 magenta2 hot_pink2 orchid",
  "medium_orchid1 orange3 light_pink3 pink3 plum3 violet light_goldenrod3 tan misty_rose3",
  "thistle3 plum2 khaki3 light_goldenrod2 light_yellow3 grey84 gray84 light_steel_blue1 yellow2",
  "dark_olive_green1 honeydew2 light_cyan1 red1 deep_pink2 deep_pink1 magenta1 orange_red1",
  "indian_red1 hot_pink dark_orange salmon1 light_coral pale_violet_red1 orchid2 orchid1 orange1",
  "sandy_brown light_salmon1 light_pink1 pink1 plum1 gold1 navajo_white1 misty_rose1 thistle1",
  "yellow1 light_goldenrod1 khaki1 wheat1 cornsilk1 grey100 gray100 grey3 gray3 grey7 gray7",
  "grey11 gray11 grey15 gray15 grey19 gray19 grey23 gray23 grey27 gray27 grey30 gray30 grey35",
  "gray35 grey39 gray39 grey42 gray42 grey46 gray46 grey50 gray50 grey54 gray54 grey58 gray58",
  "grey62 gray62 grey66 gray66 grey70 gray70 grey74 gray74 grey78 gray78 grey82 gray82 grey85",
  "gray85 grey89 gray89 grey93 gray93"]

/-- The names of the colours. -/
def names : List Text := nameLines.flatMap fun (line : String) => Text.words line

/-- What stands between a beginning of a word and a closing bracket at its end. -/
def inBrackets? (start word : Text) : Option Text :=
  match Text.dropStart? start word with
  | none => none
  | some rest => if rest.getLast? = some (.ofChar ')') then some rest.dropLast else none

/-- Six hexadecimal digits after a number sign. -/
def isHex (word : Text) : Bool :=
  match Text.dropStart? "#" word with
  | none => false
  | some digits =>
    digits.length = 6 && digits.all fun c => c.isAsciiDigit || (0x61 ≤ c.val && c.val ≤ 0x66)

/-- The number of a colour in brackets, of up to three digits. -/
def isNumbered (word : Text) : Bool :=
  match inBrackets? "color(" word with
  | none => false
  | some digits =>
    !digits.isEmpty && digits.length ≤ 3 && digits.all CodePoint.isAsciiDigit &&
      (Integer.read digits).toOption.any fun n => n ≤ 255

/-- Three components in brackets.  A component that is empty or too long is misread. -/
def isMixed (word : Text) : Except Integer.Misread Bool :=
  match inBrackets? "rgb(" word with
  | none => .ok false
  | some body =>
    if body.isEmpty || body.any fun c => c.digitValue?.isNone && c ≠ CodePoint.ofChar ',' then
      .ok false
    else
      match Text.splitOn ',' body with
      | [red, green, blue] => do
        let r ← Integer.read red
        let g ← Integer.read green
        let b ← Integer.read blue
        return r ≤ 255 && g ≤ 255 && b ≤ 255
      | _ => .ok false

/-- The word, in lower case, describes a colour. -/
def isColour (word : Text) : Except Integer.Misread Bool :=
  if word = "default" || names.contains word || isHex word || isNumbered word then .ok true
  else isMixed word

end Colour

/-! ## 2. Styles -/

/-- The attributes, in the order in which a normal form names them. -/
def attributes : List Text := ["bold", "dim", "italic", "underline", "blink", "blink2", "reverse",
  "conceal", "strike", "underline2", "frame", "encircle", "overline"]

/-- The short names of attributes. -/
def shortAttributes : List (Text × Text) := [("d", "dim"), ("b", "bold"), ("i", "italic"),
  ("u", "underline"), ("r", "reverse"), ("c", "conceal"), ("s", "strike"), ("uu", "underline2"),
  ("o", "overline")]

/-- The attribute of a name, long or short. -/
def attribute? (name : Text) : Option Text :=
  if attributes.contains name then some name else shortAttributes.lookup name

/-- What a description of a style says.  The last word on an attribute counts. -/
structure Style where
  settings : List (Text × Bool) := []
  colour : Option Text := none
  ground : Option Text := none
  link : Option Text := none

namespace Style

/-- The style with an attribute set or not. -/
def set (s : Style) (name : Text) (value : Bool) : Style :=
  { s with settings := (name, value) :: s.settings }

/-- The style in words. -/
def toText (s : Style) : Text :=
  let shown := attributes.filterMap fun name =>
    (s.settings.lookup name).map fun value => if value then name else ("not " : Text) ++ name
  let words := shown ++ s.colour.toList ++ (s.ground.map fun c => ("on " : Text) ++ c).toList ++
    (s.link.map fun address => ("link " : Text) ++ address).toList
  if words.isEmpty then "none" else Text.join " " words

/-- The style that words describe, in addition to what is known of it. -/
def ofWords (s : Style) : List Text → Except Integer.Misread (Option Style)
  | [] => .ok (some s)
  | first :: rest =>
    let word := Text.lower first
    if word = "on" then
      match rest with
      | [] => .ok none
      | ground :: more => do
        if ← Colour.isColour (Text.lower ground) then
          ofWords { s with ground := some (Text.lower ground) } more
        else return none
    else if word = "not" then
      match rest with
      | [] => .ok none
      | name :: more =>
        match attribute? name with
        | none => .ok none
        | some full => ofWords (s.set full false) more
    else if word = "link" then
      match rest with
      | [] => .ok none
      | address :: more => ofWords { s with link := some address } more
    else
      match attribute? word with
      | some full => ofWords (s.set full true) rest
      | none => do
        if ← Colour.isColour word then ofWords { s with colour := some word } rest
        else return none

/-- The normal form of a description. -/
def normalForm (description : Text) : Except Integer.Misread Text :=
  if Text.strip description = "none" then .ok "none"
  else
    match ofWords {} (Text.words description) with
    | .error misread => .error misread
    | .ok (some style) => .ok style.toText
    | .ok none => .ok (Text.lower (Text.strip description))

end Style

end CloudAccess.Console
