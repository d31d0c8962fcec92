import MerkleLog.Text.Case
import MerkleLog.Text.Numeral

/-!
# Styles

A style is defined in words: attributes, each perhaps after `not`, a color, a color after `on`, and
an address after `link`.  Definitions with the same effect have one normal form, by which the tags
of a markup are told apart.
-/

namespace MerkleLog.Console.Markup

/-- A style. -/
structure Style where
  /-- Attributes that are switched on or off, newest first. -/
  attributes : List (String × Bool)
  color : Option String
  background : Option String
  link : Option String
deriving DecidableEq

namespace Style

/-- Why a definition makes no style. -/
inductive Fault where
  /-- A word has no meaning where it stands. -/
  | meaningless
  /-- A component of a color is left empty. -/
  | emptyComponent
  /-- A component of a color has too many digits. -/
  | overlong (digits : Nat)
deriving DecidableEq

/-- The style without effect. -/
def plain : Style := ⟨[], none, none, none⟩

/-- The attributes in the order in which they are written. -/
def attributeNames : List String :=
  ["bold", "dim", "italic", "underline", "blink", "blink2", "reverse", "conceal", "strike",
   "underline2", "frame", "encircle", "overline"]

/-- The short names of attributes. -/
def shortNames : List (String × String) :=
  [("b", "bold"), ("d", "dim"), ("i", "italic"), ("u", "underline"), ("r", "reverse"),
   ("c", "conceal"), ("s", "strike"), ("uu", "underline2"), ("o", "overline")]

/-- The attribute of a name or a short name. -/
def attribute? (word : String) : Option String :=
  if attributeNames.contains word then some word else shortNames.lookup word

/-- The names of colors. -/
def colorNames : List String :=
  ["default", "black", "red", "green", "yellow", "blue", "magenta", "cyan", "white", "bright_black",
   "bright_red", "bright_green", "bright_yellow", "bright_blue", "bright_magenta", "bright_cyan",
   "bright_white", "grey0", "gray0", "navy_blue", "dark_blue", "blue3", "blue1", "dark_green",
   "deep_sky_blue4", "dodger_blue3", "dodger_blue2", "green4", "spring_green4", "turquoise4",
   "deep_sky_blue3", "dodger_blue1", "green3", "spring_green3", "dark_cyan", "light_sea_green",
   "deep_sky_blue2", "deep_sky_blue1", "spring_green2", "cyan3", "dark_turquoise", "turquoise2",
   "green1", "spring_green1", "medium_spring_green", "cyan2", "cyan1", "dark_red", "deep_pink4",
   "purple4", "purple3", "blue_violet", "orange4", "grey37", "gray37", "medium_purple4",
   "slate_blue3", "royal_blue1", "chartreuse4", "dark_sea_green4", "pale_turquoise4", "steel_blue",
   "steel_blue3", "cornflower_blue", "chartreuse3", "cadet_blue", "sky_blue3", "steel_blue1",
   "pale_green3", "sea_green3", "aquamarine3", "medium_turquoise", "chartreuse2", "sea_green2",
   "sea_green1", "aquamarine1", "dark_slate_gray2", "dark_magenta", "dark_violet", "purple",
   "light_pink4", "plum4", "medium_purple3", "slate_blue1", "yellow4", "wheat4", "grey53", "gray53",
   "light_slate_grey", "light_slate_gray", "medium_purple", "light_slate_blue", "dark_olive_green3",
   "dark_sea_green", "light_sky_blue3", "sky_blue2", "dark_sea_green3", "dark_slate_gray3",
   "sky_blue1", "chartreuse1", "light_green", "pale_green1", "dark_slate_gray1", "red3",
   "medium_violet_red", "magenta3", "dark_orange3", "indian_red", "hot_pink3", "medium_orchid3",
   "medium_orchid", "medium_purple2", "dark_goldenrod", "light_salmon3", "rosy_brown", "grey63",
   "gray63", "medium_purple1", "gold3", "dark_khaki", "navajo_white3", "grey69", "gray69",
   "light_steel_blue3", "light_steel_blue", "yellow3", "dark_sea_green2", "light_cyan3",
   "light_sky_blue1", "green_yellow", "dark_olive_green2", "dark_sea_green1", "pale_turquoise1",
   "deep_pink3", "magenta2", "hot_pink2", "orchid", "medium_orchid1", "orange3", "light_pink3",
   "pink3", "plum3", "violet", "light_goldenrod3", "tan", "misty_rose3", "thistle3", "plum2",
   "khaki3", "light_goldenrod2", "light_yellow3", "grey84", "gray84", "light_steel_blue1",
   "yellow2", "dark_olive_green1", "honeydew2", "light_cyan1", "red1", "deep_pink2", "deep_pink1",
   "magenta1", "orange_red1", "indian_red1", "hot_pink", "dark_orange", "salmon1", "light_coral",
   "pale_violet_red1", "orchid2", "orchid1", "orange1", "sandy_brown", "light_salmon1",
   "light_pink1", "pink1", "plum1", "gold1", "navajo_white1", "misty_rose1", "thistle1", "yellow1",
   "light_goldenrod1", "khaki1", "wheat1", "cornsilk1", "grey100", "gray100", "grey3", "gray3",
   "grey7", "gray7", "grey11", "gray11", "grey15", "gray15", "grey19", "gray19", "grey23", "gray23",
   "grey27", "gray27", "grey30", "gray30", "grey35", "gray35", "grey39", "gray39", "grey42",
   "gray42", "grey46", "gray46", "grey50", "gray50", "grey54", "gray54", "grey58", "gray58",
   "grey62", "gray62", "grey66", "gray66", "grey70", "gray70", "grey74", "gray74", "grey78",
   "gray78", "grey82", "gray82", "grey85", "gray85", "grey89", "gray89", "grey93", "gray93"]

/-! ## Colors -/

/-- The value of a component of a color. -/
def component (cs : List Char) : Except Fault Nat :=
  if cs.isEmpty then .error .emptyComponent
  else if Text.maxDigits < cs.length then .error (.overlong cs.length)
  else .ok (Text.ofDigits (cs.filterMap Text.decimalDigit?))

/-- Check the three components of a color. -/
def checkComponents (cs : List Char) : Except Fault Unit :=
  match cs.splitOn ',' with
  | [red, green, blue] => do
    let values ← [red, green, blue].mapM component
    if values.all (· ≤ 255) then .ok () else .error .meaningless
  | _ => .error .meaningless

/-- What stands between a word with an opening parenthesis and the parenthesis that ends a text. -/
def between? (opening : String) (cs : List Char) : Option (List Char) :=
  if opening.toList.isPrefixOf cs && cs.getLast? == some ')' then
    some (cs.drop opening.length).dropLast
  else none

/-- Whether a character is a lower-case hexadecimal digit. -/
def isHexDigit (c : Char) : Bool :=
  Text.isAsciiDigit c || ('a' ≤ c && c ≤ 'f')

/-- Check that a word in lower case is a color: a name, six hexadecimal digits after a number sign,
the number of a color, or three components. -/
def checkColor (word : String) : Except Fault Unit :=
  let cs := word.toList
  if colorNames.contains word then .ok ()
  else if cs.head? = some '#' && cs.length = 7 && (cs.drop 1).all isHexDigit then .ok ()
  else
    match between? "color(" cs, between? "rgb(" cs with
    | some number, _ =>
      if !number.isEmpty && number.length ≤ 3 && number.all Text.isAsciiDigit
          && Text.valueOf number ≤ 255 then
        .ok ()
      else .error .meaningless
    | _, some components =>
      let isPart (c : Char) : Bool := (Text.decimalDigit? c).isSome || c == ','
      if !components.isEmpty && components.all isPart then
        checkComponents components
      else .error .meaningless
    | none, none => .error .meaningless

/-! ## Definitions -/

/-- The words of a text. -/
def words (cs : List Char) : List String :=
  ((cs.splitOnP Text.isBlankOrSeparator).filter (· ≠ [])).map String.ofList

/-- A style with the words of a definition added. -/
def addWords (s : Style) : List String → Except Fault Style
  | [] => .ok s
  | word :: rest =>
    match Text.lower word, rest with
    | "on", color :: rest => do
      checkColor (Text.lower color)
      addWords { s with background := some (Text.lower color) } rest
    | "not", name :: rest =>
      match attribute? name with
      | some name => addWords { s with attributes := (name, false) :: s.attributes } rest
      | none => .error .meaningless
    | "link", address :: rest => addWords { s with link := some address } rest
    | "on", [] | "not", [] | "link", [] => .error .meaningless
    | word, rest =>
      match attribute? word with
      | some name => addWords { s with attributes := (name, true) :: s.attributes } rest
      | none => do
        checkColor word
        addWords { s with color := some word } rest

/-- The style of a definition. -/
def ofDefinition (cs : List Char) : Except Fault Style :=
  if words cs = ["none"] then .ok plain else plain.addWords (words cs)

/-- The normal form of the definition of a style. -/
def definition (s : Style) : String :=
  let attributes := attributeNames.filterMap fun name =>
    (s.attributes.lookup name).map fun isOn => if isOn then name else "not " ++ name
  let parts := attributes ++ s.color.toList ++ (s.background.toList.map ("on " ++ ·))
    ++ (s.link.toList.map ("link " ++ ·))
  if parts.isEmpty then "none" else " ".intercalate parts

/-- The normal form of a definition.  What defines no style is only trimmed and turned to lower
case, except that faulty components of a color are told. -/
def normalize (cs : List Char) : Except Fault String :=
  match ofDefinition cs with
  | .ok s => .ok s.definition
  | .error .meaningless =>
    .ok (Text.lower (String.ofList (Text.trim Text.isBlankOrSeparator cs)))
  | .error fault => .error fault

end Style

end MerkleLog.Console.Markup
