import ComponentLookup.Json.Reader
import ComponentLookup.Text.Blank
import ComponentLookup.Text.Digit
import ComponentLookup.Text.Lower
import ComponentLookup.Text.Split

/-!
# Styles

The styles that a tag of console markup can name: attributes such as `bold`, a colour, a background
behind `on`, and a target behind `link`, in any order and letter case.  The consoles of this library
show no styles; what counts is that two spellings of one style name the same one
(`Style.canonicalName`), because a closing tag has to name the style of an open one.
-/

namespace ComponentLookup.Console

open Text

/-! ### Attributes and colours -/

/-- The attributes in the order in which a style lists them, each with its short names. -/
def attributes : List (String × List String) :=
  [("bold", ["b"]), ("dim", ["d"]), ("italic", ["i"]), ("underline", ["u"]), ("blink", []),
   ("blink2", []), ("reverse", ["r"]), ("conceal", ["c"]), ("strike", ["s"]),
   ("underline2", ["uu"]), ("frame", []), ("encircle", []), ("overline", ["o"])]

/-- The attribute of a name, long or short. -/
def attribute? (word : String) : Option String :=
  (attributes.find? fun a => a.1 = word || a.2.contains word).map (·.1)

/-- The grey levels of the palette. -/
def greyLevels : List Nat :=
  [0, 3, 7, 11, 15, 19, 23, 27, 30, 35, 37, 39, 42, 46, 50, 53, 54, 58, 62, 63, 66, 69, 70, 74, 78,
   82, 84, 85, 89, 93, 100]

/-- The names of the palette, part 1 of 2. -/
def colourNamesA : List String :=
  ["black", "red", "green", "yellow", "blue", "magenta", "cyan", "white", "bright_black",
   "bright_red", "bright_green", "bright_yellow", "bright_blue", "bright_magenta", "bright_cyan",
   "bright_white", "navy_blue", "dark_blue", "blue3", "blue1", "dark_green", "deep_sky_blue4",
   "dodger_blue3", "dodger_blue2", "green4", "spring_green4", "turquoise4", "deep_sky_blue3",
   "dodger_blue1", "green3", "spring_green3", "dark_cyan", "light_sea_green", "deep_sky_blue2",
   "deep_sky_blue1", "spring_green2", "cyan3", "dark_turquoise", "turquoise2", "green1",
   "spring_green1", "medium_spring_green", "cyan2", "cyan1", "dark_red", "deep_pink4", "purple4",
   "purple3", "blue_violet", "orange4", "medium_purple4", "slate_blue3", "royal_blue1",
   "chartreuse4", "dark_sea_green4", "pale_turquoise4", "steel_blue", "steel_blue3",
   "cornflower_blue", "chartreuse3", "cadet_blue", "sky_blue3", "steel_blue1", "pale_green3",
   "sea_green3", "aquamarine3", "medium_turquoise", "chartreuse2", "sea_green2", "sea_green1",
   "aquamarine1", "dark_slate_gray2", "dark_magenta", "dark_violet", "purple", "light_pink4",
   "plum4", "medium_purple3", "slate_blue1", "yellow4", "wheat4", "light_slate_grey",
   "light_slate_gray", "medium_purple", "light_slate_blue", "dark_olive_green3", "dark_sea_green"]

/-- The names of the palette, part 2 of 2. -/
def colourNamesB : List String :=
  ["light_sky_blue3", "sky_blue2", "dark_sea_green3", "dark_slate_gray3", "sky_blue1",
   "chartreuse1", "light_green", "pale_green1", "dark_slate_gray1", "red3", "medium_violet_red",
   "magenta3", "dark_orange3", "indian_red", "hot_pink3", "medium_orchid3", "medium_orchid",
   "medium_purple2", "dark_goldenrod", "light_salmon3", "rosy_brown", "medium_purple1", "gold3",
   "dark_khaki", "navajo_white3", "light_steel_blue3", "light_steel_blue", "yellow3",
   "dark_sea_green2", "light_cyan3", "light_sky_blue1", "green_yellow", "dark_olive_green2",
   "dark_sea_green1", "pale_turquoise1", "deep_pink3", "magenta2", "hot_pink2", "orchid",
   "medium_orchid1", "orange3", "light_pink3", "pink3", "plum3", "violet", "light_goldenrod3",
   "tan", "misty_rose3", "thistle3", "plum2", "khaki3", "light_goldenrod2", "light_yellow3",
   "light_steel_blue1", "yellow2", "dark_olive_green1", "honeydew2", "light_cyan1", "red1",
   "deep_pink2", "deep_pink1", "magenta1", "orange_red1", "indian_red1", "hot_pink", "dark_orange",
   "salmon1", "light_coral", "pale_violet_red1", "orchid2", "orchid1", "orange1", "sandy_brown",
   "light_salmon1", "light_pink1", "pink1", "plum1", "gold1", "navajo_white1", "misty_rose1",
   "thistle1", "yellow1", "light_goldenrod1", "khaki1", "wheat1", "cornsilk1"]

/-- The text between a start and an end. -/
def between? (start finish : String) (word : String) : Option (List Char) :=
  let cs := word.toList
  let s := start.toList
  let f := finish.toList
  if s.isPrefixOf cs && f.isSuffixOf (cs.drop s.length) then
    some ((cs.drop s.length).take (cs.length - s.length - f.length))
  else none

/-- The character is a hexadecimal digit in lower case. -/
def isHexDigit (c : Char) : Bool := c.isDigit || ('a' ≤ c && c ≤ 'f')

/-- The number that decimal digits of any script give. -/
def numberOf (digits : List Char) : Nat :=
  digits.foldl (fun n d => n * 10 + (digit? d).getD 0) 0

/-- The word names a grey of the palette, in either spelling. -/
def isGrey (word : String) : Bool :=
  ["grey", "gray"].any fun start => greyLevels.any fun level => word = start ++ toString level

/-- The word names a colour by a name, by hexadecimal digits, or by a number of the palette. -/
def isNamedColour (word : String) : Bool :=
  word = "default" || colourNamesA.contains word || colourNamesB.contains word ||
  isGrey word ||
  ((between? "#" "" word).any fun ds => ds.length = 6 && ds.all isHexDigit) ||
  ((between? "color(" ")" word).any fun ds =>
    ds != [] && ds.length ≤ 3 && ds.all Char.isDigit && numberOf ds ≤ 255)

/-- Why words make up no style. -/
inductive StyleFault where
  /-- A word has no meaning where it stands. -/
  | unknownWord
  /-- A colour is given by components, and one of them is no number. -/
  | brokenComponent
  deriving DecidableEq

/-- Checks a colour that is given by its components. -/
def checkComponents (components : List Char) : Except StyleFault Unit :=
  let parts := splitOn ',' components
  if components = [] || !components.all (fun c => c == ',' || (digit? c).isSome) then
    .error .unknownWord
  else if parts.length ≠ 3 then .error .unknownWord
  else if parts.any fun ds => ds = [] || Json.maxIntegerDigits < ds.length then
    .error .brokenComponent
  else if parts.all fun ds => numberOf ds ≤ 255 then .ok ()
  else .error .unknownWord

/-- Checks that a word names a colour. -/
def checkColour (word : String) : Except StyleFault Unit :=
  if isNamedColour word then .ok ()
  else
    match between? "rgb(" ")" word with
    | some components => checkComponents components
    | none => .error .unknownWord

/-! ### Styles -/

/-- A style.  An attribute can be switched on or off; the last word about it counts. -/
structure Style where
  switched : List (String × Bool)
  colour : Option String
  background : Option String
  link : Option String

namespace Style

/-- The style that says nothing. -/
def plain : Style := { switched := [], colour := none, background := none, link := none }

/-- Reads the words of a style behind what has been read. -/
def ofWords (style : Style) : List String → Except StyleFault Style
  | [] => .ok style
  | word :: rest =>
    let word := lower word
    if word = "on" then
      match rest with
      | colour :: rest => do
        let colour := lower colour
        checkColour colour
        ofWords { style with background := some colour } rest
      | [] => .error .unknownWord
    else if word = "not" then
      match rest with
      | name :: rest =>
        match attribute? name with
        | some a => ofWords { style with switched := (a, false) :: style.switched } rest
        | none => .error .unknownWord
      | [] => .error .unknownWord
    else if word = "link" then
      match rest with
      | target :: rest => ofWords { style with link := some target } rest
      | [] => .error .unknownWord
    else
      match attribute? word with
      | some a => ofWords { style with switched := (a, true) :: style.switched } rest
      | none => do
        checkColour word
        ofWords { style with colour := some word } rest

/-- The words of a style, in canonical order. -/
def words (style : Style) : List String :=
  (attributes.filterMap fun (name, _) =>
    (style.switched.lookup name).map fun on => if on then name else "not " ++ name) ++
  style.colour.toList ++ (style.background.map ("on " ++ ·)).toList ++
  (style.link.map ("link " ++ ·)).toList

/-- The name of a style. -/
def name (style : Style) : String :=
  match style.words with
  | [] => "none"
  | words => " ".intercalate words

end Style

/-- The words of a text. -/
def wordsOf (text : List Char) : List String :=
  ((text.splitBy fun a b => Text.isBlank a == Text.isBlank b).filter fun word =>
    !word.all Text.isBlank).map String.ofList

/-- The name that all spellings of one style share.  A text that is no style stands for itself,
letter case and blanks around it aside; a colour with a broken component has no name. -/
def canonicalName (tag : List Char) : Except StyleFault String :=
  let plain := Text.trim (String.ofList tag)
  if plain = "" || plain = "none" then .ok Style.plain.name
  else
    match Style.plain.ofWords (wordsOf tag) with
    | .ok style => .ok style.name
    | .error .unknownWord => .ok (lower plain)
    | .error .brokenComponent => .error .brokenComponent

end ComponentLookup.Console
