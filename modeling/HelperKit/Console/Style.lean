import HelperKit.Text.Blank
import HelperKit.Text.Lowercase
import HelperKit.Text.Numeral

/-!
# Names of styles

A tag in marked-up text names a style by words: attributes, a colour, and the
colour of the background.  Two names mean the same style when they have the same
normal form, in which attributes have their long names and a fixed order.  A name
that is no style is compared as it stands, unless it holds a colour whose parts
cannot be read.
-/

namespace HelperKit

/-- A style. -/
structure Style where
  attributes : List (String × Bool)
  colour : Option Text
  background : Option Text
  link : Option Text

namespace Style

/-- The attributes in order, each with its long name and its other spellings. -/
def attributeNames : List (String × List String) :=
  [("bold", ["b"]), ("dim", ["d"]), ("italic", ["i"]), ("underline", ["u"]),
   ("blink", []), ("blink2", []), ("reverse", ["r"]), ("conceal", ["c"]),
   ("strike", ["s"]), ("underline2", ["uu"]), ("frame", []), ("encircle", []),
   ("overline", ["o"])]

/-- The colours with a name. -/
def colourNames : List String :=
  ["black", "red", "green", "yellow", "blue", "magenta", "cyan", "white", "bright_black",
   "bright_red", "bright_green", "bright_yellow", "bright_blue", "bright_magenta",
   "bright_cyan", "bright_white", "grey0", "gray0", "navy_blue", "dark_blue", "blue3",
   "blue1", "dark_green", "deep_sky_blue4", "dodger_blue3", "dodger_blue2", "green4",
   "spring_green4", "turquoise4", "deep_sky_blue3", "dodger_blue1", "green3",
   "spring_green3", "dark_cyan", "light_sea_green", "deep_sky_blue2", "deep_sky_blue1",
   "spring_green2", "cyan3", "dark_turquoise", "turquoise2", "green1", "spring_green1",
   "medium_spring_green", "cyan2", "cyan1", "dark_red", "deep_pink4", "purple4", "purple3",
   "blue_violet", "orange4", "grey37", "gray37", "medium_purple4", "slate_blue3",
   "royal_blue1", "chartreuse4", "dark_sea_green4", "pale_turquoise4", "steel_blue",
   "steel_blue3", "cornflower_blue", "chartreuse3", "cadet_blue", "sky_blue3",
   "steel_blue1", "pale_green3", "sea_green3", "aquamarine3", "medium_turquoise",
   "chartreuse2", "sea_green2", "sea_green1", "aquamarine1", "dark_slate_gray2",
   "dark_magenta", "dark_violet", "purple", "light_pink4", "plum4", "medium_purple3",
   "slate_blue1", "yellow4", "wheat4", "grey53", "gray53", "light_slate_grey",
   "light_slate_gray", "medium_purple", "light_slate_blue", "dark_olive_green3",
   "dark_sea_green", "light_sky_blue3", "sky_blue2", "dark_sea_green3", "dark_slate_gray3",
   "sky_blue1", "chartreuse1", "light_green", "pale_green1", "dark_slate_gray1", "red3",
   "medium_violet_red", "magenta3", "dark_orange3", "indian_red", "hot_pink3",
   "medium_orchid3", "medium_orchid", "medium_purple2", "dark_goldenrod", "light_salmon3",
   "rosy_brown", "grey63", "gray63", "medium_purple1", "gold3", "dark_khaki",
   "navajo_white3", "grey69", "gray69", "light_steel_blue3", "light_steel_blue", "yellow3",
   "dark_sea_green2", "light_cyan3", "light_sky_blue1", "green_yellow",
   "dark_olive_green2", "dark_sea_green1", "pale_turquoise1", "deep_pink3", "magenta2",
   "hot_pink2", "orchid", "medium_orchid1", "orange3", "light_pink3", "pink3", "plum3",
   "violet", "light_goldenrod3", "tan", "misty_rose3", "thistle3", "plum2", "khaki3",
   "light_goldenrod2", "light_yellow3", "grey84", "gray84", "light_steel_blue1", "yellow2",
   "dark_olive_green1", "honeydew2", "light_cyan1", "red1", "deep_pink2", "deep_pink1",
   "magenta1", "orange_red1", "indian_red1", "hot_pink", "dark_orange", "salmon1",
   "light_coral", "pale_violet_red1", "orchid2", "orchid1", "orange1", "sandy_brown",
   "light_salmon1", "light_pink1", "pink1", "plum1", "gold1", "navajo_white1",
   "misty_rose1", "thistle1", "yellow1", "light_goldenrod1", "khaki1", "wheat1",
   "cornsilk1", "grey100", "gray100", "grey3", "gray3", "grey7", "gray7", "grey11",
   "gray11", "grey15", "gray15", "grey19", "gray19", "grey23", "gray23", "grey27",
   "gray27", "grey30", "gray30", "grey35", "gray35", "grey39", "gray39", "grey42",
   "gray42", "grey46", "gray46", "grey50", "gray50", "grey54", "gray54", "grey58",
   "gray58", "grey62", "gray62", "grey66", "gray66", "grey70", "gray70", "grey74",
   "gray74", "grey78", "gray78", "grey82", "gray82", "grey85", "gray85", "grey89",
   "gray89", "grey93", "gray93"]

/-- The attribute that a word names. -/
def attribute? (word : Text) : Option String :=
  (attributeNames.find? fun (name, spellings) =>
    (name :: spellings).any fun spelling => Text.ofString spelling = word).map Prod.fst

/-- Whether a text is a hexadecimal digit. -/
def isHexDigit (point : CodePoint) : Bool :=
  match point with
  | .char character =>
      ('0' ≤ character && character ≤ '9') || ('a' ≤ character && character ≤ 'f')
  | .surrogate _ => false

/-- What stands between a word with an opening parenthesis and a closing one. -/
def argument? (opening : String) (word : Text) : Option Text :=
  if word.startsWith opening ∧ word.getLast? = some (.char ')') then
    some ((word.drop opening.length).dropLast)
  else none

/-- Why words are no style: one of them means nothing, or the parts of a colour
are not three numbers although they look like it. -/
inductive Flaw where
  | unknownWord
  | brokenNumber
  deriving DecidableEq

/-- Whether a text is the number of a colour, which has up to three digits. -/
def isColourNumber (text : Text) : Bool :=
  text.length ≤ 3 && text.all (fun point => point.isIn [(0x30, 0x39)]) &&
    text.toInt?.any fun number => number ≤ 255

/-- Checks the parts of a colour, which are separated by commas.  All of them are
read before any of them is compared with the greatest part. -/
def checkParts (text : Text) : Except Flaw Unit :=
  let pieces := text.splitOn (.char ',')
  let digits := text.all fun point => point = .char ',' || point.digit?.isSome
  if text = [] || !digits || pieces.length ≠ 3 then .error .unknownWord
  else
    match pieces.mapM Text.toInt? with
    | none => .error .brokenNumber
    | some parts => if parts.all (· ≤ 255) then .ok () else .error .unknownWord

/-- Checks that a word in lower case is a colour: a name, a number, or three
parts. -/
def checkColour (word : Text) : Except Flaw Unit :=
  match argument? "rgb(" word with
  | some parts => checkParts parts
  | none =>
      if word = Text.ofString "default" ||
          colourNames.any (fun name => Text.ofString name = word) ||
          (word.head? = some (.char '#') && word.length = 7 && (word.drop 1).all isHexDigit) ||
          (argument? "color(" word).any isColourNumber then
        .ok ()
      else .error .unknownWord

/-- The words of a text, which blanks separate. -/
def words (text : Text) : List Text :=
  (text.splitBy fun left right => left.isBlank == right.isBlank).filter fun piece =>
    !Text.isBlank piece

/-- The style with an attribute switched on or off. -/
def switch (style : Style) (name : String) (value : Bool) : Style :=
  { style with
    attributes := (name, value) :: style.attributes.filter fun entry => entry.1 ≠ name }

/-- The style that words add up to.  The first word that is wrong decides. -/
def add : Style → List Text → Except Flaw Style
  | style, [] => .ok style
  | style, word :: rest =>
      if word.lower = Text.ofString "on" then
        match rest with
        | [] => .error .unknownWord
        | colour :: rest =>
            match checkColour colour.lower with
            | .ok () => add { style with background := some colour.lower } rest
            | .error flaw => .error flaw
      else if word.lower = Text.ofString "not" then
        match rest with
        | [] => .error .unknownWord
        | name :: rest =>
            match attribute? name with
            | some name => add (style.switch name false) rest
            | none => .error .unknownWord
      else if word.lower = Text.ofString "link" then
        match rest with
        | [] => .error .unknownWord
        | target :: rest => add { style with link := some target } rest
      else
        match attribute? word.lower with
        | some name => add (style.switch name true) rest
        | none =>
            match checkColour word.lower with
            | .ok () => add { style with colour := some word.lower } rest
            | .error flaw => .error flaw

/-- The words of a style in its normal form. -/
def toWords (style : Style) : List Text :=
  (attributeNames.flatMap fun (name, _) =>
    match style.attributes.lookup name with
    | some true => [Text.ofString name]
    | some false => [Text.ofString "not", Text.ofString name]
    | none => []) ++
  style.colour.toList ++
  (style.background.toList.flatMap fun colour => [Text.ofString "on", colour]) ++
  (style.link.toList.flatMap fun target => [Text.ofString "link", target])

/-- The style without any properties. -/
def plain : Style :=
  ⟨[], none, none, none⟩

/-- The style that a name means. -/
def ofName (name : Text) : Except Flaw Style :=
  if name.strip = Text.ofString "none" then .ok plain else add plain (words name)

/-- The normal form of a name.  A name with a broken colour has none. -/
def normalise? (name : Text) : Option Text :=
  match ofName name with
  | .ok style =>
      if style.toWords = [] then some "none" else some (Text.join " " style.toWords)
  | .error .unknownWord => some name.strip.lower
  | .error .brokenNumber => none

/-- Whether a name can be shown: what means nothing is passed over, but a broken
colour is not. -/
def isShowable (name : Text) : Bool :=
  match ofName name with
  | .error .brokenNumber => false
  | _ => true

end Style

end HelperKit
