/-
  Names of styles.

  * A style is described by words: attributes, which may be negated, a colour, `on` and a background
    colour, and `link` and an address.  Many descriptions mean the same style.
  * `styleName` is one name for all of them: attributes in a fixed order, then colour, background
    and link.  What describes no style is a name by itself, in lower case.
  * A colour given by three numbers of which one is no numeral is a defect, wherever the style is
    named or used.
-/
import ContractAudit.Defect
import ContractAudit.Text.Blank
import ContractAudit.Text.Hex
import ContractAudit.Text.Line
import ContractAudit.Text.Lower
import ContractAudit.Text.Numeral

namespace ContractAudit.Terminal

/-- The attributes in their order, each with its short names. -/
def styleAttributes : List (String × List String) := [
  ("bold", ["b"]), ("dim", ["d"]), ("italic", ["i"]), ("underline", ["u"]), ("blink", []),
  ("blink2", []), ("reverse", ["r"]), ("conceal", ["c"]), ("strike", ["s"]), ("underline2", ["uu"]),
  ("frame", []), ("encircle", []), ("overline", ["o"])]

/-- The attribute of a word. -/
def attribute? (word : String) : Option String :=
  (styleAttributes.find? fun a => a.1 == word || a.2.contains word).map (·.1)

/-- The colours that have a name. -/
def colourNames : List String := [
    "default", "black", "red", "green", "yellow", "blue", "magenta", "cyan", "white",
    "bright_black", "bright_red", "bright_green", "bright_yellow", "bright_blue",
    "bright_magenta", "bright_cyan", "bright_white", "grey0", "gray0", "navy_blue", "dark_blue",
    "blue3", "blue1", "dark_green", "deep_sky_blue4", "dodger_blue3", "dodger_blue2", "green4",
    "spring_green4", "turquoise4", "deep_sky_blue3", "dodger_blue1", "green3", "spring_green3",
    "dark_cyan", "light_sea_green", "deep_sky_blue2", "deep_sky_blue1", "spring_green2", "cyan3",
    "dark_turquoise", "turquoise2", "green1", "spring_green1", "medium_spring_green", "cyan2",
    "cyan1", "dark_red", "deep_pink4", "purple4", "purple3", "blue_violet", "orange4", "grey37",
    "gray37", "medium_purple4", "slate_blue3", "royal_blue1", "chartreuse4", "dark_sea_green4",
    "pale_turquoise4", "steel_blue", "steel_blue3", "cornflower_blue", "chartreuse3",
    "cadet_blue", "sky_blue3", "steel_blue1", "pale_green3", "sea_green3", "aquamarine3",
    "medium_turquoise", "chartreuse2", "sea_green2", "sea_green1", "aquamarine1",
    "dark_slate_gray2", "dark_magenta", "dark_violet", "purple", "light_pink4", "plum4",
    "medium_purple3", "slate_blue1", "yellow4", "wheat4", "grey53", "gray53", "light_slate_grey",
    "light_slate_gray", "medium_purple", "light_slate_blue", "dark_olive_green3",
    "dark_sea_green", "light_sky_blue3", "sky_blue2", "dark_sea_green3", "dark_slate_gray3",
    "sky_blue1", "chartreuse1", "light_green", "pale_green1", "dark_slate_gray1", "red3",
    "medium_violet_red", "magenta3", "dark_orange3", "indian_red", "hot_pink3", "medium_orchid3",
    "medium_orchid", "medium_purple2", "dark_goldenrod", "light_salmon3", "rosy_brown", "grey63",
    "gray63", "medium_purple1", "gold3", "dark_khaki", "navajo_white3", "grey69", "gray69",
    "light_steel_blue3", "light_steel_blue", "yellow3", "dark_sea_green2", "light_cyan3",
    "light_sky_blue1", "green_yellow", "dark_olive_green2", "dark_sea_green1", "pale_turquoise1",
    "deep_pink3", "magenta2", "hot_pink2", "orchid", "medium_orchid1", "orange3", "light_pink3",
    "pink3", "plum3", "violet", "light_goldenrod3", "tan", "misty_rose3", "thistle3", "plum2",
    "khaki3", "light_goldenrod2", "light_yellow3", "grey84", "gray84", "light_steel_blue1",
    "yellow2", "dark_olive_green1", "honeydew2", "light_cyan1", "red1", "deep_pink2",
    "deep_pink1", "magenta1", "orange_red1", "indian_red1", "hot_pink", "dark_orange", "salmon1",
    "light_coral", "pale_violet_red1", "orchid2", "orchid1", "orange1", "sandy_brown",
    "light_salmon1", "light_pink1", "pink1", "plum1", "gold1", "navajo_white1", "misty_rose1",
    "thistle1", "yellow1", "light_goldenrod1", "khaki1", "wheat1", "cornsilk1", "grey100",
    "gray100", "grey3", "gray3", "grey7", "gray7", "grey11", "gray11", "grey15", "gray15",
    "grey19", "gray19", "grey23", "gray23", "grey27", "gray27", "grey30", "gray30", "grey35",
    "gray35", "grey39", "gray39", "grey42", "gray42", "grey46", "gray46", "grey50", "gray50",
    "grey54", "gray54", "grey58", "gray58", "grey62", "gray62", "grey66", "gray66", "grey70",
    "gray70", "grey74", "gray74", "grey78", "gray78", "grey82", "gray82", "grey85", "gray85",
    "grey89", "gray89", "grey93", "gray93"]

/-- Why words describe no style. -/
inductive StyleError where
  /-- They are no description of a style. -/
  | unknown
  /-- They give a colour by numbers of which one is no numeral. -/
  | badNumber
deriving DecidableEq, Repr

/-- Whether the characters are one to three decimal digits of a number up to 255. -/
def isColourNumber (s : List Char) : Bool :=
  !s.isEmpty && s.length ≤ 3 && s.all Char.isDigit && Nat.ofDigitChars 10 s 0 ≤ 255

/-- What stands between an opening text and a closing bracket at the end. -/
def between? (opening : String) (s : List Char) : Option (List Char) :=
  if opening.toList.isPrefixOf s && s.getLast? == some ')' then
    some (s.drop opening.length).dropLast
  else none

/-- Three numbers up to 255 with commas between them. -/
def checkComponents (s : List Char) : Except StyleError Unit :=
  let parts := s.splitOn ','
  if s.isEmpty || parts.length ≠ 3 || !(s.all fun c => c == ',' || (Text.digitValue? c).isSome) then
    .error .unknown
  else
    match parts.mapM Text.readNat? with
    | none => .error .badNumber
    | some ns => if ns.all (· ≤ 255) then .ok () else .error .unknown

/-- The name of the colour that a word is: a name, six hexadecimal digits, a number or three
numbers, in lower case. -/
def colourName (word : String) : Except StyleError String :=
  let word := Text.lower word
  if colourNames.contains word then .ok word
  else
    match word.toList with
    | '#' :: digits =>
      if digits.length == 6 && digits.all fun c => (Text.hexDigit? c).isSome then .ok word
      else .error .unknown
    | s =>
      match between? "color(" s, between? "rgb(" s with
      | some n, _ => if isColourNumber n then .ok word else .error .unknown
      | none, some ns => (checkComponents ns).map fun _ => word
      | none, none => .error .unknown

/-- A style: attributes with their values, colours and an address. -/
structure Marking where
  attributes : List (String × Bool) := []
  colour : Option String := none
  background : Option String := none
  link : Option String := none

namespace Marking

/-- The description with a value for an attribute; the last one counts. -/
def withAttribute (d : Marking) (name : String) (value : Bool) : Marking :=
  { d with attributes := (name, value) :: d.attributes }

/-- Reads words into a description. -/
def read (d : Marking) : List String → Except StyleError Marking
  | [] => .ok d
  | word :: rest =>
    match Text.lower word, rest with
    | "on", c :: rest => do
      let c ← colourName c
      read { d with background := some c } rest
    | "not", a :: rest =>
      match attribute? a with
      | some name => read (d.withAttribute name false) rest
      | none => .error .unknown
    | "link", address :: rest => read { d with link := some address } rest
    | w, rest =>
      match attribute? w with
      | some name => read (d.withAttribute name true) rest
      | none => do
        let c ← colourName w
        read { d with colour := some c } rest
termination_by words => words.length

/-- The words of a description in their order. -/
def words (d : Marking) : List String :=
  (styleAttributes.filterMap fun (name, _) =>
    (d.attributes.find? (·.1 == name)).map fun a => if a.2 then name else "not " ++ name) ++
  d.colour.toList ++ (d.background.map ("on " ++ ·)).toList ++ (d.link.map ("link " ++ ·)).toList

/-- The name of a style. -/
def name (d : Marking) : String :=
  if d.words.isEmpty then "none" else Text.joined " " d.words

end Marking

/-- The words of a text. -/
def blankWords (s : List Char) : List String :=
  ((s.splitOnP Text.isBlank).filter (!·.isEmpty)).map String.ofList

/-- The style that a text describes. -/
def readStyle (s : List Char) : Except StyleError Marking :=
  if Text.trim s = "none".toList then .ok {} else Marking.read {} (blankWords s)

/-- The name of the style that a text describes. -/
def styleName (s : List Char) : Except Defect String :=
  match readStyle s with
  | .ok d => .ok d.name
  | .error .unknown => .ok (Text.lower (String.ofList (Text.trim s)))
  | .error .badNumber => .error .badColour

end ContractAudit.Terminal
