import FormulaGraph.Fault
import FormulaGraph.Terminal.Line
import FormulaGraph.Text.LowerCase

/-!
# Styles of terminal text

A style is written in words: attributes, which `not` turns off, a colour, and a background after
`on`. The same style can be written in several ways; `canonicalName` is one text for all of them.
-/

namespace FormulaGraph.Terminal

def attributeNames : List String :=
  ["bold", "dim", "italic", "underline", "blink", "blink2", "reverse", "conceal", "strike",
   "underline2", "frame", "encircle", "overline"]

def shortAttributes : List (String × String) :=
  [("b", "bold"), ("d", "dim"), ("i", "italic"), ("u", "underline"), ("r", "reverse"),
   ("c", "conceal"), ("s", "strike"), ("uu", "underline2"), ("o", "overline")]

def attribute? (name : String) : Option String :=
  if attributeNames.contains name then some name else shortAttributes.lookup name

def colorNames : List String :=
  ["black", "red", "green", "yellow", "blue", "magenta", "cyan", "white", "bright_black",
   "bright_red", "bright_green", "bright_yellow", "bright_blue", "bright_magenta",
   "bright_cyan", "bright_white", "grey0", "gray0", "navy_blue", "dark_blue", "blue3", "blue1",
   "dark_green", "deep_sky_blue4", "dodger_blue3", "dodger_blue2", "green4", "spring_green4",
   "turquoise4", "deep_sky_blue3", "dodger_blue1", "green3", "spring_green3", "dark_cyan",
   "light_sea_green", "deep_sky_blue2", "deep_sky_blue1", "spring_green2", "cyan3",
   "dark_turquoise", "turquoise2", "green1", "spring_green1", "medium_spring_green", "cyan2",
   "cyan1", "dark_red", "deep_pink4", "purple4", "purple3", "blue_violet", "orange4", "grey37",
   "gray37", "medium_purple4", "slate_blue3", "royal_blue1", "chartreuse4", "dark_sea_green4",
   "pale_turquoise4", "steel_blue", "steel_blue3", "cornflower_blue", "chartreuse3",
   "cadet_blue", "sky_blue3", "steel_blue1", "pale_green3", "sea_green3", "aquamarine3",
   "medium_turquoise", "chartreuse2", "sea_green2", "sea_green1", "aquamarine1",
   "dark_slate_gray2", "dark_magenta", "dark_violet", "purple", "light_pink4", "plum4",
   "medium_purple3", "slate_blue1", "yellow4", "wheat4", "grey53", "gray53", "light_slate_grey",
   "light_slate_gray", "medium_purple", "light_slate_blue", "dark_olive_green3",
   "dark_sea_green", "light_sky_blue3", "sky_blue2", "dark_sea_green3", "dark_slate_gray3",
   "sky_blue1", "chartreuse1", "light_green", "pale_green1", "dark_slate_gray1", "red3",
   "medium_violet_red", "magenta3", "dark_orange3", "indian_red", "hot_pink3", "medium_orchid3",
   "medium_orchid", "medium_purple2", "dark_goldenrod", "light_salmon3", "rosy_brown", "grey63",
   "gray63", "medium_purple1", "gold3", "dark_khaki", "navajo_white3", "grey69", "gray69",
   "light_steel_blue3", "light_steel_blue", "yellow3", "dark_sea_green2", "light_cyan3",
   "light_sky_blue1", "green_yellow", "dark_olive_green2", "dark_sea_green1", "pale_turquoise1",
   "deep_pink3", "magenta2", "hot_pink2", "orchid", "medium_orchid1", "orange3", "light_pink3",
   "pink3", "plum3", "violet", "light_goldenrod3", "tan", "misty_rose3", "thistle3", "plum2",
   "khaki3", "light_goldenrod2", "light_yellow3", "grey84", "gray84", "light_steel_blue1",
   "yellow2", "dark_olive_green1", "honeydew2", "light_cyan1", "red1", "deep_pink2",
   "deep_pink1", "magenta1", "orange_red1", "indian_red1", "hot_pink", "dark_orange", "salmon1",
   "light_coral", "pale_violet_red1", "orchid2", "orchid1", "orange1", "sandy_brown",
   "light_salmon1", "light_pink1", "pink1", "plum1", "gold1", "navajo_white1", "misty_rose1",
   "thistle1", "yellow1", "light_goldenrod1", "khaki1", "wheat1", "cornsilk1", "grey100",
   "gray100", "grey3", "gray3", "grey7", "gray7", "grey11", "gray11", "grey15", "gray15",
   "grey19", "gray19", "grey23", "gray23", "grey27", "gray27", "grey30", "gray30", "grey35",
   "gray35", "grey39", "gray39", "grey42", "gray42", "grey46", "gray46", "grey50", "gray50",
   "grey54", "gray54", "grey58", "gray58", "grey62", "gray62", "grey66", "gray66", "grey70",
   "gray70", "grey74", "gray74", "grey78", "gray78", "grey82", "gray82", "grey85", "gray85",
   "grey89", "gray89", "grey93", "gray93"]

def between? (opening closing : String) (cs : List Char) : Option (List Char) :=
  if opening.toList.isPrefixOf cs && closing.toList.isSuffixOf cs
      && opening.length + closing.length ≤ cs.length then
    some ((cs.drop opening.length).take (cs.length - opening.length - closing.length))
  else none

def readInteger (cs : List Char) : Except Misuse Int :=
  (Number.readInt cs).mapError (Misuse.ofIntFault (String.ofList cs))

def isColorNumber (cs : List Char) : Bool :=
  !cs.isEmpty && cs.length ≤ 3 && cs.all Char.isDigit && Text.ofDigits (Number.asciiValues cs) ≤ 255

/-- Whether characters are the parts of red, green and blue. A part of a triple that is no integer
is a misuse. -/
def isColorTriple (cs : List Char) : Except Misuse Bool := do
  if !cs.isEmpty && cs.all fun c => Text.isDigit c || Text.isBlank c || c == ',' then
    match splitWhere (· == ',') cs with
    | [red, green, blue] =>
      let parts ← [red, green, blue].mapM readInteger
      return parts.all (· ≤ 255)
    | _ => return false
  else return false

/-- Whether a word names a colour: by name, by six hexadecimal digits, by its number, or by its
parts of red, green and blue. -/
def isColor (word : String) : Except Misuse Bool :=
  let cs := word.toList
  if word == "default" || colorNames.contains word then .ok true
  else if cs.length == 7 && cs.head? == some '#' then
    .ok (cs.tail.all fun c => (Text.hexValue? c).isSome)
  else
    match between? "color(" ")" cs, between? "rgb(" ")" cs with
    | some number, _ => .ok (isColorNumber number)
    | none, some parts => isColorTriple parts
    | none, none => .ok false

structure Style where
  attributes : List (String × Bool)
  color : Option String
  background : Option String
  link : Option String

namespace Style

def unset : Style := ⟨[], none, none, none⟩

def setAttribute (s : Style) (name : String) (on : Bool) : Style :=
  { s with attributes := (name, on) :: s.attributes }

/-- A style with what words add to it; none if they do not say a style. -/
def addWords (s : Style) : List String → Except Misuse (Option Style)
  | [] => .ok (some s)
  | word :: rest =>
    match Text.lower word, rest with
    | "on", next :: rest => do
      let color := Text.lower next
      if ← isColor color then addWords { s with background := some color } rest else return none
    | "not", next :: rest =>
      match attribute? next with
      | some name => addWords (s.setAttribute name false) rest
      | none => .ok none
    | "link", next :: rest => addWords { s with link := some next } rest
    | word, rest =>
      match attribute? word with
      | some name => addWords (s.setAttribute name true) rest
      | none => do
        if ← isColor word then addWords { s with color := some word } rest else return none

def words (s : Style) : List String :=
  (attributeNames.flatMap fun name =>
    match s.attributes.lookup name with
    | some true => [name]
    | some false => ["not", name]
    | none => []) ++
    s.color.toList ++
    (match s.background with
      | some color => ["on", color]
      | none => []) ++
    match s.link with
    | some target => ["link", target]
    | none => []

def text (s : Style) : String :=
  match s.words with
  | [] => "none"
  | words => " ".intercalate words

def writtenWords (text : String) : List String :=
  ((splitWhere Text.isBlank text.toList).filter fun word => !word.isEmpty).map String.ofList

def read (written : String) : Except Misuse (Option Style) :=
  if Text.trim written == "none" then .ok (some unset) else unset.addWords (writtenWords written)

/-- One text for all ways to write a style. What says no style stands for itself, in small
letters. -/
def canonicalName (written : String) : Except Misuse String :=
  (read written).map fun
    | some style => style.text
    | none => Text.lower (Text.trim written)

end Style

/-- What is wrong with the first span whose style cannot be read. A style that says nothing is left
out when a text is shown. -/
def Styled.checkStyles (t : Styled) : Except Misuse Unit :=
  t.spans.forM fun s =>
    match s.style with
    | some style => (Style.read style).map fun _ => ()
    | none => .ok ()

end FormulaGraph.Terminal
