import CrateHeader.Text.Blank
import CrateHeader.Text.Casing
import CrateHeader.Text.Digits
import CrateHeader.Text.Lines

/-!
# Styles

A style is written in words: effects that are turned on or off, a colour, a colour behind the text, a link.
Two ways to write one style have one normal form, in which the effects stand in a fixed order.
-/

namespace CrateHeader.Terminal

/-- What a style does to the look of letters. -/
inductive Effect where
  | bold
  | dim
  | italic
  | underline
  | blink
  | blink2
  | reverse
  | conceal
  | strike
  | underline2
  | frame
  | encircle
  | overline
  deriving DecidableEq, Repr

namespace Effect

def all : List Effect :=
  [bold, dim, italic, underline, blink, blink2, reverse, conceal, strike, underline2, frame, encircle, overline]

def name : Effect → String
  | bold => "bold"
  | dim => "dim"
  | italic => "italic"
  | underline => "underline"
  | blink => "blink"
  | blink2 => "blink2"
  | reverse => "reverse"
  | conceal => "conceal"
  | strike => "strike"
  | underline2 => "underline2"
  | frame => "frame"
  | encircle => "encircle"
  | overline => "overline"

def abbreviations : List (String × Effect) :=
  [("d", dim), ("b", bold), ("i", italic), ("u", underline), ("r", reverse), ("c", conceal), ("s", strike),
    ("uu", underline2), ("o", overline)]

def ofName? (word : String) : Option Effect :=
  (all.find? fun e => e.name == word).or (abbreviations.lookup word)

end Effect

/-! ### Colours -/

private def colorNames : String := "default black red green yellow blue magenta cyan white bright_black bright_red bright_green
bright_yellow bright_blue bright_magenta bright_cyan bright_white grey0 gray0 navy_blue dark_blue
blue3 blue1 dark_green deep_sky_blue4 dodger_blue3 dodger_blue2 green4 spring_green4 turquoise4
deep_sky_blue3 dodger_blue1 green3 spring_green3 dark_cyan light_sea_green deep_sky_blue2
deep_sky_blue1 spring_green2 cyan3 dark_turquoise turquoise2 green1 spring_green1
medium_spring_green cyan2 cyan1 dark_red deep_pink4 purple4 purple3 blue_violet orange4 grey37
gray37 medium_purple4 slate_blue3 royal_blue1 chartreuse4 dark_sea_green4 pale_turquoise4
steel_blue steel_blue3 cornflower_blue chartreuse3 cadet_blue sky_blue3 steel_blue1 pale_green3
sea_green3 aquamarine3 medium_turquoise chartreuse2 sea_green2 sea_green1 aquamarine1
dark_slate_gray2 dark_magenta dark_violet purple light_pink4 plum4 medium_purple3 slate_blue1
yellow4 wheat4 grey53 gray53 light_slate_grey light_slate_gray medium_purple light_slate_blue
dark_olive_green3 dark_sea_green light_sky_blue3 sky_blue2 dark_sea_green3 dark_slate_gray3
sky_blue1 chartreuse1 light_green pale_green1 dark_slate_gray1 red3 medium_violet_red magenta3
dark_orange3 indian_red hot_pink3 medium_orchid3 medium_orchid medium_purple2 dark_goldenrod
light_salmon3 rosy_brown grey63 gray63 medium_purple1 gold3 dark_khaki navajo_white3 grey69 gray69
light_steel_blue3 light_steel_blue yellow3 dark_sea_green2 light_cyan3 light_sky_blue1
green_yellow dark_olive_green2 dark_sea_green1 pale_turquoise1 deep_pink3 magenta2 hot_pink2
orchid medium_orchid1 orange3 light_pink3 pink3 plum3 violet light_goldenrod3 tan misty_rose3
thistle3 plum2 khaki3 light_goldenrod2 light_yellow3 grey84 gray84 light_steel_blue1 yellow2
dark_olive_green1 honeydew2 light_cyan1 red1 deep_pink2 deep_pink1 magenta1 orange_red1
indian_red1 hot_pink dark_orange salmon1 light_coral pale_violet_red1 orchid2 orchid1 orange1
sandy_brown light_salmon1 light_pink1 pink1 plum1 gold1 navajo_white1 misty_rose1 thistle1 yellow1
light_goldenrod1 khaki1 wheat1 cornsilk1 grey100 gray100 grey3 gray3 grey7 gray7 grey11 gray11
grey15 gray15 grey19 gray19 grey23 gray23 grey27 gray27 grey30 gray30 grey35 gray35 grey39 gray39
grey42 gray42 grey46 gray46 grey50 gray50 grey54 gray54 grey58 gray58 grey62 gray62 grey66 gray66
grey70 gray70 grey74 gray74 grey78 gray78 grey82 gray82 grey85 gray85 grey89 gray89 grey93 gray93"

/-- Digits up to a closing parenthesis at the end. -/
private def closed? (isNumber : Char → Bool) (s : List Char) : Option (List Char) :=
  match s.reverse with
  | ')' :: digits => if !digits.isEmpty && digits.all isNumber then some digits.reverse else none
  | _ => none

/-- A number of at most three digits that fits a byte. -/
private def isColorNumber (digits : List Char) : Bool :=
  digits.length ≤ 3 && Text.decimalValue digits ≤ 255

/-- Three numbers, a comma apart, that fit a byte each. -/
private def isColorTriple (s : List Char) : Bool :=
  match Text.pieces ',' (String.ofList s) with
  | [red, green, blue] =>
    [red, green, blue].all fun n => n != "" && decide (Text.decimalValue n.toList ≤ 255)
  | _ => false

/-- Is a word in small letters a colour, by its name, its number or its parts? -/
def isColor (word : String) : Bool :=
  let isHex (c : Char) : Bool := c.isDigit || ('a' ≤ c && c ≤ 'f')
  (Text.lines colorNames).any (fun row => (Text.pieces ' ' row).contains word) ||
    match word.toList with
    | '#' :: digits => digits.length == 6 && digits.all isHex
    | 'c' :: 'o' :: 'l' :: 'o' :: 'r' :: '(' :: rest => (closed? Char.isDigit rest).any isColorNumber
    | 'r' :: 'g' :: 'b' :: '(' :: rest =>
      (closed? (fun c => c == ',' || Text.isDecimalDigit c) rest).any isColorTriple
    | _ => false

/-! ### Styles in words -/

structure Style where
  /-- The effects that are turned on or off, the last word on one first. -/
  effects : List (Effect × Bool)
  color : Option String
  background : Option String
  link : Option String
  deriving DecidableEq, Repr

namespace Style

def plain : Style := ⟨[], none, none, none⟩

/-- Adds the words of a style to one that is read so far. -/
def readWords (s : Style) : List String → Option Style
  | [] => some s
  | word :: rest =>
    match Text.lower word, rest with
    | "on", color :: rest =>
      if isColor (Text.lower color) then readWords { s with background := some (Text.lower color) } rest
      else none
    | "not", name :: rest => do
      let e ← Effect.ofName? name
      readWords { s with effects := (e, false) :: s.effects } rest
    | "link", target :: rest => readWords { s with link := some target } rest
    | word, rest =>
      match Effect.ofName? word with
      | some e => readWords { s with effects := (e, true) :: s.effects } rest
      | none => if isColor word then readWords { s with color := some word } rest else none

/-- The words of the normal form. -/
def words (s : Style) : List String :=
  Effect.all.filterMap (fun e => (s.effects.lookup e).map fun isOn =>
    if isOn then e.name else "not " ++ e.name) ++
  s.color.toList ++ (s.background.map ("on " ++ ·)).toList ++ (s.link.map ("link " ++ ·)).toList

def text (s : Style) : String := if s.words = [] then "none" else " ".intercalate s.words

/-- The normal form of a style; what is no style stands for itself, in small letters. -/
def normalized (written : List Char) : String :=
  let trimmed := String.ofList (Text.trim written)
  if trimmed = "none" then trimmed
  else match readWords plain (Text.words written) with
    | some s => s.text
    | none => Text.lower trimmed

end Style

end CrateHeader.Terminal
