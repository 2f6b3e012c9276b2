import Highlighter.Text.Escapes

/-! Styles of text over the lines of a cell. A line that ends in a style gets the codes that end it,
and the next line those that start it again, so that no style runs on into the frame of a table.
-/

namespace Highlighter.Console

/-- What a style code can turn on and off. -/
inductive StyleFeature where
  | bold
  | italic
  | underlined
  | inverse
  | struck
deriving DecidableEq, Repr

namespace StyleFeature

/-- All features. -/
def all : List StyleFeature := [bold, italic, underlined, inverse, struck]

/-- The number that turns a feature on. -/
def on : StyleFeature → String
  | bold => "1"
  | italic => "3"
  | underlined => "4"
  | inverse => "7"
  | struck => "9"

/-- The number that turns a feature off. -/
def off : StyleFeature → String
  | bold => "22"
  | italic => "23"
  | underlined => "24"
  | inverse => "27"
  | struck => "29"

end StyleFeature

/-- What style codes have said so far: features in the order in which they were first spoken of, and
the numbers of the last code for each of the colours.
-/
structure Style where
  features : List (StyleFeature × Bool)
  background : Option String
  foreground : Option String
deriving DecidableEq, Repr

namespace Style

/-- Nothing has been said. -/
def plain : Style := ⟨[], none, none⟩

/-- A style code. -/
def code (numbers : String) : String := "\x1b[" ++ numbers ++ "m"

/-- Turns a feature on or off. -/
def put (feature : StyleFeature) (isOn : Bool)
    : List (StyleFeature × Bool) → List (StyleFeature × Bool)
  | [] => [(feature, isOn)]
  | entry :: rest =>
      if entry.1 = feature then (feature, isOn) :: rest else entry :: put feature isOn rest

/-- The feature that a code turns on or off. -/
def switch? (numbers : String) : Option (StyleFeature × Bool) :=
  StyleFeature.all.findSome? fun feature =>
    if numbers = feature.on then some (feature, true)
    else if numbers = feature.off then some (feature, false)
    else none

/-- The number that says what a code is about; no number at all is 0. -/
def leading? (numbers : String) : Option Nat :=
  if numbers = "" then some 0
  else (String.ofList (numbers.toList.takeWhile Char.isDigit)).toNat?

/-- The style behind a code. -/
def apply (style : Style) (numbers : String) : Style :=
  match leading? numbers with
  | none => style
  | some number =>
      if (30 ≤ number && number ≤ 39) || (90 ≤ number && number ≤ 97) then
        { style with foreground := some numbers }
      else if (40 ≤ number && number ≤ 49) || (100 ≤ number && number ≤ 107) then
        { style with background := some numbers }
      else if number = 0 then plain
      else
        match switch? numbers with
        | some (feature, isOn) => { style with features := put feature isOn style.features }
        | none => style

/-- The style behind characters, of which so many at the start belong to a code already. -/
def behind (style : Style) : Nat → List Char → Style
  | _, [] => style
  | skipped + 1, _ :: rest => behind style skipped rest
  | 0, c :: rest =>
      match if c = '\x1b' then Text.Escapes.styleCode? rest else none with
      | some (numbers, after) =>
          behind (style.apply (String.ofList numbers)) (rest.length - after.length) rest
      | none => behind style 0 rest

/-- The style at the end of a line. -/
def ofLine (line : String) : Style := behind plain 0 line.toList

/-- The numbers of the code for a colour, unless it is the one for no colour. -/
def colour? (noColour : String) (numbers : Option String) : Option String :=
  numbers.filter (· ≠ noColour)

/-- The number for no background. -/
def noBackground : String := "49"

/-- The number for no foreground. -/
def noForeground : String := "39"

/-- The features that are on. -/
def active (style : Style) : List StyleFeature :=
  (style.features.filter (·.2)).map (·.1)

/-- A line with the codes that end its style. -/
def close (style : Style) (line : String) : String :=
  let features := String.join (style.active.map fun feature => code feature.off)
  let background := (colour? noBackground style.background).map fun _ => code noBackground
  let foreground := (colour? noForeground style.foreground).map fun _ => code noForeground
  line ++ features ++ background.getD "" ++ foreground.getD ""

/-- A line with the codes that start a style. -/
def resume (style : Style) (line : String) : String :=
  let features := String.join (style.active.reverse.map fun feature => code feature.on)
  let background := (colour? noBackground style.background).map code
  let foreground := (colour? noForeground style.foreground).map code
  foreground.getD "" ++ background.getD "" ++ features ++ line

/-- Lines each of which starts in the style in which the one before it ended, and ends in none. -/
def carry (style : Style) : List String → List String
  | [] => []
  | line :: rest =>
      let resumed := style.resume line
      (ofLine resumed).close resumed :: carry (ofLine resumed) rest

end Style

end Highlighter.Console
