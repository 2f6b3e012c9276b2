import Highlighter.Json
import Highlighter.Number.Text
import Highlighter.Text.Quoted
import Highlighter.Text.Units

/-! Values as short literals, for cells of tables. A text stands in quotes; a container shows its
outermost level only, an array its first three items, and an object with more than two members none.
-/

namespace Highlighter.Console

namespace Literal

/-- How many UTF-16 units of a text are shown. -/
def shownUnits : Nat := 10000

/-- The characters of a text that fit into so many units, and the first half of a surrogate pair
where only that fits.
-/
def takeUnits : Nat → List Char → List Char × Option Nat
  | 0, _ | _, [] => ([], none)
  | 1, c :: _ => if Text.width16 c = 1 then ([c], none) else ([], (Text.units c).head?)
  | room + 2, c :: rest =>
      let (shown, half) := takeUnits (room + 2 - Text.width16 c) rest
      (c :: shown, half)
termination_by _ text => text.length

/-- The escape of a unit that is no character. -/
def unitEscape (unit : Nat) : String :=
  "\\u" ++ Text.hex [UInt8.ofNat (unit / 256), UInt8.ofNat (unit % 256)]

/-- What is said of so many things that are not shown. -/
def moreOf (count : Nat) (thing : String) : String :=
  "... " ++ toString count ++ " more " ++ thing ++ (if count = 1 then "" else "s")

/-- A text in quotes; of a long one only the beginning. -/
def ofText (text : String) : String :=
  let length := Text.length16 text.toList
  if length ≤ shownUnits then Text.Quoted.quote text
  else
    let (shown, half) := takeUnits shownUnits text.toList
    let halfEscape := (half.map unitEscape).getD ""
    Text.Quoted.quoteBefore (String.ofList shown) halfEscape
      ++ moreOf (length - shownUnits) "character"

/-- A number, with the sign of a zero. -/
def ofNumber : Number → String
  | .negativeZero => "-0"
  | number => number.text

/-- A letter or underscore. -/
def startsName (c : Char) : Bool := c.isAlpha || c = '_'

/-- The name of a member; quotes are left out where it is a plain word. One name stands in brackets,
since it is not that of an ordinary member elsewhere.
-/
def ofName (name : String) : String :=
  match name.toList with
  | first :: rest =>
      if name = "__proto__" then "[" ++ Text.Quoted.quote name ++ "]"
      else if startsName first && rest.all fun c => startsName c || c.isDigit then name
      else Text.Quoted.quote name
  | [] => Text.Quoted.quote name

/-- A value inside a container. -/
def inner : Json → String
  | .null => "null"
  | .bool value => if value then "true" else "false"
  | .number value => ofNumber value
  | .string value => ofText value
  | .array items => if items.isEmpty then "[]" else "[Array]"
  | .object members => if members.isEmpty then "\x7b\x7d" else "[Object]"

/-- How many items of an array are shown. -/
def shownItems : Nat := 3

/-- What stands for the items of an array that are not shown. -/
def remainder (count : Nat) : List String :=
  if count = 0 then [] else [moreOf count "item"]

/-- The items of an array. -/
def ofItems (items : List Json) : String :=
  let parts := (items.take shownItems).map inner ++ remainder (items.length - shownItems)
  if parts.isEmpty then "[]" else "[ " ++ String.intercalate ", " parts ++ " ]"

/-- A member of an object. -/
def ofMember (member : String × Json) : String :=
  ofName member.1 ++ ": " ++ inner member.2

/-- The members of an object. -/
def ofMembers (members : List (String × Json)) : String :=
  if 2 < members.length then "[Object]"
  else if members.isEmpty then "\x7b\x7d"
  else "\x7b " ++ String.intercalate ", " (members.map ofMember) ++ " \x7d"

end Literal

/-- A value as a short literal. -/
def literal : Json → String
  | .array items => Literal.ofItems items
  | .object members => Literal.ofMembers members
  | scalar => Literal.inner scalar

end Highlighter.Console
