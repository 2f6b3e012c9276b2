import Highlighter.Range
import Highlighter.Text.Blank
import Highlighter.Text.Units
import Highlighter.Text.Word

/-! The main file's text, in which locations are measured. A token that starts with a character of
a word is the longest run of such characters, and any other token is one character. White space and
places outside the text start no token.
-/

namespace Highlighter

/-- A file's text by lines. -/
structure Source where
  file : String
  lines : Array (List Char)
deriving Repr

namespace Source

/-- The pieces between line feeds. -/
def splitLines : List Char → List (List Char)
  | [] => [[]]
  | '\n' :: rest => [] :: splitLines rest
  | c :: rest =>
      match splitLines rest with
      | line :: lines => (c :: line) :: lines
      | [] => [[c]]

/-- A line without one carriage return at its end. -/
def dropReturn : List Char → List Char
  | [] => []
  | ['\r'] => []
  | c :: rest => c :: dropReturn rest

/-- The source of a file with that text. -/
def ofText (file text : String) : Source :=
  ⟨file, ((splitLines text.toList).map dropReturn).toArray⟩

/-- What stands at a column of a line. -/
inductive Spot where
  /-- The column starts a character; `rest` are the characters from there on. -/
  | character (first : Char) (rest : List Char)
  /-- The column is the second unit of a surrogate pair. -/
  | halfCharacter
  | outside

/-- What stands at a column of a line, counted in UTF-16 units. -/
def spotAt : List Char → Nat → Spot
  | [], _ => .outside
  | c :: rest, 0 => .character c rest
  | c :: rest, column + 1 =>
      if Text.width16 c = 1 then spotAt rest column
      else
        match column with
        | 0 => .halfCharacter
        | column + 1 => spotAt rest column

/-- The units of the token at a column of a line, if one starts there. -/
def tokenLength (line : List Char) (column : Nat) : Option Nat :=
  match spotAt line column with
  | .outside => none
  | .halfCharacter => some 1
  | .character first rest =>
      if Text.isBlank first then none
      else if Text.isWord first then
        some (Text.width16 first + Text.length16 (rest.takeWhile Text.isWord))
      else some (Text.width16 first)

/-- The range of the token at a position, if one starts there. -/
def tokenRange (source : Source) (position : Position) : Option Range :=
  match position.line, position.character with
  | .ofNat line, .ofNat column =>
      match source.lines[line]? with
      | none => none
      | some text =>
          (tokenLength text column).map fun length =>
            .between line column line (column + length)
  | _, _ => none

end Source

end Highlighter
