import Highlighter.Text.Escapes
import Highlighter.Text.Picture

/-! How many columns of a terminal a text takes if pictures are shown as such: East Asian wide
characters and pictures take two, however many characters a picture is written with; controls and
accents that combine take none, and all others one.
-/

namespace Highlighter.Text

/-- The characters that are as wide as they are high. -/
def fullWidth : Characters :=
  [(0x1100, 0x115F), (0x2329, 0x232A), (0x2E80, 0x303E), (0x3040, 0x3247), (0x3250, 0x4DBF),
    (0x4E00, 0xA4C6), (0xA960, 0xA97C), (0xAC00, 0xD7A3), (0xF900, 0xFAFF), (0xFE10, 0xFE19),
    (0xFE30, 0xFE6B), (0xFF01, 0xFF60), (0xFFE0, 0xFFE6), (0x1B000, 0x1B001),
    (0x1F200, 0x1F251), (0x20000, 0x3FFFD)]

/-- Controls, and accents that combine with the character before them. -/
def columnless : Characters := [(0, 0x1F), (0x7F, 0x9F), (0x300, 0x36F)]

/-- The columns of a character that is no picture. -/
def charColumns (c : Char) : Nat :=
  if columnless.has c then 0
  else if fullWidth.has c then 2
  else 1

/-- The columns of characters, of which so many at the start belong to a picture already. -/
def columnsFrom : Nat → List Char → Nat
  | _, [] => 0
  | skipped + 1, _ :: rest => columnsFrom skipped rest
  | 0, c :: rest =>
      match Picture.length (c :: rest) with
      | 0 => charColumns c + columnsFrom 0 rest
      | length + 1 => 2 + columnsFrom length rest

/-- The columns of a text, in which escape sequences take none. -/
def columns (text : String) : Nat :=
  columnsFrom 0 (Escapes.remove Escapes.narrow (Escapes.removeStyles text.toList))

end Highlighter.Text
