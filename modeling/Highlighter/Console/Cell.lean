import Highlighter.Console.Style
import Highlighter.Text.Columns

/-! Cells of tables: lines of text with blanks beside them, and the columns and rows that they
stretch over. A line that is too long for its cell is cut off.
-/

namespace Highlighter.Console

/-- Where something stands in a space that is larger. -/
inductive Alignment where
  | start
  | middle
  | finish
deriving DecidableEq, Repr

/-- A line of text, and the columns that it takes. -/
structure CellLine where
  text : String
  columns : Nat
deriving DecidableEq, Repr

/-- A cell of a table. -/
structure Cell where
  lines : List CellLine
  /-- The columns that it needs for its text. -/
  columns : Nat
  /-- The blanks on its left side. -/
  before : Nat
  /-- The blanks on its right side. -/
  after : Nat
  across : Alignment
  down : Alignment
  /-- What stands for text that is cut off. -/
  mark : String
  columnSpan : Nat
  rowSpan : Nat
deriving DecidableEq, Repr

namespace Cell

/-- The standard mark for text that is cut off. -/
def ellipsis : String := "…"

/-- A cell with some lines, which is as wide as the widest of them. -/
def ofLines (lines : List CellLine) : Cell where
  lines := lines
  columns := lines.foldl (fun columns line => max columns line.columns) 0
  before := 1
  after := 1
  across := .start
  down := .start
  mark := ellipsis
  columnSpan := 1
  rowSpan := 1

/-- A cell without text that stretches over some columns and rows. -/
def blank (columnSpan rowSpan : Nat) : Cell :=
  { ofLines [⟨"", 0⟩] with columnSpan := columnSpan, rowSpan := rowSpan }

/-- A line of text as a terminal shows it. -/
def line (text : String) : CellLine := ⟨text, Text.columns text⟩

/-- A cell with a text. -/
def ofText (text : String) : Cell := ofLines ((Style.plain.carry (text.splitOn "\n")).map line)

/-- The columns that it takes with its blanks. -/
def fullColumns (cell : Cell) : Nat := cell.columns + cell.before + cell.after

end Cell

namespace CellLine

/-- The sequence that ends a link. -/
def linkEnd : String := "\x1b]8;;\x07"

/-- A line that is a link. -/
def linked (target : String) (line : CellLine) : CellLine :=
  Cell.line ("\x1b]8;;" ++ target ++ "\x07" ++ line.text ++ linkEnd)

/-- The longest beginning of characters, given in reverse, that takes at most so many columns. -/
def fitting (columns : Nat) : List Char → String
  | [] => ""
  | c :: rest =>
      let text := String.ofList (c :: rest).reverse
      if Text.columns text ≤ columns then text else fitting columns rest

/-- A text in pieces, each with the style code behind it. So many characters at the start belong to
a code already; `piece` is what has been read of the first piece, in reverse.
-/
def pieces (piece : List Char) : Nat → List Char → List (List Char × Option String)
  | _, [] => [(piece, none)]
  | skipped + 1, _ :: rest => pieces piece skipped rest
  | 0, c :: rest =>
      match if c = '\x1b' then Text.Escapes.styleCode? rest else none with
      | some (numbers, after) =>
          (piece, some (String.ofList numbers)) :: pieces [] (rest.length - after.length) rest
      | none => pieces (c :: piece) 0 rest

/-- The beginning of some pieces that takes at most so many columns, and its style. -/
def takeColumns (columns : Nat) (style : Style) : List (List Char × Option String) → String × Style
  | [] => ("", style)
  | (piece, code) :: rest =>
      if columns = 0 then ("", style)
      else
        let shown := fitting columns piece
        let left := columns - Text.columns shown
        match code with
        | none => (shown, style)
        | some numbers =>
            if left = 0 then (shown, style)
            else
              let (others, last) := takeColumns left (style.apply numbers) rest
              (shown ++ Style.code numbers ++ others, last)

/-- A text holds another. -/
def holds (text part : String) : Bool := (text.splitOn part).length ≠ 1

/-- A line that is cut off behind so many columns if it takes more. -/
def cut (mark : String) (columns : Nat) (line : CellLine) : CellLine :=
  if line.columns ≤ columns then line
  else
    let room := columns - Text.columns mark
    let (shown, style) := takeColumns room .plain (pieces [] 0 line.text.toList)
    let marked := style.close shown ++ mark
    let isOpen := holds line.text linkEnd && !holds marked linkEnd
    Cell.line (if isOpen then marked ++ linkEnd else marked)

end CellLine

end Highlighter.Console
