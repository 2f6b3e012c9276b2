import Highlighter.Console.Placement

/-! Tables in frames. A column is as wide and a row as high as the cells in it need, and a cell that
stretches over several of them widens them together. The frame has a corner of its own shape
wherever lines meet.
-/

namespace Highlighter.Console

/-- A table: its rows, the heading first. -/
structure Grid where
  rows : List (List Cell)
  /-- A rule stands between two rows. -/
  ruled : Bool

namespace Grid

/-- Hands columns or rows out to parts, as evenly as whole numbers allow. -/
def spread (missing : Nat) : List Nat → List Nat
  | [] => []
  | size :: rest =>
      let parts := rest.length + 1
      let share := (2 * missing + parts) / (2 * parts)
      (size + share) :: spread (missing - share) rest

/-- What a slot asks for that stretches over several columns or rows: the first of them, how many
they are, and the size that it needs.
-/
structure Demand where
  start : Nat
  span : Nat
  size : Nat
deriving Repr

/-- Sizes that are settled, and those that are only known from something that starts there and
stretches further.
-/
structure Sizes where
  settled : List (Option Nat)
  loose : List (Nat × Nat)

namespace Sizes

/-- The largest size that is asked for, if any is. -/
def largest (sizes : List Nat) : Option Nat :=
  sizes.foldl (fun largest size => some (max (largest.getD 1) size)) none

/-- Makes room for something that stretches over several columns or rows. Where nothing is settled,
the last thing that starts there counts, with the size that it has `alone`.
-/
def stretch (alone : Nat → Nat) (sizes : Sizes) (demand : Demand) : Sizes :=
  match (sizes.settled[demand.start]?).join with
  | none =>
      if sizes.loose.any fun entry => entry.1 = demand.start then sizes
      else { sizes with loose := (demand.start, alone demand.size) :: sizes.loose }
  | some _ =>
      let behind := sizes.settled.drop demand.start
      let covered := (behind.take demand.span).map (Option.getD · 1)
      let taken := covered.foldl (· + ·) (demand.span - 1)
      let widened := (spread (demand.size - taken) covered).map some
      { sizes with
        settled := sizes.settled.take demand.start ++ widened ++ behind.drop demand.span }

/-- The sizes of columns or rows, from what is asked for in each of them alone and over several. -/
def ofDemands (alone : Nat → Nat) (single : List (List Nat)) (wide : List Demand) : List Nat :=
  let sizes := wide.reverse.foldl (stretch alone) ⟨single.map largest, []⟩
  sizes.settled.zipIdx.map fun (size, index) =>
    let loose := (sizes.loose.find? fun entry => entry.1 = index).map (·.2)
    max 1 ((size.or loose).getD 1)

end Sizes

/-- The columns that a slot needs by itself. -/
def columnsNeeded : Slot → Nat
  | .cell placed => placed.cell.fullColumns
  | _ => 0

/-- The rows that a slot needs by itself. -/
def rowsNeeded : Slot → Nat
  | .cell placed => placed.cell.lines.length
  | _ => 0

/-- What a cell over several columns asks for. -/
def columnDemand? : Slot → Option Demand
  | .cell placed =>
      if placed.cell.columnSpan ≤ 1 then none
      else some ⟨placed.column, placed.cell.columnSpan, placed.cell.fullColumns⟩
  | _ => none

/-- What a cell over several rows asks for. -/
def rowDemand? : Slot → Option Demand
  | .cell placed =>
      if placed.cell.rowSpan ≤ 1 then none
      else some ⟨placed.row, placed.cell.rowSpan, placed.cell.lines.length⟩
  | _ => none

/-- The widths of the columns. -/
def columnWidths (slots : List (List Slot)) : List Nat :=
  let narrow := slots.flatten.filter fun slot => slot.columnSpan ≤ 1
  let single := (List.range ((slots.map List.length).foldl max 0)).map fun column =>
    (narrow.filter fun slot => slot.column = column).map columnsNeeded
  Sizes.ofDemands (· - 1) single (slots.flatten.filterMap columnDemand?)

/-- The heights of the rows. -/
def rowHeights (slots : List (List Slot)) : List Nat :=
  let single := slots.map fun row =>
    (row.filter fun slot => slot.rowSpan ≤ 1).map rowsNeeded
  Sizes.ofDemands (fun _ => 1) single (slots.flatten.filterMap rowDemand?)

/-- A table that is ready to be drawn. -/
structure Drawing where
  slots : List (List Slot)
  widths : List Nat
  heights : List Nat

/-- A table with the sizes of its columns and rows. -/
def drawing (grid : Grid) : Drawing :=
  let slots := Placement.slots grid.rows
  ⟨slots, columnWidths slots, rowHeights slots⟩

namespace Drawing

/-- So many of a character. -/
def repeated (count : Nat) (c : Char) : String := String.ofList (List.replicate count c)

/-- The size of some columns or rows with the lines between them. -/
def inner (sizes : List Nat) : Nat := sizes.foldl (· + ·) (sizes.length - 1)

/-- The widths of the columns that a cell stretches over. -/
def widthsOf (drawing : Drawing) (placed : Placed) : List Nat :=
  (drawing.widths.drop placed.column).take placed.cell.columnSpan

/-- The heights of the rows that a cell stretches over. -/
def heightsOf (drawing : Drawing) (placed : Placed) : List Nat :=
  (drawing.heights.drop placed.row).take placed.cell.rowSpan

/-- The cell reaches the right side. -/
def isLast (drawing : Drawing) (placed : Placed) : Bool :=
  placed.column + placed.cell.columnSpan = drawing.widths.length

/-- The slots of a row. -/
def row (drawing : Drawing) (index : Nat) : List Slot := (drawing.slots[index]?).getD []

/-- A cell from a row above goes on left of a column. -/
def isBelowLeft (drawing : Drawing) (row column : Nat) : Bool :=
  let left := ((drawing.row row).take column).reverse
  ((left.dropWhile Slot.isBeside).head?).any Slot.isBelow

/-- The corner on top of a cell at one of its columns. -/
def corner (drawing : Drawing) (placed : Placed) (index : Nat) : String :=
  let column := placed.column + index
  if placed.row = 0 then if column = 0 then "┌" else if index = 0 then "┬" else "─"
  else if column = 0 then "├"
  else if index = 0 && drawing.isBelowLeft placed.row column then "├"
  else if (((drawing.row (placed.row - 1))[column]?).any Slot.isBeside) then
    if index = 0 then "┬" else "─"
  else if index = 0 then "┼"
  else "┴"

/-- The line on top of a cell. -/
def top (drawing : Drawing) (placed : Placed) : String :=
  let parts := (drawing.widthsOf placed).zipIdx.map fun (width, index) =>
    drawing.corner placed index ++ repeated width '─'
  let side := if placed.row = 0 then "┐" else "┤"
  String.join parts ++ if drawing.isLast placed then side else ""

/-- The line under a cell. -/
def bottom (drawing : Drawing) (placed : Placed) : String :=
  (if placed.column = 0 then "└" else "┴") ++ repeated (inner (drawing.widthsOf placed)) '─'
    ++ if drawing.isLast placed then "┘" else ""

/-- Blanks on the two sides of something, by its place in a space that is so much larger. -/
def sides (alignment : Alignment) (room : Nat) : Nat × Nat :=
  match alignment with
  | .start => (0, room)
  | .middle => (room / 2, room - room / 2)
  | .finish => (room, 0)

/-- A line of text in the columns of a cell. -/
def fill (cell : Cell) (width : Nat) (line : CellLine) : String :=
  let room := width - (cell.before + cell.after)
  let shown := line.cut cell.mark room
  let (left, right) := sides cell.across (room - shown.columns)
  repeated (cell.before + left) ' ' ++ shown.text ++ repeated (right + cell.after) ' '

/-- The text of a cell on one of its lines. The last line ends in the cell's mark if not all lines
fit.
-/
def content (drawing : Drawing) (placed : Placed) (index : Nat) : String :=
  let cell := placed.cell
  let width := inner (drawing.widthsOf placed)
  let height := inner (drawing.heightsOf placed)
  let room := height - cell.lines.length
  let above := match cell.down with
    | .middle => room - room / 2
    | alignment => (sides alignment room).1
  match if index < above then none else cell.lines[index - above]? with
  | none => repeated width ' '
  | some line =>
      if height < cell.lines.length && height ≤ index + 1 then
        fill cell width (Cell.line (line.text ++ cell.mark))
      else fill cell width line

/-- A line through a cell, behind what stands on its left side. -/
def through (drawing : Drawing) (placed : Placed) (left : String) (index : Nat) : String :=
  left ++ drawing.content placed index ++ if drawing.isLast placed then "│" else ""

/-- The line of a cell that stands where one of the rows it goes on in has its top. -/
def crossing (drawing : Drawing) (placed : Placed) (row : Nat) : Nat :=
  inner ((drawing.heights.drop placed.row).take (row - placed.row))

/-- A slot on the line on top of a row. -/
def slotTop (drawing : Drawing) (row : Nat) : Slot → String
  | .cell placed => drawing.top placed
  | .below placed =>
      let isOpen := placed.column = 0 || drawing.isBelowLeft row placed.column
      drawing.through placed (if isOpen then "│" else "┤") (drawing.crossing placed row)
  | .beside _ => ""

/-- A slot on a line of a row. -/
def slotLine (drawing : Drawing) (row index : Nat) : Slot → String
  | .cell placed => drawing.through placed "│" index
  | .below placed => drawing.through placed "│" (drawing.crossing placed row + 1 + index)
  | .beside _ => ""

/-- A slot on the line under the last row. -/
def slotBottom (drawing : Drawing) : Slot → String
  | .cell placed | .below placed => drawing.bottom placed
  | .beside _ => ""

/-- The lines of a row, with the one on its top if it has one. -/
def rowLines (drawing : Drawing) (hasTop : Bool) (row height : Nat) : List String :=
  let slots := drawing.row row
  let lines := (List.range height).map fun index =>
    String.join (slots.map (drawing.slotLine row index))
  if hasTop then String.join (slots.map (drawing.slotTop row)) :: lines else lines

/-- All lines. Without rules between the rows only the heading is set apart. -/
def lines (drawing : Drawing) (ruled : Bool) : List String :=
  let last := drawing.row (drawing.slots.length - 1)
  drawing.heights.zipIdx.flatMap (fun (height, row) =>
    drawing.rowLines (ruled || row ≤ 1) row height)
    ++ [String.join (last.map drawing.slotBottom)]

end Drawing

/-- The text of a table. -/
def text (grid : Grid) : String :=
  String.intercalate "\n" (grid.drawing.lines grid.ruled)

end Grid

end Highlighter.Console
