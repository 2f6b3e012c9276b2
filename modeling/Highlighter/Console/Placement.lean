import Highlighter.Console.Cell

/-! Where the cells of a table stand. Cells take the first columns that are left over by those that
reach down from the rows above, and what is free in the end is filled with blank cells. Every place
of a row then has a slot: a cell starts there, goes on there from above, or goes on from the left.
-/

namespace Highlighter.Console

/-- A cell with its first column and row. -/
structure Placed where
  cell : Cell
  column : Nat
  row : Nat
deriving Repr

namespace Placed

/-- The cell covers a place. -/
def covers (placed : Placed) (column row : Nat) : Bool :=
  placed.column ≤ column && column < placed.column + placed.cell.columnSpan
    && placed.row ≤ row && row < placed.row + placed.cell.rowSpan

/-- The cell reaches into other rows. -/
def isTall (placed : Placed) : Bool := 1 < placed.cell.rowSpan

end Placed

/-- What a place of a row is. -/
inductive Slot where
  | cell (placed : Placed)
  /-- A cell from a row above goes on. -/
  | below (placed : Placed)
  /-- The cell on the left goes on. -/
  | beside (column : Nat)
deriving Repr

namespace Slot

/-- A cell from a row above goes on. -/
def isBelow : Slot → Bool
  | below _ => true
  | _ => false

/-- The cell on the left goes on. -/
def isBeside : Slot → Bool
  | beside _ => true
  | _ => false

/-- The column of a slot. -/
def column : Slot → Nat
  | cell placed | below placed => placed.column
  | beside column => column

/-- The columns that a slot stretches over. -/
def columnSpan : Slot → Nat
  | cell placed | below placed => placed.cell.columnSpan
  | beside _ => 1

/-- The rows that a slot stretches over. -/
def rowSpan : Slot → Nat
  | cell placed => placed.cell.rowSpan
  | _ => 1

/-- A slot and those on its right where it goes on. -/
def widened (slot : Slot) : List Slot :=
  slot :: (List.range (slot.columnSpan - 1)).map fun index => beside (slot.column + index + 1)

end Slot

namespace Placement

/-- The columns that cells from above reach into, each with the rows that they still take. -/
abbrev Hanging := List (Nat × Nat)

/-- The first column from one on that no cell from above reaches into. -/
def freeColumn (hanging : Hanging) (column : Nat) : Nat :=
  let isTaken (column : Nat) : Bool := hanging.any fun entry => entry.1 = column
  (((List.range (hanging.length + 1)).map (column + ·)).find? fun column => !isTaken column).getD
    column

/-- The columns of a cell reach down. -/
def hang (hanging : Hanging) (column : Nat) (cell : Cell) : Hanging :=
  if 1 < cell.rowSpan then
    let columns := (List.range cell.columnSpan).map (column + ·)
    hanging.filter (fun entry => !columns.contains entry.1) ++ columns.map (·, cell.rowSpan)
  else hanging

/-- Places the cells of a row from a column on. In the first row nothing reaches down. -/
def placeCells (row : Nat) (hanging : Hanging) (column : Nat)
    : List Cell → List Placed × Hanging
  | [] => ([], hanging)
  | cell :: rest =>
      let column := if row = 0 then column else freeColumn hanging column
      let (others, last) :=
        placeCells row (hang hanging column cell) (column + cell.columnSpan) rest
      (⟨cell, column, row⟩ :: others, last)

/-- Places the cells of rows. -/
def placeRows (row : Nat) (hanging : Hanging) : List (List Cell) → List (List Placed)
  | [] => []
  | cells :: rest =>
      let (placed, hung) := placeCells row hanging 0 cells
      let left := hung.filterMap fun entry =>
        if entry.2 ≤ 1 then none else some (entry.1, entry.2 - 1)
      placed :: placeRows (row + 1) left rest

/-- The number of columns. -/
def columnCount (rows : List (List Placed)) : Nat :=
  rows.flatten.foldl (fun count placed => max count (placed.column + placed.cell.columnSpan)) 0

/-- Columns in groups of neighbours: the first column of each, and their number. -/
def neighbours (columns : List Nat) : List (Nat × Nat) :=
  columns.foldr (fun column groups =>
    match groups with
    | (first, count) :: rest =>
        if first = column + 1 then (column, count + 1) :: rest else (column, 1) :: groups
    | [] => [(column, 1)]) []

/-- Fills the free places of the first of some rows, where `tall` are the cells of other rows that
reach down. A blank cell takes in the rows below as far as they are free in all its columns.
-/
def fillRow (count row : Nat) (tall : List Placed) (rows : List (List Placed)) : List Placed :=
  let isFree (cells : List Placed) (row column : Nat) : Bool :=
    !(cells.any (·.covers column row) || tall.any (·.covers column row))
  match rows with
  | [] => []
  | cells :: below =>
      (neighbours ((List.range count).filter (isFree cells row))).map fun (first, width) =>
        let isBlank (entry : List Placed × Nat) : Bool :=
          (List.range width).all fun index => isFree entry.1 entry.2 (first + index)
        let height := ((below.zipIdx (row + 1)).takeWhile isBlank).length + 1
        ⟨.blank width height, first, row⟩

/-- Puts an entry in front of the first one whose column is not smaller. -/
def insertBy {α : Type} (column : α → Nat) (entry : α) : List α → List α
  | [] => [entry]
  | first :: rest =>
      if column first < column entry then first :: insertBy column entry rest
      else entry :: first :: rest

/-- Fills the free places of rows. -/
def fillRows (count row : Nat) (tall : List Placed) : List (List Placed) → List (List Placed)
  | [] => []
  | cells :: below =>
      let tall := tall ++ cells.filter Placed.isTall
      let blanks := fillRow count row tall (cells :: below)
      let filled := blanks.foldl (fun cells blank => insertBy Placed.column blank cells) cells
      filled :: fillRows count (row + 1) (tall ++ blanks.filter Placed.isTall) below

/-- All places of a row, into which some cells reach down. -/
def slotsOf (row : Nat) (tall : List Placed) (cells : List Placed) : List Slot :=
  let reaching := tall.filter fun placed =>
    placed.row < row && row < placed.row + placed.cell.rowSpan
  let slots := reaching.foldl (fun slots placed => insertBy Slot.column (.below placed) slots)
    (cells.map Slot.cell)
  slots.flatMap Slot.widened

/-- The slots of all rows. -/
def slots (rows : List (List Cell)) : List (List Slot) :=
  let placed := placeRows 0 [] rows
  let filled := fillRows (columnCount placed) 0 [] placed
  let tall := filled.flatten.filter Placed.isTall
  filled.zipIdx.map fun (cells, row) => slotsOf row tall cells

/-- A cell would reach below the last row. -/
def overhangs (rows : List (List Cell)) : Bool :=
  rows.zipIdx.any fun (cells, row) => cells.any fun cell => rows.length < row + cell.rowSpan

end Placement

end Highlighter.Console
