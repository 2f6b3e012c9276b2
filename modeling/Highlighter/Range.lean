import Highlighter.Number.Text

/-! Positions and ranges of a text. Lines and columns count from 0, columns in UTF-16 units.
Ranges are ordered by where they start and then by where they stop.
-/

namespace Highlighter

/-- A place between two units of a text. -/
structure Position where
  line : Int
  character : Int
deriving DecidableEq, Repr

/-- A stretch of text, possibly over several lines; a range that was declared, not measured, may
stop before it starts.
-/
structure Range where
  start : Position
  stop : Position
deriving DecidableEq, Repr

namespace Position

/-- Line by line, then column by column. -/
def compare (a b : Position) : Ordering :=
  (Ord.compare a.line b.line).then (Ord.compare a.character b.character)

end Position

namespace Range

/-- The range between two positions given by line and column. -/
def between (startLine startCharacter stopLine stopCharacter : Int) : Range :=
  ⟨⟨startLine, startCharacter⟩, ⟨stopLine, stopCharacter⟩⟩

/-- By start, then by stop. -/
def compare (a b : Range) : Ordering :=
  (a.start.compare b.start).then (a.stop.compare b.stop)

/-- The first coordinate difference that is not 0, in the order of comparison: its sign is the
result of the comparison.
-/
def difference (a b : Range) : Int :=
  if a.start.line ≠ b.start.line then nearestInt (a.start.line - b.start.line)
  else if a.start.character ≠ b.start.character then
    nearestInt (a.start.character - b.start.character)
  else if a.stop.line ≠ b.stop.line then nearestInt (a.stop.line - b.stop.line)
  else nearestInt (a.stop.character - b.stop.character)

/-- The columns between start and stop, which is the length of a range on one line. -/
def width (range : Range) : Int :=
  nearestInt (range.stop.character - range.start.character)

/-- Start and stop as `line:column`. -/
def text (range : Range) : String :=
  integerText range.start.line ++ ":" ++ integerText range.start.character ++ "-"
    ++ integerText range.stop.line ++ ":" ++ integerText range.stop.character

end Range

end Highlighter
