import Highlighter.Source
import Highlighter.Text.Points

/-! Tokens of a text that is measured in units, as they are: a word is as long as its characters go
on, any other token is one code point, and white space starts none.
-/

namespace Highlighter.Source

/-- The units of a line, without one carriage return at its end. Lines are the pieces of a text
between line feeds.
-/
def lineUnits? (text : String) (line : Nat) : Option (List Nat) :=
  (text.toList.splitOn '\n')[line]?.map fun piece =>
    (if piece.getLast? = some '\r' then piece.dropLast else piece).flatMap Text.units

/-- A token goes from one index of a line to another. -/
structure TokenAt (units : List Nat) (start stop : Nat) : Prop where
  visible : ¬ Text.PointIn Text.isBlank units start
  nonempty : start < stop
  inside : stop ≤ units.length
  /-- What starts with no character of a word is one code point. -/
  single
    : ¬ Text.PointIn Text.isWord units start
      → stop = start + Text.pointWidth units start
  /-- What starts with a character of a word has such characters only. -/
  word : Text.PointIn Text.isWord units start → Text.Run Text.isWord units start stop
  /-- Characters of a word do not go on any longer. -/
  longest : ∀ {other}, Text.Run Text.isWord units start other → other ≤ stop
  /-- No surrogate pair is cut in two. -/
  whole : Text.splitsPair units stop = false

/-- A range is that of the token at its start. -/
def Measures (source : Source) (range : Range) : Prop :=
  source.tokenRange range.start = some range

/-- A position of a source is the second half of a surrogate pair. -/
def splitsPairAt (source : Source) (position : Position) : Bool :=
  match position.line, position.character with
  | .ofNat line, .ofNat column =>
      source.lines[line]?.any fun text => Text.splitsPair (text.flatMap Text.units) column
  | _, _ => false

end Highlighter.Source
