import Highlighter.Console.Grid
import Highlighter.Console.Literal
import Highlighter.Json.Reader
import Highlighter.Text.Widths

/-! Tables of any values. An object or array is a row with a column for each of its names, and a
value of another kind is a row with its literal in a last column of its own.
-/

namespace Highlighter.Console

/-- A row of a table: what it holds under which names, or a single value. -/
inductive Row where
  | members (members : List (String × Json))
  | value (value : Json)

namespace Row

/-- The row of a value; an array's items are named by their indices. -/
def ofJson : Json → Row
  | .object held => members held
  | .array items => members (items.zipIdx.map fun (item, index) => (toString index, item))
  | scalar => value scalar

/-- The names in a row. -/
def names : Row → List String
  | members held => held.map (·.1)
  | value _ => []

/-- What stands under a name. -/
def textAt (row : Row) (name : String) : String :=
  match row with
  | members held => ((Json.lookup name held).map literal).getD ""
  | value _ => ""

/-- The row is a single value. -/
def isValue : Row → Bool
  | members _ => false
  | value _ => true

/-- What stands in the column of single values. -/
def valueText : Row → String
  | members _ => ""
  | value single => literal single

end Row

/-- The names of all rows in order of appearance, those that are indices first. -/
def columnNames (rows : List Row) : List String :=
  let members := (rows.flatMap Row.names).foldl
    (fun members name => Json.put name .null members) []
  (Json.orderMembers members).map (·.1)

/-- A cell with one line, whose characters stand for themselves. -/
def entryCell (text : String) : Cell := .ofLines [⟨text, Text.columnsApart text⟩]

/-- The table of an array's items, whose rows are counted from 0. -/
def rowTable (items : List Json) : String :=
  let rows := items.map Row.ofJson
  let names := columnNames rows
  let last (text : String) : List String := if rows.any Row.isValue then [text] else []
  let heading := "(index)" :: names ++ last "Values"
  let texts := rows.zipIdx.map fun (row, index) =>
    toString index :: names.map row.textAt ++ last row.valueText
  Grid.text ⟨(heading :: texts).map (List.map entryCell), false⟩

end Highlighter.Console
