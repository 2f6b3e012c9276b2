import Highlighter.Console.Content
import Highlighter.Console.Grid
import Highlighter.Console.Rows
import Highlighter.Console.Value
import Highlighter.Json.Printer
import Highlighter.Kind

/-! How a command shows what it has found out: as indented JSON, or as a table. Which table it is
follows from the names in the data, so that any answer of the service has one.
-/

namespace Highlighter.Console

/-- A member in running text. -/
def memberText (json : Json) (name : String) : String :=
  match json.get? name with
  | some value => plainText value
  | none => "undefined"

/-- A member as the content of a cell. -/
def memberCell (json : Json) (name : String) : Json := (json.get? name).getD .null

/-- A member is a number above 0. -/
def isPositive (json : Json) (name : String) : Bool :=
  match (json.get? name).bind numberOf? with
  | some number => !number.atMost (.ofInt 0)
  | none => false

/-- A table with a rule between its rows. -/
def ruledTable (head : List String) (rows : List (List Json))
    : Except PresentationFault String := do
  let cells ← rows.mapM (·.mapM Cell.ofJson)
  let all := head.map Cell.ofText :: cells
  if Placement.overhangs all then throw .overhang
  return Grid.text ⟨all, true⟩

/-- The value is a listed token, named by its scope. -/
def isTokenEntry (item : Json) : Bool := item.has "scope" && item.has "kind"

/-- The value is a decoded token. -/
def isSpan (item : Json) : Bool :=
  item.has "character" && item.has "length" && !item.has "scope"

/-- The table of listed tokens. -/
def tokenTable (items : List Json) : Except PresentationFault String :=
  let names := ["line", "character", "length", "kind", "scope"]
  ruledTable ["Line", "Char", "Length", "Kind", "Scope"]
    (items.map fun item => names.map (memberCell item))

/-- What the kind of a decoded token is called: the name of an ordinal, and the ordinal of a name.
-/
def kindCell (item : Json) : String :=
  let text := memberText item "kind"
  match Kind.all.find? fun kind => toString kind.ordinal = text with
  | some kind => kind.name
  | none =>
      match Kind.all.find? fun kind => kind.name = text with
      | some kind => toString kind.ordinal
      | none => ""

/-- The table of decoded tokens. -/
def spanTable (items : List Json) : Except PresentationFault String :=
  ruledTable ["Char", "Length", "Kind"]
    (items.map fun item =>
      [memberCell item "character", memberCell item "length", .string (kindCell item)])

/-- The tokens of a line, or what stands for none. -/
def lineCell (line : Json) : Json :=
  if (line.get? "tokens").any isTruthy then memberCell line "tokens" else .string "(cleared)"

/-- The value is nothing. -/
def isNull : Json → Bool
  | .null => true
  | _ => false

/-- The value is a number that is 0. -/
def isZero : Json → Bool
  | .number value => value.toInt? = some 0
  | _ => false

/-- The changed lines of a highlight: an array, or another value that says that it has none. -/
def changedLines (answer : Json) : Except PresentationFault (List Json) :=
  match (answer.get? "lines").getD .null with
  | .null => .error (.nothing "length")
  | .array lines => if lines.any isNull then .error (.nothing "line") else .ok lines
  | .string "" => .ok []
  | lines =>
      if (lines.get? "length").any isZero then .ok []
      else .error (.unusable "result.lines.forEach")

/-- What is said of the changed lines of a highlight. -/
def changeTable (lines : List Json) : Except PresentationFault String :=
  if lines.isEmpty then .ok "No changed lines."
  else
    ruledTable ["Line", "Tokens"] (lines.map fun line => [memberCell line "line", lineCell line])

/-- What is said of the answer to a highlight, the changed lines last. -/
def changeReport (answer : Json) : Except PresentationFault (List String) := do
  let title := "\n" ++ memberText answer "uri" ++ " @ version " ++ memberText answer "version"
  let dropped :=
    if isPositive answer "diagnostics" then
      [memberText answer "diagnostics" ++ " token(s) dropped with an invalid range"]
    else []
  let changes ← changeTable (← changedLines answer)
  return title :: dropped ++ [changes]

/-- The value with an ordinal, if there is one. -/
def itemAt? (json : Json) (ordinal : Nat) : Option Json :=
  match json with
  | .array items => items[ordinal]?
  | .string text => if ordinal < Text.length16 text.toList then some (.string text) else none
  | value => value.get? (toString ordinal)

/-- The scopes of the kind with an ordinal, one after the other. -/
def scopeCell (scopes : Json) (ordinal : Nat) : Except PresentationFault String :=
  match scopes, itemAt? scopes ordinal with
  | .null, _ => .error (.nothing (toString ordinal))
  | _, none | _, some .null => .ok ""
  | _, some (.array names) => .ok (String.intercalate ", " (plainItems names))
  | _, some _ => .error (.unusable "scopeTable.scopes[ordinal]?.join")

/-- The table of kinds and their scopes. -/
def scopeTable (answer : Json) : Except PresentationFault String := do
  let scopes := (answer.get? "scopes").getD .null
  let kinds ← match (answer.get? "kinds").getD .null with
    | .array kinds => .ok kinds
    | .null => .error (.nothing "forEach")
    | _ => .error (.unusable "scopeTable.kinds.forEach")
  let rows ← kinds.zipIdx.mapM fun (kind, ordinal) => do
    return [.int ordinal, kind, .string (← scopeCell scopes ordinal)]
  ruledTable ["Ordinal", "Kind", "Scope"] rows

/-- The table of an array. -/
def arrayTable (items : List Json) : Except PresentationFault String :=
  if items.isEmpty then .ok "No tokens found."
  else if items.all isTokenEntry then tokenTable items
  else if items.all isSpan then spanTable items
  else .ok (rowTable items)

/-- What is printed to show a value as a table; a scalar is printed as it is. -/
def presentTable (data : Json) : Except PresentationFault (List Json) :=
  match data with
  | .array items => do return [.string (← arrayTable items)]
  | .object _ =>
      if data.has "lines" && data.has "version" then do
        return (← changeReport data).map .string
      else if data.has "scopes" && data.has "kinds" then do
        return [.string (← scopeTable data)]
      else .ok [.string (rowTable [data])]
  | scalar => .ok [scalar]

/-- What is printed to show a value. -/
def present (table : Bool) (data : Json) : Except PresentationFault (List Json) :=
  if table then presentTable data else .ok [.string data.pretty]

end Highlighter.Console
