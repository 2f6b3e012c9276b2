import Highlighter.Console.Cell
import Highlighter.Console.Value

/-! What values put into the cells of a table. A scalar is its text; an object describes a cell,
with what it contains and how it is laid out; and any other value leaves its cell empty.
-/

namespace Highlighter.Console

/-- Why a value cannot be shown. -/
inductive PresentationFault where
  /-- A cell contains a value of the given kind, which is not a scalar. -/
  | content (kind : String)
  /-- A cell reaches below the last row. -/
  | overhang
  /-- A part is asked for where there is nothing. -/
  | nothing (part : String)
  /-- A value does not have what is used of it. -/
  | unusable (use : String)
deriving DecidableEq, Repr

namespace PresentationFault

/-- The word for the kind of a fault. -/
def kind : PresentationFault → String
  | content _ => "Error"
  | _ => "TypeError"

/-- How a fault is worded. -/
def message : PresentationFault → String
  | content kind => "Content needs to be a primitive, got: " ++ kind
  | overhang => "Cannot read properties of undefined (reading 'length')"
  | nothing part => "Cannot read properties of null (reading '" ++ part ++ "')"
  | unusable use => use ++ " is not a function"

end PresentationFault

namespace Cell

/-- A member that counts as true. -/
def setting? (json : Json) (name : String) : Option Json :=
  (json.get? name).filter isTruthy

/-- A count that a member gives. -/
def count? (json : Json) (name : String) : Option Nat :=
  match setting? json name with
  | some (.number value) => value.toNat?
  | _ => none

/-- The alignment that a member names, where `last` is the word for the end. -/
def alignment (json : Json) (name last : String) : Alignment :=
  if json.string? name = some "center" then .middle
  else if json.string? name = some last then .finish
  else .start

/-- The blanks that a description asks for under one of some names, one if it does not. -/
def padding (json : Json) (names : List String) : Nat :=
  let style := (json.get? "style").getD .null
  (names.findSome? (count? style)).getD 1

/-- The text that a description contains: its content, or the target of its link. -/
def describedText (json : Json) : Except PresentationFault String :=
  match (json.get? "content").getD .null with
  | .null => .ok (((setting? json "href").map plainText).getD "")
  | .array _ | .object _ => .error (.content "object")
  | scalar => .ok (plainText scalar)

/-- The cell that an object describes. -/
def ofDescription (json : Json) : Except PresentationFault Cell := do
  let plain := ofText (← describedText json)
  let lines := match setting? json "href" with
    | some target => plain.lines.map (CellLine.linked (plainText target))
    | none => plain.lines
  return { plain with
    lines := lines
    before := padding json ["paddingLeft", "padding-left"]
    after := padding json ["paddingRight", "padding-right"]
    across := alignment json "hAlign" "right"
    down := alignment json "vAlign" "bottom"
    mark := ((setting? json "truncate").map plainText).getD ellipsis
    columnSpan := (count? json "colSpan").getD 1
    rowSpan := (count? json "rowSpan").getD 1 }

/-- The cell of a value. -/
def ofJson : Json → Except PresentationFault Cell
  | .null | .array _ => .ok (ofText "")
  | .object members => ofDescription (.object members)
  | scalar => .ok (ofText (plainText scalar))

end Cell

end Highlighter.Console
