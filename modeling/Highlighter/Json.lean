import Highlighter.Number

/-! Values of the JSON data format. An object keeps its members in order, and of two members with
one name the first is the one that a look-up finds.
-/

namespace Highlighter

/-- A value of the data format. -/
inductive Json where
  | null
  | bool (value : Bool)
  | number (value : Number)
  | string (value : String)
  | array (items : List Json)
  | object (members : List (String × Json))
deriving Repr

namespace Json

instance : Inhabited Json := ⟨.null⟩

/-- The number nearest to an integer. -/
def int (n : Int) : Json := .number (.ofInt n)

/-- A list of texts. -/
def strings (texts : List String) : Json := .array (texts.map .string)

/-- The value of a present option, and `null` for an absent one. -/
def orNull {α : Type} (encode : α → Json) : Option α → Json
  | some value => encode value
  | none => .null

/-- The first member of that name. -/
def lookup (key : String) : List (String × Json) → Option Json
  | [] => none
  | (name, value) :: rest => if name = key then some value else lookup key rest

/-- The member of that name, if the value is an object that has one. -/
def get? (json : Json) (key : String) : Option Json :=
  match json with
  | .object members => lookup key members
  | _ => none

/-- The member of that name, if the value is an object that has one of text. -/
def string? (json : Json) (key : String) : Option String :=
  match json.get? key with
  | some (.string value) => some value
  | _ => none

/-- The items of the member of that name, none if it is not an array. -/
def items (json : Json) (key : String) : List Json :=
  match json.get? key with
  | some (.array items) => items
  | _ => []

/-- The value is an object with a member of that name. -/
def has (json : Json) (key : String) : Bool :=
  (json.get? key).isSome

end Json

end Highlighter
