import Highlighter.Json
import Highlighter.Number.Text
import Highlighter.Text.Hex

/-! The text of a JSON value, on one line or indented by two blanks a level. Only quotes,
backslashes and control characters are escaped, and an infinite number is written as `null`.
-/

namespace Highlighter.Json

/-- A character inside a quoted text. -/
def escape (c : Char) : String :=
  if c = '"' then "\\\""
  else if c = '\\' then "\\\\"
  else if c = '\n' then "\\n"
  else if c = '\r' then "\\r"
  else if c = '\t' then "\\t"
  else if c.toNat = 8 then "\\b"
  else if c.toNat = 12 then "\\f"
  else if c.toNat < 32 then
    "\\u00" ++ String.ofList (Text.hexByte (UInt8.ofNat c.toNat))
  else String.singleton c

/-- A text in quotes. -/
def quote (text : String) : String :=
  text.foldl (fun quoted c => quoted ++ escape c) "\"" ++ "\""

/-- The text of a number, where an infinite one has none of its own. -/
def numberText : Number → String
  | .infinite _ => "null"
  | finite => finite.text

mutual
/-- The text of a value on one line, without blanks. -/
def compact : Json → String
  | .null => "null"
  | .bool value => if value then "true" else "false"
  | .number value => numberText value
  | .string value => quote value
  | .array items => "[" ++ String.intercalate "," (compactItems items) ++ "]"
  | .object members => "\x7b" ++ String.intercalate "," (compactMembers members) ++ "\x7d"

/-- The texts of an array's items. -/
def compactItems : List Json → List String
  | [] => []
  | item :: rest => compact item :: compactItems rest

/-- The texts of an object's members. -/
def compactMembers : List (String × Json) → List String
  | [] => []
  | (name, value) :: rest => (quote name ++ ":" ++ compact value) :: compactMembers rest
end

/-- A line break and the indentation of a level. -/
def newline (level : Nat) : String :=
  "\n" ++ String.ofList (List.replicate (2 * level) ' ')

/-- The parts of a container between its brackets, each on a line of its own. -/
def block (opening closing : String) (level : Nat) (parts : List String) : String :=
  if parts.isEmpty then opening ++ closing
  else
    opening ++ newline (level + 1) ++ String.intercalate ("," ++ newline (level + 1)) parts
      ++ newline level ++ closing

mutual
/-- The text of a value at a level of indentation. -/
def indented (level : Nat) : Json → String
  | .null => "null"
  | .bool value => if value then "true" else "false"
  | .number value => numberText value
  | .string value => quote value
  | .array items => block "[" "]" level (indentedItems (level + 1) items)
  | .object members =>
      block "\x7b" "\x7d" level (indentedMembers (level + 1) members)

/-- The texts of an array's items at a level. -/
def indentedItems (level : Nat) : List Json → List String
  | [] => []
  | item :: rest => indented level item :: indentedItems level rest

/-- The texts of an object's members at a level. -/
def indentedMembers (level : Nat) : List (String × Json) → List String
  | [] => []
  | (name, value) :: rest =>
      (quote name ++ ": " ++ indented level value) :: indentedMembers level rest
end

/-- The text of a value with each member and item on a line of its own. -/
def pretty (json : Json) : String := json.indented 0

end Highlighter.Json
