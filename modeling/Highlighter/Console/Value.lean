import Highlighter.Json
import Highlighter.Number.Numeral
import Highlighter.Number.Text

/-! Values taken loosely: any of them as text, as a condition, or as a number if it gives one. Data
that comes from outside is shown and options are understood this way.
-/

namespace Highlighter.Console

mutual
/-- A value in running text. -/
def plainText : Json → String
  | .null => "null"
  | .bool value => if value then "true" else "false"
  | .number value => value.text
  | .string value => value
  | .array items => String.intercalate "," (plainItems items)
  | .object _ => "[object Object]"

/-- The items of an array in running text, where a null leaves its place empty. -/
def plainItems : List Json → List String
  | [] => []
  | .null :: rest => "" :: plainItems rest
  | item :: rest => plainText item :: plainItems rest
end

/-- The value counts as true where a condition is asked for. -/
def isTruthy : Json → Bool
  | .null => false
  | .bool value => value
  | .number value => value.toInt? ≠ some 0
  | .string value => value ≠ ""
  | _ => true

/-- The word for the kind of a value. -/
def kindWord : Json → String
  | .bool _ => "boolean"
  | .number _ => "number"
  | .string _ => "string"
  | _ => "object"

/-- The number that a value gives, if it gives one. -/
def numberOf? : Json → Option Number
  | .number value => some value
  | .bool value => some (.ofInt (if value then 1 else 0))
  | .null => some (.ofInt 0)
  | value => Numeral.read? (plainText value)

end Highlighter.Console
