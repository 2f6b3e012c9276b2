import Highlighter.Http.Percent
import Highlighter.Json

/-! Queries, which give a route its arguments. Keys and values are percent-decoded and a plus sign
is a blank; a key that is given more than once has the list of its values.
-/

namespace Highlighter.Http.Query

/-- A key or value as it was meant; one that is not encoded correctly stays as it is. -/
def decode (text : String) : String :=
  let spaced := text.map fun c => if c = '+' then ' ' else c
  (Percent.decode? spaced).getD spaced

/-- A character that stands for itself in a key or value. -/
def isPlain (c : Char) : Bool := c.isAlphanum || "-_.~/:".contains c

/-- A key or value as it is written in a query. -/
def encode (text : String) : String := Percent.encode isPlain text

/-- Adds a value of a key. -/
def put (key value : String) : List (String × Json) → List (String × Json)
  | [] => [(key, .string value)]
  | (name, old) :: rest =>
      if name = key then
        let both := match old with
          | .array values => values ++ [.string value]
          | single => [single, .string value]
        (name, .array both) :: rest
      else (name, old) :: put key value rest

/-- A pair as it is written, split at the first equality sign. -/
def splitPair (pair : String) : String × String :=
  let text := pair.toList
  (decode (String.ofList (text.takeWhile (· ≠ '='))),
    decode (String.ofList ((text.dropWhile (· ≠ '=')).drop 1)))

/-- The arguments of a query. -/
def arguments (query : String) : List (String × Json) :=
  let pairs := (query.splitOn "&").filter (· ≠ "")
  pairs.foldl (fun members pair => put (splitPair pair).1 (splitPair pair).2 members) []

end Highlighter.Http.Query
