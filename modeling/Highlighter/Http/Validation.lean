import Highlighter.Json
import Highlighter.Number.Numeral
import Highlighter.Number.Text

/-! Checking the arguments of a route. All of a route's arguments are required; each is brought to
its type where that loses nothing, and an array of one scalar stands for the scalar. The first
failure is reported: a missing argument before an argument of the wrong type.
-/

namespace Highlighter.Http

/-- What an argument must be. -/
inductive ArgumentType where
  /-- A text that is not empty. -/
  | text
  /-- An integer that is not negative, or an infinity. -/
  | count
deriving DecidableEq, Repr

/-- A required argument of a route. -/
structure Parameter where
  name : String
  type : ArgumentType
deriving DecidableEq, Repr

/-- An argument that was brought to its type. -/
inductive Argument where
  | text (value : String)
  | count (value : Number)
deriving DecidableEq, Repr

/-- Why arguments are refused. -/
inductive ArgumentFault where
  | notObject
  | missing (name : String)
  | notText (name : String)
  | emptyText (name : String)
  | notInteger (name : String)
  | negative (name : String)
deriving DecidableEq, Repr

namespace ArgumentFault

/-- How a fault is worded; `subject` is where the arguments came from. -/
def message (subject : String) : ArgumentFault → String
  | notObject => subject ++ " must be object"
  | missing name => subject ++ " must have required property '" ++ name ++ "'"
  | notText name => subject ++ "/" ++ name ++ " must be string"
  | emptyText name => subject ++ "/" ++ name ++ " must NOT have fewer than 1 characters"
  | notInteger name => subject ++ "/" ++ name ++ " must be integer"
  | negative name => subject ++ "/" ++ name ++ " must be >= 0"

end ArgumentFault

/-- The scalar that an array of one scalar stands for; other values stand for themselves. -/
def unwrapScalar : Json → Json
  | .array [item] => item
  | value => value

/-- A scalar as text. -/
def toText? : Json → Option String
  | .string value => some value
  | .number value => some value.text
  | .bool value => some (if value then "true" else "false")
  | .null => some ""
  | _ => none

/-- The number is whole; an infinity has no fraction either. -/
def isWhole : Number → Bool
  | .finite value => value.den = 1
  | _ => true

/-- The number is negative. Bounds are bounds of finite numbers, so an infinity keeps them. -/
def isBelowZero : Number → Bool
  | .finite value => value < 0
  | _ => false

/-- A scalar as a whole number. -/
def toWhole? : Json → Option Number
  | .number value =>
      match value with
      | .infinite _ => none
      | finite => if isWhole finite then some finite else none
  | .bool value => some (if value then .ofInt 1 else .ofInt 0)
  | .null => some (.ofInt 0)
  | .string text =>
      if text = "" then none
      else
        match Numeral.read? text with
        | some value => if isWhole value then some value else none
        | none => none
  | _ => none

namespace Parameter

/-- Brings the value of an argument to its type and checks its bounds. -/
def check (parameter : Parameter) (value : Json) : Except ArgumentFault Argument :=
  match parameter.type with
  | .text =>
      match toText? (unwrapScalar value) with
      | none => .error (.notText parameter.name)
      | some text =>
          if text = "" then .error (.emptyText parameter.name) else .ok (.text text)
  | .count =>
      match toWhole? (unwrapScalar value) with
      | none => .error (.notInteger parameter.name)
      | some value =>
          if isBelowZero value then .error (.negative parameter.name) else .ok (.count value)

/-- The first parameter without an argument. -/
def missing? (parameters : List Parameter) (members : List (String × Json))
    : Option String :=
  (parameters.find? fun parameter => (Json.lookup parameter.name members).isNone).map
    Parameter.name

/-- Checks arguments one after the other. -/
def checkAll (members : List (String × Json)) : List Parameter
    → Except ArgumentFault (List Argument)
  | [] => .ok []
  | parameter :: rest =>
      match Json.lookup parameter.name members with
      | none => .error (.missing parameter.name)
      | some value => do
          let first ← parameter.check value
          let others ← checkAll members rest
          return first :: others

/-- The arguments for parameters, in their order. -/
def validate (parameters : List Parameter) (value : Option Json)
    : Except ArgumentFault (List Argument) :=
  match value with
  | some (.object members) =>
      match missing? parameters members with
      | some name => .error (.missing name)
      | none => checkAll members parameters
  | _ => .error .notObject

end Parameter

end Highlighter.Http
