import Highlighter.Json.Printer
import Highlighter.Json.Reader

/-! Bodies of requests. One that reaches into what all objects share is refused, wherever in it that
happens; of several such places the least deep one counts, and of equally deep ones the first.
-/

namespace Highlighter.Http

/-- Why a body is refused. -/
inductive BodyFault where
  /-- A member that no object may have. -/
  | forbiddenMember
  /-- A member that has to be an object is null. -/
  | nullMember
deriving DecidableEq, Repr

/-- How a fault is worded. -/
def BodyFault.message : BodyFault → String
  | forbiddenMember => "Object contains forbidden prototype property"
  | nullMember => "Cannot convert undefined or null to object"

namespace Body

/-- A body as it arrives when it has been sent as text; an infinite number has become null. -/
def sent (body : Json) : Json := (Json.parse? body.compact).getD .null

/-- The fault of an object's own members. -/
def ownFault? (members : List (String × Json)) : Option BodyFault :=
  if (Json.lookup "__proto__" members).isSome then some .forbiddenMember
  else
    match Json.lookup "constructor" members with
    | some .null => some .nullMember
    | some value => if value.has "prototype" then some .forbiddenMember else none
    | none => none

/-- The less deep one of two faults, the first of two that are equally deep. -/
def shallower : Option (Nat × BodyFault) → Option (Nat × BodyFault) → Option (Nat × BodyFault)
  | none, second => second
  | first, none => first
  | some first, some second => if second.1 < first.1 then some second else some first

mutual
/-- The first fault of a value, with its depth. -/
def firstFault (depth : Nat) : Json → Option (Nat × BodyFault)
  | .array items => firstItemFault (depth + 1) items
  | .object members =>
      match ownFault? members with
      | some fault => some (depth, fault)
      | none => firstMemberFault (depth + 1) members
  | _ => none

/-- The first fault of items. -/
def firstItemFault (depth : Nat) : List Json → Option (Nat × BodyFault)
  | [] => none
  | item :: rest => shallower (firstFault depth item) (firstItemFault depth rest)

/-- The first fault of what members hold. -/
def firstMemberFault (depth : Nat) : List (String × Json) → Option (Nat × BodyFault)
  | [] => none
  | (_, value) :: rest => shallower (firstFault depth value) (firstMemberFault depth rest)
end

/-- Why a body is refused, if it is. -/
def fault? (body : Json) : Option BodyFault := (firstFault 0 body).map (·.2)

end Body

end Highlighter.Http
