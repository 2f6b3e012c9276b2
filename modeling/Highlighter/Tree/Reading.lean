import Highlighter.Decl
import Highlighter.Json
import Highlighter.Tree.Place

/-! Reading a part of a tree. A part is read up to its first misfit, and whatever it refers to is
only noted, in the order in which the references are met; following them is another matter. So a
reading is a list of references together with a value or a misfit.
-/

namespace Highlighter

/-- A reference to a declaration, and where it is made. -/
structure Reference where
  id : DeclId
  place : Place
deriving DecidableEq, Repr

/-- What reading a part leads to, with the references that were met before it ended. -/
structure Reading (α : Type) where
  references : List Reference
  result : Except Misfit α
deriving Repr

namespace Reading

variable {α β : Type}

/-- A value that is there without reading. -/
def done (value : α) : Reading α := ⟨[], .ok value⟩

/-- Reads a part and then another that depends on it; a misfit ends both. -/
def andThen (reading : Reading α) (next : α → Reading β) : Reading β :=
  match reading.result with
  | .error misfit => ⟨reading.references, .error misfit⟩
  | .ok value =>
      let rest := next value
      ⟨reading.references ++ rest.references, rest.result⟩

instance : Monad Reading where
  pure := done
  bind := andThen

/-- The value at a place fails a check. -/
def fail (place : Place) (check : Check) : Reading α :=
  ⟨[], .error ⟨place, check⟩⟩

/-- The members of the object at a place. -/
def object (place : Place) : Option Json → Reading (List (String × Json))
  | some (.object members) => done members
  | _ => fail place .object

/-- The items of the array at a place. -/
def array (place : Place) : Option Json → Reading (List Json)
  | some (.array items) => done items
  | _ => fail place .array

/-- The text at a place. -/
def string (place : Place) : Option Json → Reading String
  | some (.string value) => done value
  | _ => fail place .string

/-- The truth value at a place. -/
def boolean (place : Place) : Option Json → Reading Bool
  | some (.bool value) => done value
  | _ => fail place .boolean

/-- The line or column at a place. -/
def coordinate (place : Place) : Option Json → Reading Int
  | some (.number value) =>
      match value.toNat? with
      | some n => done n
      | none => fail place .position
  | _ => fail place .position

/-- A part that may be left out, with the value that it then has. -/
def orDefault (value : Option Json) (default : α) (read : Option Json → Reading α)
    : Reading α :=
  match value with
  | none => done default
  | present => read present

/-- A part that may be left out or be null. -/
def optional (value : Option Json) (read : Option Json → Reading α) : Reading (Option α) :=
  match value with
  | none | some .null => done none
  | present => do return some (← read present)

/-- The reference at a place. -/
def reference (place : Place) (value : Option Json) : Reading DeclId := do
  let id ← string place value
  ⟨[⟨id, place⟩], .ok id⟩

/-- The references of the items of an array, the first of which has that index. -/
def referencesFrom (place : Place) (index : Nat) : List Json → Reading (List DeclId)
  | [] => done []
  | item :: rest => do
      let first ← reference (place.item index) (some item)
      let others ← referencesFrom place (index + 1) rest
      return first :: others

/-- The references of the array at a place. -/
def referenceList (place : Place) (value : Option Json) : Reading (List DeclId) := do
  referencesFrom place 0 (← array place value)

end Reading

end Highlighter
