/-! Places in a JSON value, and what can be wrong with the value at one. A reader that gives up says
where and which check failed; the wording is decided here alone.
-/

namespace Highlighter

/-- A step into a value: to the member of an object or to an item of an array. -/
inductive Step where
  | member (key : String)
  | item (index : Nat)
deriving DecidableEq, Repr

/-- The steps from the root of a value, the last one first. -/
structure Place where
  reversed : List Step
deriving DecidableEq, Repr

namespace Place

/-- The root of a value. -/
def root : Place := ⟨[]⟩

/-- The member of the object at a place. -/
def member (place : Place) (key : String) : Place := ⟨.member key :: place.reversed⟩

/-- The item of the array at a place. -/
def item (place : Place) (index : Nat) : Place := ⟨.item index :: place.reversed⟩

/-- The steps from the root, the first one first. -/
def steps (place : Place) : List Step := place.reversed.reverse

/-- A step as paths write it. -/
def stepText : Step → String
  | .member key => "." ++ key
  | .item index => "[" ++ toString index ++ "]"

/-- The path to a place. -/
def text (place : Place) : String :=
  place.steps.foldl (fun path step => path ++ stepText step) "$"

end Place

/-- A check that a value can fail. -/
inductive Check where
  | object
  | array
  | string
  | boolean
  | position
  | nameKind (found : String)
  | storage (found : String)
  | sugar (found : String)
  | qualifier (found : String)
  | declKind (found : String)
  | typeKind (found : String)
  | shape (found : String)
  | knownDecl (id : String)
deriving DecidableEq, Repr

namespace Check

/-- What is wrong with a value that fails the check. -/
def text : Check → String
  | object => "must be an object"
  | array => "must be an array"
  | string => "must be a string"
  | boolean => "must be a boolean"
  | position => "must be a non-negative integer"
  | nameKind found => "has unknown name kind \"" ++ found ++ "\""
  | storage found => "has unknown storage \"" ++ found ++ "\""
  | sugar found => "has unknown sugar \"" ++ found ++ "\""
  | qualifier found => "has unknown specifier \"" ++ found ++ "\""
  | declKind found => "has unknown declaration kind \"" ++ found ++ "\""
  | typeKind found => "has unknown type kind \"" ++ found ++ "\""
  | shape found => "has unknown node shape \"" ++ found ++ "\""
  | knownDecl id => "references unknown declaration \"" ++ id ++ "\""

end Check

/-- The value at a place fails a check. -/
structure Misfit where
  place : Place
  check : Check
deriving DecidableEq, Repr

/-- The path to the place and what is wrong there. -/
def Misfit.text (misfit : Misfit) : String :=
  misfit.place.text ++ " " ++ misfit.check.text

end Highlighter
