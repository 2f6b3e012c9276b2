import Highlighter.Tree.Grammar
import Highlighter.Tree.Reader

/-! Which values of a tree's JSON form can be misfits. The grammar asks for a form at certain
places, each form makes a few checks, and a value, or its absence, fails a check or passes it; how
values are read, and in which order, does not matter.
-/

namespace Highlighter

open Grammar
open Json (lookup)

namespace Json

/-- The value that a step leads to. -/
def step? : Json → Step → Option Json
  | .object members, .member key => lookup key members
  | .array items, .item index => items[index]?
  | _, _ => none

/-- The value at a place. -/
def at? (json : Json) (place : Place) : Option Json :=
  place.steps.foldlM step? json

/-- The grammar of trees asks for a form at a place: at the root, in the objects and arrays that
stand where it asks for them, and at the declarations that are referred to where it asks for
references. A member is asked for if it must be there, or if it is there and not null where it may
be.
-/
inductive Asks (json : Json) : Place → Form → Prop
  | tree : Asks json .root (.record .tree)
  | member {place : Place} {record : Record} {members : Members} {field : Field}
    (asked : Asks json place (.record record)) (found : json.at? place = some (.object members))
    (listed : field ∈ record.fields members)
    (due : field.need = .required ∨ (field.value? members).isSome)
    : Asks json (place.member field.key) field.form
  | item {place : Place} {form : Form} {items : List Json} {index : Nat}
    (asked : Asks json place (.array form)) (found : json.at? place = some (.array items))
    (inside : index < items.length)
    : Asks json (place.item index) form
  | fullName {place : Place} (asked : Asks json place .name)
    (full : ∀ text, json.at? place ≠ some (.string text))
    : Asks json place (.record .name)
  | declaration {place : Place} {id : DeclId} {value : Json} (asked : Asks json place .reference)
    (found : json.at? place = some (.string id)) (declared : json.declared? id = some value)
    : Asks json (Reading.declPlace id) (.record .declaration)

end Json

/-- The checks that a form makes. -/
def Grammar.Form.Tests : Form → Check → Prop
  | .record _, .object
  | .array _, .array
  | .text, .string
  | .word _, .string
  | .reference, .string
  | .flag, .boolean
  | .coordinate, .position
  | .reference, .knownDecl _ => True
  | .word words, .nameKind _ => words = nameForms
  | .word words, .storage _ => words = storages
  | .word words, .sugar _ => words = sugars
  | .word words, .qualifier _ => words = qualifiers
  | .word words, .declKind _ => words = declarations.map (·.1)
  | .word words, .typeKind _ => words = types.map (·.1)
  | .word words, .shape _ => words = shapes.map (·.1)
  | _, _ => False

/-- A value, or the absence of one, fails a check. What a check quotes is the value itself. -/
def Check.FailedBy (json : Json) (value : Option Json) : Check → Prop
  | object => ∀ members, value ≠ some (.object members)
  | array => ∀ items, value ≠ some (.array items)
  | string => ∀ text, value ≠ some (.string text)
  | boolean => ∀ flag, value ≠ some (.bool flag)
  | position => ∀ number n, value = some (.number number) → number.toNat? ≠ some n
  | nameKind found => value = some (.string found) ∧ found ∉ nameForms
  | storage found => value = some (.string found) ∧ found ∉ storages
  | sugar found => value = some (.string found) ∧ found ∉ sugars
  | qualifier found => value = some (.string found) ∧ found ∉ qualifiers
  | declKind found => value = some (.string found) ∧ found ∉ declarations.map (·.1)
  | typeKind found => value = some (.string found) ∧ found ∉ types.map (·.1)
  | shape found => value = some (.string found) ∧ found ∉ shapes.map (·.1)
  | knownDecl id => value = some (.string id) ∧ json.declared? id = none

/-- A misfit is one of a value: at its place a form is asked for that makes its check, and what is
there fails it.
-/
structure Misfit.Of (json : Json) (misfit : Misfit) : Prop where
  asked : ∃ form, json.Asks misfit.place form ∧ form.Tests misfit.check
  failed : misfit.check.FailedBy json (json.at? misfit.place)

end Highlighter
