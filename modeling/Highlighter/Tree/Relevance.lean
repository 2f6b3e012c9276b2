import Highlighter.Tree.Grammar

/-! What a tree is read from. Of the declarations that it lists only those count that its nodes
reach; the others may be of any form, or missing, and the order of the list does not matter.
-/

namespace Highlighter.Json

/-- The value is an object. -/
def isObject : Json → Bool
  | .object _ => true
  | _ => false

/-- The value lists declarations, or says nothing of any. -/
def ListsDecls (json : Json) : Prop :=
  ∀ table, json.get? "decls" = some table → table.isObject

/-- Two values are the same tree, apart from the order in which they list declarations and from the
declarations that the first one does not reach.
-/
structure SameReached (json other : Json) : Prop where
  objects : json.isObject = other.isObject
  elsewhere : ∀ key, key ≠ "decls" → json.get? key = other.get? key
  tables : json.get? "decls" = other.get? "decls" ∨ json.ListsDecls ∧ other.ListsDecls
  reached : ∀ id, json.Reaches id → json.declared? id = other.declared? id

end Highlighter.Json
