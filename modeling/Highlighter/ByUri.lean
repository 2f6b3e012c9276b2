/-! Values kept by document. A document has one value or none, and a value that is set takes the
place of the one that the document had.
-/

namespace Highlighter

/-- The documents that have a value, each with its uri. -/
structure ByUri (α : Type) where
  documents : List (String × α)
deriving DecidableEq, Repr

namespace ByUri

variable {α : Type}

/-- No document has a value. -/
def empty : ByUri α := ⟨[]⟩

/-- The value of a document, if it has one. -/
def get? (values : ByUri α) (uri : String) : Option α :=
  (values.documents.find? fun entry => entry.1 = uri).map (·.2)

/-- Takes its value from a document. -/
def erase (values : ByUri α) (uri : String) : ByUri α :=
  ⟨values.documents.filter fun entry => entry.1 ≠ uri⟩

/-- Gives a document a value. -/
def set (values : ByUri α) (uri : String) (value : α) : ByUri α :=
  ⟨(uri, value) :: (values.erase uri).documents⟩

/-- The documents that have a value. -/
def uris (values : ByUri α) : List String := values.documents.map (·.1)

/-- At the start no document has a value, by definition. -/
@[simp] theorem get?_empty (uri : String) : (empty : ByUri α).get? uri = none := rfl

/-- Only the document itself loses its value: the others pass the filter. -/
@[simp] theorem get?_erase (values : ByUri α) (uri other : String)
    : (values.erase uri).get? other = if other = uri then none else values.get? other := by
  by_cases same : other = uri
  · subst same
    simp [get?, erase, List.find?_filter]
  · have agree : (fun entry : String × α =>
        decide (decide (entry.1 ≠ uri) = true ∧ decide (entry.1 = other) = true))
        = fun entry => decide (entry.1 = other) := by
      funext entry
      by_cases found : entry.1 = other <;> simp [found, same]
    simp only [get?, erase, List.find?_filter, agree, same, if_false]

/-- A document has the value that it was given last; the others keep theirs. -/
@[simp] theorem get?_set (values : ByUri α) (uri other : String) (value : α)
    : (values.set uri value).get? other
      = if other = uri then some value else values.get? other := by
  by_cases same : other = uri
  · simp [get?, set, same]
  · have kept := get?_erase values uri other
    simp only [get?, same, if_false] at kept ⊢
    simpa [set, Ne.symm same] using kept

end ByUri

end Highlighter
