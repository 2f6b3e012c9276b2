import Highlighter.Decl.Classification

/-! Where kinds come from. A typedef takes its kind from the declaration under it, so its kind is
found along a chain of typedefs, if that ends; every other kind is found at once, whatever wrappers
lead to it.
-/

namespace Highlighter

/-- The declaration that a type takes its kind from, if it takes it from one. -/
def TypeRef.basis? (type : TypeRef) : Option DeclId :=
  match type.desugar unwrapLimit with
  | some (.builtin _) => none
  | some (.tag decl) => some decl
  | _ =>
      match type with
      | .templateParameter decl => decl
      | _ => none

/-- The declaration that a typedef takes its kind from. -/
def Entity.basis? : Entity → Option DeclId
  | typedef underlying => underlying.bind TypeRef.basis?
  | _ => none

namespace DeclTable

/-- The declaration that another one takes its kind from, if there is a typedef behind its
wrappers.
-/
def basis? (table : DeclTable) (id : DeclId) : Option DeclId :=
  (table.unwrap unwrapLimit id).bind fun decl => decl.entity.basis?

/-- No chain of typedefs leads back to where it began. Wrappers may do so. -/
def Grounded (table : DeclTable) : Prop :=
  ∀ id, ¬ Relation.TransGen (fun id basis => table.basis? id = some basis) id id

/-- The search for the kind of a declaration ends with that kind, or without one. -/
inductive Classifies (table : DeclTable) : DeclId → Option Kind → Prop
  /-- Nothing else is asked for. -/
  | direct {id kind} (ground : table.basis? id = none)
    (own : table.kindBy (fun _ => .ok none) id = .ok kind)
    : Classifies table id kind
  /-- What a typedef stands for is searched first. -/
  | typedef {id basis kind} (based : table.basis? id = some basis)
    (found : Classifies table basis kind)
    : Classifies table id (some (kind.getD .typedef))

/-- Candidates of a name have a kind in common, or there is none that all of them have. -/
def Common (table : DeclTable) (candidates : List DeclId) (kind : Option Kind) : Prop :=
  ∀ own,
    kind = some own
    ↔ candidates ≠ [] ∧ ∀ candidate ∈ candidates, table.kindOf candidate = .ok (some own)

end DeclTable

end Highlighter
