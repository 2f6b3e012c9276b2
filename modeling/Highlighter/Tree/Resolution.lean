import Highlighter.Tree.Grammar
import Highlighter.Tree.Preorder
import Highlighter.Tree.Written

/-! How the references of a tree are resolved, and what they lead to. Following a reference to a
declaration that nothing has referred to before means resolving its body, and all references in
that, before the next reference is followed; a declaration counts as begun from then on, so a body
that leads back to itself is not entered again.
-/

namespace Highlighter

open Json (lookup)

/-- Errands are done by resolving the bodies of some declarations, one inside the other or one after
the other, and lead to what has been begun with or to a misfit.
-/
inductive Errand.Resolves (mainFile : String) (decls : Members)
    : Begun → List Errand → List DeclId → Except Misfit Begun → Prop
  | done {begun} : Resolves mainFile decls begun [] [] (.ok begun)
  | reported {begun misfit rest}
    : Resolves mainFile decls begun (.report misfit :: rest) [] (.error misfit)
  /-- What has been begun with is not resolved again, even if it is still being resolved. -/
  | again {begun reference rest bodies outcome} (already : hasBegun begun reference.id = true)
    (later : Resolves mainFile decls begun rest bodies outcome)
    : Resolves mainFile decls begun (.follow reference :: rest) bodies outcome
  | missing {begun reference rest} (fresh : hasBegun begun reference.id = false)
    (unlisted : lookup reference.id decls = none)
    : Resolves mainFile decls begun (.follow reference :: rest) []
        (.error ⟨reference.place, .knownDecl reference.id⟩)
  /-- A body is resolved with all its references before the errands behind it are done. -/
  | resolved {begun reference rest value inner between later outcome}
    (fresh : hasBegun begun reference.id = false)
    (listed : lookup reference.id decls = some value)
    (body
      : Resolves mainFile decls
          ((reference.id, (Reading.decl mainFile reference.id value).result) :: begun)
          (Reading.decl mainFile reference.id value).errands inner (.ok between))
    (others : Resolves mainFile decls between rest later outcome)
    : Resolves mainFile decls begun (.follow reference :: rest)
        (reference.id :: inner ++ later) outcome
  | failed {begun reference rest value inner misfit}
    (fresh : hasBegun begun reference.id = false)
    (listed : lookup reference.id decls = some value)
    (body
      : Resolves mainFile decls
          ((reference.id, (Reading.decl mainFile reference.id value).result) :: begun)
          (Reading.decl mainFile reference.id value).errands inner (.error misfit))
    : Resolves mainFile decls begun (.follow reference :: rest) (reference.id :: inner)
        (.error misfit)

/-- The references that the nodes of a tree make are resolved by resolving the bodies of some
declarations. None are if the tree cannot be read as far as its nodes.
-/
def Json.Resolves (json : Json) (bodies : List DeclId) (outcome : Except Misfit Errand.Begun)
    : Prop :=
  ∃ heading,
    (Heading.read json).result = .ok heading
    ∧ Errand.Resolves heading.mainFile heading.decls [] heading.body.errands bodies outcome

namespace Tree

/-- A node or a declaration of the tree mentions a declaration. -/
def Mentions (tree : Tree) (id : DeclId) : Prop :=
  (∃ node ∈ Node.forestOrder tree.nodes, id ∈ node.shape.mentions)
  ∨ ∃ decl ∈ tree.decls.decls, id ∈ decl.entity.mentions

/-- A tree is what a JSON value says, with the declarations that it reaches. -/
structure SaidBy (tree : Tree) (json : Json) : Prop where
  /-- Nodes mention the ids that they are written with. -/
  nodes
    : ∃ items,
        json.get? "nodes" = some (.array items)
        ∧ Written.nodes tree.source.file tree.nodes items
  /-- Each declaration that is reached is there, and no other. -/
  reached : ∀ id, (∃ decl ∈ tree.decls.decls, decl.id = id) ↔ json.Reaches id
  /-- No two declarations are of one id. -/
  distinct : (tree.decls.decls.map Decl.id).Nodup
  /-- An id that is mentioned leads to the one declaration of that id. -/
  closed
    : ∀ id,
        tree.Mentions id
        → ∃ decl,
            tree.decls.find? id = some decl
            ∧ ∀ other ∈ tree.decls.decls, other.id = id ↔ other = decl
  /-- A declaration is what is written under its id, and nothing else determines it. -/
  prescribed
    : ∀ decl ∈ tree.decls.decls,
        ∃ value,
          json.declared? decl.id = some value
          ∧ ∀ other,
              other.id = decl.id ∧ Written.decl tree.source.file other value ↔ other = decl

end Tree

end Highlighter
