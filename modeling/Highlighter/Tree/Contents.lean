import Highlighter.Decl.Classification
import Highlighter.Tree.Preorder
import Mathlib.Data.Option.Basic
import Mathlib.Data.List.Forall2

/-! What a tree contains, whatever ids its declarations have and however its nodes are ordered and
nested. Ids only connect: two declarations are alike if they say the same, and refer to declarations
that are alike in turn, even if their references go round in circles. Where the order of references
says nothing (candidates of a name, shadows of a using declaration), neither order nor repetition
counts.
-/

namespace Highlighter

/-- Two lists have related elements, whatever their order and how often each is repeated. -/
def SameElements {α β : Type} (related : α → β → Prop) (first : List α) (second : List β) : Prop :=
  (∀ one ∈ first, ∃ other ∈ second, related one other)
  ∧ ∀ other ∈ second, ∃ one ∈ first, related one other

variable (same : DeclId → DeclId → Prop)

/-- Two types are written alike, if ids are the same that `same` relates. -/
inductive TypeRef.Alike : TypeRef → TypeRef → Prop
  | builtin (name : String) : Alike (.builtin name) (.builtin name)
  | templateParameter {one another} (decl : Option.Rel same one another)
    : Alike (.templateParameter one) (.templateParameter another)
  | tag {one another} (decl : same one another) : Alike (.tag one) (.tag another)
  | sugared (sugar : Sugar) {one another} (underlying : Alike one another)
    : Alike (.sugared sugar (some one)) (.sugared sugar (some another))
  | bare (sugar : Sugar) : Alike (.sugared sugar none) (.sugared sugar none)
  | other : Alike .other .other

/-- What refers to no declaration. -/
def Entity.isPlain : Entity → Bool
  | usingShadow _ | template _ | typedef _ | namespaceAlias _ _ | usingList _ => false
  | _ => true

/-- The same is declared. -/
inductive Entity.Alike : Entity → Entity → Prop
  | plain {entity : Entity} (refersToNone : entity.isPlain = true) : Alike entity entity
  | usingShadow {one another} (target : Option.Rel same one another)
    : Alike (.usingShadow one) (.usingShadow another)
  | template {one another} (templated : Option.Rel same one another)
    : Alike (.template one) (.template another)
  | typedef {one another} (underlying : Option.Rel (TypeRef.Alike same) one another)
    : Alike (.typedef one) (.typedef another)
  | namespaceAlias {one another} (aliased : Option.Rel same one another)
    (targetName : Option Location)
    : Alike (.namespaceAlias one targetName) (.namespaceAlias another targetName)
  | usingList {one another} (shadows : SameElements same one another)
    : Alike (.usingList one) (.usingList another)

/-- Two declarations say the same; their ids are not part of it. -/
structure Decl.Alike (one other : Decl) : Prop where
  name : one.name = other.name
  location : one.location = other.location
  entity : one.entity.Alike same other.entity

/-- Ids that are the same stand for declarations that are alike, or both for none. -/
def DeclTable.Alike (table other : DeclTable) : Prop :=
  ∀ one another,
    same one another → Option.Rel (Decl.Alike same) (table.find? one) (other.find? another)

/-- Two placeholders stand for types that are written alike. -/
structure Placeholder.Alike (one other : Placeholder) : Prop where
  location : one.location = other.location
  deduced : Option.Rel (TypeRef.Alike same) one.deduced other.deduced

/-- A node that refers to no declaration. -/
def Shape.isPlain : Shape → Bool
  | dependentDeclRef _ _ | dependentMemberAccess _ _ | dependentTypeRef _
  | templateParameterTypeRef _ | namespaceQualifier _ _ => true
  | _ => false

/-- Two nodes are the same, apart from their children. -/
inductive Shape.Alike : Shape → Shape → Prop
  | plain {shape : Shape} (refersToNone : shape.isPlain = true) : Alike shape shape
  | declaration {one another placeholder deduced} (decl : same one another)
    (stands : Option.Rel (Placeholder.Alike same) placeholder deduced)
    : Alike (.declaration one placeholder) (.declaration another deduced)
  | declRef {one another} (location : Option Location) (name : DeclName) (decl : same one another)
    : Alike (.declRef location name one) (.declRef location name another)
  | memberAccess {one another} (location : Option Location) (name : DeclName)
    (decl : same one another)
    : Alike (.memberAccess location name one) (.memberAccess location name another)
  | overloadRef {one another} (location : Option Location) (name : DeclName)
    (candidates : SameElements same one another)
    : Alike (.overloadRef location name one) (.overloadRef location name another)
  | typedefTypeRef {one another} (location : Option Location) (decl : same one another)
    : Alike (.typedefTypeRef location one) (.typedefTypeRef location another)
  | templateSpecializationRef {one another} (location : Option Location)
    (template : Option.Rel same one another)
    : Alike (.templateSpecializationRef location one) (.templateSpecializationRef location another)
  | tagTypeRef {one another} (location : Option Location) (type : one.Alike same another)
    (isDefinition : Bool)
    : Alike (.tagTypeRef location one isDefinition) (.tagTypeRef location another isDefinition)
  | decltypeRef {one another} (location : Option Location) (type : one.Alike same another)
    : Alike (.decltypeRef location one) (.decltypeRef location another)
  | memberInitializer {one another} (location : Option Location)
    (member : Option.Rel same one another)
    : Alike (.memberInitializer location one) (.memberInitializer location another)

/-- The candidates of which a node asks what they have in common. -/
def Shape.candidates (table : DeclTable) : Shape → List DeclId
  | overloadRef _ name candidates => if name.isWritten then candidates else []
  | declaration id _ =>
      match (table.find? id).map Decl.entity with
      | some (.usingList shadows) => shadows
      | _ => []
  | _ => []

namespace Tree

/-- The nodes of a tree, each without its children. -/
def shapes (tree : Tree) : List Shape := (Node.forestOrder tree.nodes).map Node.shape

/-- Two trees are of the same text, and have the same nodes and the same macros. -/
structure SameContents (tree other : Tree) : Prop where
  source : tree.source = other.source
  decls : tree.decls.Alike same other.decls
  nodes : SameElements (Shape.Alike same) tree.shapes other.shapes
  macros : ∀ range, range ∈ tree.macros ↔ range ∈ other.macros

/-- Of each candidate that a node of the tree asks about the search for its kind ends, so that it
does not matter whether a candidate before it decides already what they have in common.
-/
def Settled (tree : Tree) : Prop :=
  ∀ shape ∈ tree.shapes,
    ∀ candidate ∈ shape.candidates tree.decls,
      ∃ kind, tree.decls.kindOf candidate = .ok kind

/-- Two trees have each node as often as the other one. -/
def SameCounts (tree other : Tree) : Prop :=
  ∃ rearranged,
    other.shapes.Perm rearranged
    ∧ List.Forall₂ (Shape.Alike same) tree.shapes rearranged

end Tree

end Highlighter
