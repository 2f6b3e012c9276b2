import Highlighter.Decl
import Highlighter.Source

/-! A resolved syntax tree: the main file's text, the nodes that mention or make declarations, the
declarations that they reach, and the ranges where macros are expanded.
-/

namespace Highlighter

/-- The type that a placeholder such as `auto` stands for, and where the placeholder is written. -/
structure Placeholder where
  location : Option Location
  deduced : Option TypeRef
deriving Repr

/-- What qualifies a name. -/
inductive Qualifier where
  | namespaceName
  | namespaceAlias
  | type
  | identifier
  | global
  | super
deriving DecidableEq, Repr

/-- What a node is, without its children. -/
inductive Shape where
  | declaration (decl : DeclId) (placeholder : Option Placeholder)
  | declRef (location : Option Location) (name : DeclName) (decl : DeclId)
  | memberAccess (location : Option Location) (name : DeclName) (decl : DeclId)
  | overloadRef (location : Option Location) (name : DeclName) (candidates : List DeclId)
  | dependentDeclRef (location : Option Location) (name : DeclName)
  | dependentMemberAccess (location : Option Location) (name : DeclName)
  | typedefTypeRef (location : Option Location) (decl : DeclId)
  | templateSpecializationRef (location : Option Location) (template : Option DeclId)
  | tagTypeRef (location : Option Location) (type : TypeRef) (isDefinition : Bool)
  | decltypeRef (location : Option Location) (type : TypeRef)
  | dependentTypeRef (location : Option Location)
  | templateParameterTypeRef (location : Option Location)
  | namespaceQualifier (location : Option Location) (qualifier : Qualifier)
  | memberInitializer (location : Option Location) (member : Option DeclId)
deriving Repr

/-- A node with its children; a node may say nothing of children at all. -/
inductive Node where
  | mk (shape : Shape) (children : Option (List Node))
deriving Repr

namespace Node

/-- What a node is, without its children. -/
def shape : Node → Shape
  | mk shape _ => shape

/-- The children of a node, none if it says nothing of them. -/
def children : Node → List Node
  | mk _ (some children) => children
  | mk _ none => []

mutual
/-- The number of nodes of a tree. -/
def size : Node → Nat
  | mk _ (some children) => sizeAll children + 1
  | mk _ none => 1

/-- The number of nodes of a forest. -/
def sizeAll : List Node → Nat
  | [] => 0
  | node :: rest => size node + sizeAll rest
end

/-- A forest has as many nodes as its two parts. -/
theorem sizeAll_append (front back : List Node)
    : sizeAll (front ++ back) = sizeAll front + sizeAll back := by
  induction front with
  | nil => simp [sizeAll]
  | cons node rest ih => simp [sizeAll, ih, Nat.add_assoc]

/-- A node is one more than its children. -/
theorem size_eq (node : Node) : size node = sizeAll node.children + 1 := by
  match node with
  | mk _ (some children) => simp [size, Node.children]
  | mk _ none => simp [size, Node.children, sizeAll]

end Node

/-- A resolved syntax tree. -/
structure Tree where
  source : Source
  nodes : List Node
  macros : List Range
  decls : DeclTable
deriving Repr

end Highlighter
