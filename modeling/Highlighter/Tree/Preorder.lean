import Highlighter.Tree

/-! Pre-order of a forest: every node stands before its children, and these in their order. A node
is told apart from equal ones by its address, the positions to go through from the roots.
-/

namespace Highlighter.Node

mutual
/-- A tree in pre-order, its nodes with their addresses in it. -/
def preorder : Node → List (List Nat × Node)
  | mk shape none => [([], mk shape none)]
  | mk shape (some children) => ([], mk shape (some children)) :: preorderFrom 0 children

/-- A forest in pre-order, the first of its trees standing at the position. -/
def preorderFrom (position : Nat) : List Node → List (List Nat × Node)
  | [] => []
  | node :: rest =>
      (preorder node).map (fun entry => (position :: entry.1, entry.2))
        ++ preorderFrom (position + 1) rest
end

/-- The nodes of a forest in pre-order. -/
def forestOrder (nodes : List Node) : List Node :=
  (preorderFrom 0 nodes).map Prod.snd

/-- The node at an address below another one. -/
def below? (node : Node) : List Nat → Option Node
  | [] => some node
  | position :: address => node.children[position]?.bind fun child => child.below? address

/-- The node at an address of a forest. -/
def at? (nodes : List Node) : List Nat → Option Node
  | [] => none
  | position :: address => nodes[position]?.bind fun node => node.below? address

end Highlighter.Node
