import Highlighter.Tree.Walk

/-! Walking a tree with a stack that is an array. The next node is at its end, so the roots are
stacked in reverse and the children of a node from the last to the first; what each visit finds is
added to what is found already. A visit that asks for a kind without an end is the last one, and all
that has been found is lost.
-/

namespace Highlighter

namespace Highlights

/-- Nothing is found yet. -/
def empty : Highlights := ⟨[], []⟩

/-- What is found together with one emission more. -/
def add (found : Highlights) : Emission → Highlights
  | .token token => { found with tokens := found.tokens ++ [token] }
  | .diagnostic place => { found with diagnostics := found.diagnostics ++ [place] }

/-- What is found when a node has been visited too. -/
def visit (found : Highlights) (tree : Tree) (node : Node) : Except Endless Highlights :=
  (Emission.ofShape tree.decls tree.source node.shape).map fun emissions =>
    emissions.foldl add found

end Highlights

/-- A walk in progress: the nodes to be visited, the next one last, and what has been found. -/
structure Walker where
  stack : Array Node
  found : Highlights

namespace Walker

/-- The roots are stacked in reverse. -/
def start (tree : Tree) : Walker := ⟨tree.nodes.toArray.reverse, .empty⟩

/-- The stack with further nodes on it, the last of them deepest. -/
def push (stack : Array Node) (nodes : List Node) : Array Node :=
  nodes.foldr (fun node stack => stack.push node) stack

/-- The node on top of the stack is visited and makes room for its children; none is visited if the
stack is empty.
-/
def step? (tree : Tree) (walker : Walker) : Option (Node × Except Endless Walker) :=
  walker.stack.back?.map fun node =>
    (node,
      (walker.found.visit tree node).map fun found => ⟨push walker.stack.pop node.children, found⟩)

/-- A walk visits some nodes one after another and is over then, with what has been found or without
anything.
-/
inductive Visits (tree : Tree) : Walker → List Node → Except Endless Highlights → Prop
  | ended {walker} (stop : walker.step? tree = none) : Visits tree walker [] (.ok walker.found)
  | next {walker node after nodes result} (step : walker.step? tree = some (node, .ok after))
    (rest : Visits tree after nodes result)
    : Visits tree walker (node :: nodes) result
  | lost {walker node fault} (step : walker.step? tree = some (node, .error fault))
    : Visits tree walker [node] (.error fault)

end Walker

end Highlighter
