import Highlighter.Token.Collect
import Highlighter.Tree.Walk

/-! The canonical highlights of a tree: what its walk emits, collected together with the ranges of
its macros, which no node mentions.
-/

namespace Highlighter.Tree

/-- The canonical tokens of a tree and its diagnostics. -/
def highlights (tree : Tree) : Except Endless Highlights :=
  tree.walk.map fun raw => ⟨Token.collect raw.tokens tree.macros, raw.diagnostics⟩

end Highlighter.Tree
