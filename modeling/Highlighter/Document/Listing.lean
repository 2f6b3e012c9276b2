import Highlighter.Document

/-! The tokens of a tree as a list for people: each with its place, its length, and the name and the
scope of its kind. No document is opened for it.
-/

namespace Highlighter

/-- A token as lists and tables show it. -/
structure TokenEntry where
  line : Int
  character : Int
  length : Int
  kind : Option Kind
deriving DecidableEq, Repr

/-- The tokens of a tree, and how many had no range. -/
structure Listing where
  tokens : List TokenEntry
  diagnostics : Nat
deriving DecidableEq, Repr

namespace TokenEntry

/-- The entry of a token. -/
def ofToken (token : Token) : TokenEntry :=
  ⟨token.range.start.line, token.range.start.character, token.range.width,
    Kind.ofOrdinal? token.kind⟩

end TokenEntry

namespace Listing

/-- The listing of what is found in a tree. -/
def ofHighlights (found : Highlights) : Listing :=
  ⟨found.tokens.map TokenEntry.ofToken, found.diagnostics.length⟩

/-- The listing of a tree, if its walk ends. -/
def ofTree (tree : Tree) : Except Endless Listing :=
  tree.highlights.map ofHighlights

end Listing

end Highlighter
