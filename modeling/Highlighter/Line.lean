import Highlighter.Token

/-! Tokens by line. A line holds neighbouring tokens that start on it, so a list of tokens has one
grouping: no line is empty and neighbouring lines differ.
-/

namespace Highlighter

/-- The tokens that start on a line. -/
structure Line where
  line : Int
  tokens : List Token
deriving DecidableEq, Repr

namespace Line

/-- Puts a token before lines: into the first one if it starts there, else on a line of its own. -/
def prepend (token : Token) : List Line → List Line
  | [] => [⟨token.line, [token]⟩]
  | first :: rest =>
      if first.line = token.line then ⟨first.line, token :: first.tokens⟩ :: rest
      else ⟨token.line, [token]⟩ :: first :: rest

/-- The lines of a list of tokens, sorted or not. -/
def group (tokens : List Token) : List Line :=
  tokens.foldr prepend []

end Line

end Highlighter
