/-! Sets of characters, given by ranges of their codes. -/

namespace Highlighter.Text

/-- A set of characters: the ranges of their codes, ends included. -/
abbrev Characters := List (Nat × Nat)

namespace Characters

/-- The character with that code is in the set. -/
def hasCode (set : Characters) (code : Nat) : Bool :=
  set.any fun range => range.1 ≤ code && code ≤ range.2

/-- The character is in the set. -/
def has (set : Characters) (c : Char) : Bool := set.hasCode c.toNat

/-- The set of some characters. -/
def ofCodes (codes : List Nat) : Characters := codes.map fun code => (code, code)

end Characters

end Highlighter.Text
