import Highlighter.Kind
import Highlighter.Range

/-! Highlighted ranges and their canonical order: by range, then by kind. A list is sorted in this
order or has a first token that stands before its predecessor.
-/

namespace Highlighter

/-- A range with the ordinal of the kind that it is highlighted as. -/
structure Token where
  kind : Int
  range : Range
deriving DecidableEq, Repr

namespace Token

/-- A range highlighted as a kind. -/
def ofKind (kind : Kind) (range : Range) : Token :=
  ⟨kind.ordinal, range⟩

/-- The line that a token starts on. -/
def line (token : Token) : Int := token.range.start.line

/-- By range, then by kind. -/
def compare (a b : Token) : Ordering :=
  (a.range.compare b.range).then (Ord.compare a.kind b.kind)

/-- A token stands before another or is the same. -/
def atMost (a b : Token) : Bool := (a.compare b).isLE

/-- The difference of the first coordinate that differs, the kind last: its sign is the result of
the comparison.
-/
def difference (a b : Token) : Int :=
  if a.range.difference b.range ≠ 0 then a.range.difference b.range
  else nearestInt (a.kind - b.kind)

/-- The tokens in canonical order; tokens that are equal in it stay as they stood. -/
def sort (tokens : List Token) : List Token :=
  tokens.mergeSort atMost

/-- The index of the first token that stands before its predecessor, counted from `index` for the
token after `last`.
-/
def firstUnsortedAfter (last : Token) (index : Nat) : List Token → Option Nat
  | [] => none
  | token :: rest =>
      if last.atMost token then firstUnsortedAfter token (index + 1) rest else some index

/-- The index of the first token that stands before its predecessor. -/
def firstUnsorted : List Token → Option Nat
  | [] => none
  | token :: rest => firstUnsortedAfter token 1 rest

/-- Every token stands after its predecessors. -/
def Sorted (tokens : List Token) : Prop :=
  tokens.Pairwise fun a b => a.atMost b

end Token

end Highlighter
