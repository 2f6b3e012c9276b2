import Highlighter.Line

/-! The lines that differ between two canonical token lists. Both lists are cut side by side into
slices, one for each line that is examined: line 0 first, and then the least line that still has a
token on either side. A slice whose two sides differ is a changed line, with the tokens it has now.
-/

namespace Highlighter

/-- The tokens of both lists that start on one examined line. -/
structure Slice where
  line : Int
  next : List Token
  previous : List Token
deriving DecidableEq, Repr

namespace Slice

/-- The tokens at the head of a list that start on a line. -/
def onLine (line : Int) (tokens : List Token) : List Token :=
  tokens.takeWhile fun token => token.line = line

/-- What is left of a list after the tokens at its head that start on a line. -/
def afterLine (line : Int) (tokens : List Token) : List Token :=
  tokens.dropWhile fun token => token.line = line

/-- The lesser of the lines that two lists start with; none when both have ended. -/
def leastLine : List Token → List Token → Option Int
  | [], [] => none
  | a :: _, [] => some a.line
  | [], b :: _ => some b.line
  | a :: _, b :: _ => some (min a.line b.line)

/-- No list grows by losing its head. -/
theorem length_afterLine_le (line : Int) (tokens : List Token)
    : (afterLine line tokens).length ≤ tokens.length :=
  (List.dropWhile_sublist _).length_le

/-- A list that starts with a token on the line loses it. -/
theorem length_afterLine_lt {line : Int} {token : Token} (rest : List Token)
    (h : token.line = line)
    : (afterLine line (token :: rest)).length < (token :: rest).length := by
  have := length_afterLine_le line rest
  simp only [afterLine, List.dropWhile_cons, h, decide_true, if_true, List.length_cons] at *
  omega

/-- Examining the least line consumes a token, since one of the lists starts with it. -/
theorem length_afterLine_leastLine {next previous : List Token} {line : Int}
    (h : leastLine next previous = some line)
    : (afterLine line next).length + (afterLine line previous).length
      < next.length + previous.length := by
  have hn := length_afterLine_le line next
  have hp := length_afterLine_le line previous
  match next, previous, h with
  | a :: as, [], h =>
      have := length_afterLine_lt as (Option.some.inj h)
      omega
  | [], b :: bs, h =>
      have := length_afterLine_lt bs (Option.some.inj h)
      omega
  | a :: as, b :: bs, h =>
      have least : min a.line b.line = line := Option.some.inj h
      by_cases le : a.line ≤ b.line
      · have := length_afterLine_lt as (show a.line = line by omega)
        omega
      · have := length_afterLine_lt bs (show b.line = line by omega)
        omega

/-- The slices of the lines that still have a token, least line first. -/
def remaining (next previous : List Token) : List Slice :=
  match _least : leastLine next previous with
  | none => []
  | some line =>
      ⟨line, onLine line next, onLine line previous⟩
        :: remaining (afterLine line next) (afterLine line previous)
termination_by next.length + previous.length
decreasing_by exact length_afterLine_leastLine _least

/-- Every slice that is examined, line 0 first. -/
def all (next previous : List Token) : List Slice :=
  if next.isEmpty && previous.isEmpty then []
  else
    ⟨0, onLine 0 next, onLine 0 previous⟩
      :: remaining (afterLine 0 next) (afterLine 0 previous)

/-- The line of a slice as it is now, if its two sides differ. -/
def changed? (slice : Slice) : Option Line :=
  if slice.next = slice.previous then none else some ⟨slice.line, slice.next⟩

end Slice

/-- One of the two lists that are compared. -/
inductive Side where
  | next
  | previous
deriving DecidableEq, Repr

/-- A list that is compared holds a token that stands before its predecessor. -/
structure Unsorted where
  side : Side
  token : Range
  predecessor : Range
deriving DecidableEq, Repr

namespace Unsorted

/-- How the fault is worded. -/
def message (fault : Unsorted) : String :=
  let side := match fault.side with
    | .next => "next"
    | .previous => "previous"
  "diffHighlightings expects tokens in canonical order: " ++ side ++ " token at "
    ++ fault.token.text ++ " follows " ++ fault.predecessor.text

/-- The fault of a list that is not sorted. -/
def find? (side : Side) (tokens : List Token) : Option Unsorted :=
  match Token.firstUnsorted tokens with
  | none => none
  | some index =>
      match tokens[index]?, tokens[index - 1]? with
      | some token, some predecessor => some ⟨side, token.range, predecessor.range⟩
      | _, _ => none

end Unsorted

namespace Line

/-- The lines whose tokens differ between two sorted lists, each with all the tokens that it has in
`next`; a line that lost its tokens has none.
-/
def changes (next previous : List Token) : Except Unsorted (List Line) :=
  match Unsorted.find? .next next, Unsorted.find? .previous previous with
  | some fault, _ => .error fault
  | none, some fault => .error fault
  | none, none => .ok ((Slice.all next previous).filterMap Slice.changed?)

end Line

end Highlighter
