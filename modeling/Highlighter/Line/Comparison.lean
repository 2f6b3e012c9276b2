import Highlighter.Line.Change
import Mathlib.Order.WithBot

/-! Comparing two lists of tokens line by line. Line 0 is examined first, and then the lesser of the
lines that the two lists go on with, where a list that has ended goes on beyond every line. Nothing
else bounds the lines that are examined: a comparison is over when both lists have ended.
-/

namespace Highlighter

/-- A comparison in progress: the line to be examined and what is left of both lists. -/
structure Comparison where
  line : WithTop Int
  next : List Token
  previous : List Token

namespace Comparison

/-- Line 0 is examined first. -/
def start (next previous : List Token) : Comparison := ⟨(0 : Int), next, previous⟩

/-- The line that a list goes on with. -/
def lineAhead : List Token → WithTop Int
  | [] => ⊤
  | token :: _ => token.line

/-- The lesser line that two lists go on with is to be examined. -/
def ahead (next previous : List Token) : Comparison :=
  ⟨min (lineAhead next) (lineAhead previous), next, previous⟩

/-- The tokens at the head of a list that start on a line. -/
def onLine (line : WithTop Int) (tokens : List Token) : List Token :=
  tokens.takeWhile fun token => (token.line : WithTop Int) = line

/-- What is left of a list after the tokens at its head that start on a line. -/
def afterLine (line : WithTop Int) (tokens : List Token) : List Token :=
  tokens.dropWhile fun token => (token.line : WithTop Int) = line

/-- What is left of the list on a side. -/
def left (side : Side) (comparison : Comparison) : List Token :=
  match side with
  | .next => comparison.next
  | .previous => comparison.previous

/-- The tokens that are taken from a side when the line is examined. -/
def taken (side : Side) (comparison : Comparison) : List Token :=
  onLine comparison.line (comparison.left side)

/-- The line is taken off both lists, and then they go on with their lesser one; nothing is examined
if both have ended.
-/
def step? (comparison : Comparison) : Option Comparison :=
  if comparison.next.isEmpty && comparison.previous.isEmpty then none
  else
    some (ahead (afterLine comparison.line comparison.next)
      (afterLine comparison.line comparison.previous))

/-- A comparison examines one line after another and is over then. -/
inductive Runs : Comparison → List Comparison → Comparison → Prop
  | ended {comparison} (stop : comparison.step? = none) : Runs comparison [] comparison
  | further {comparison after examined last} (step : comparison.step? = some after)
    (rest : Runs after examined last)
    : Runs comparison (comparison :: examined) last

end Comparison

end Highlighter
