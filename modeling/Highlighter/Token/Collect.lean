import Highlighter.Token

/-! From raw tokens to a canonical set: sorted, each token once, and no range with two kinds. A
range that was given more than one kind, usually a name under a macro, is not highlighted at all.
-/

namespace Highlighter.Token

/-- The tokens whose range no neighbour shares. In a sorted list tokens of one range are
neighbours.
-/
def dropConflicts (tokens : List Token) : List Token :=
  (tokens.splitBy fun a b => a.range == b.range).flatMap fun run =>
    if run.length = 1 then run else []

/-- The canonical set of raw tokens and macro ranges. -/
def collect (raw : List Token) (macros : List Range) : List Token :=
  dropConflicts (sort (raw ++ macros.map (ofKind .macroName))).eraseReps

end Highlighter.Token
