import Highlighter.Proofs.Number.Rounding
import Highlighter.Token

/-! The canonical order of tokens. It is a total order in which tokens ascend by line, and the sign
of the difference of two tokens tells how they compare. A list that is sorted in it has no first
unsorted token.
-/

namespace Highlighter

-----------------------------------------------------------------------------------------
-- Ranges
-----------------------------------------------------------------------------------------

/-- Ranges are compared by four coordinates one after the other. -/
instance : Std.TransCmp Range.compare :=
  inferInstanceAs (Std.TransCmp
    (compareLex
      (compareLex (compareOn fun range : Range => range.start.line)
        (compareOn fun range : Range => range.start.character))
      (compareLex (compareOn fun range : Range => range.stop.line)
        (compareOn fun range : Range => range.stop.character))))

/-- Only a range itself is neither before nor after it, coordinate by coordinate. -/
theorem Range.compare_eq_iff {a b : Range} : a.compare b = .eq ↔ a = b := by
  simp only [Range.compare, Position.compare, Ordering.then_eq_eq, Std.compare_eq_iff_eq]
  constructor
  · rintro ⟨⟨startLines, starts⟩, stopLines, stops⟩
    obtain ⟨⟨_, _⟩, _, _⟩ := a
    obtain ⟨⟨_, _⟩, _, _⟩ := b
    simp_all
  · rintro rfl
    exact ⟨⟨rfl, rfl⟩, rfl, rfl⟩

/-- The sign of the difference of two ranges compares them: it is the difference of the first
coordinate that decides, and rounding keeps its sign.
-/
theorem Range.compare_difference (a b : Range)
    : Ord.compare (a.difference b) 0 = a.compare b := by
  have undecided {x y : Int} (same : ¬ x ≠ y) : Ord.compare x y = .eq :=
    Std.compare_eq_iff_eq.mpr (Classical.not_not.mp same)
  have decided {x y : Int} (differ : x ≠ y) (later : Ordering)
      : (Ord.compare x y).then later = Ord.compare x y := by
    cases compared : Ord.compare x y with
    | eq => exact absurd (Std.compare_eq_iff_eq.mp compared) differ
    | lt | gt => rfl
  rw [Range.compare, Position.compare, Position.compare, Range.difference]
  split
  next differ => rw [compare_nearestInt_sub, Ordering.then_assoc, decided differ]
  next startLines =>
    rw [undecided startLines]
    split
    next differ => rw [compare_nearestInt_sub, Ordering.eq_then, decided differ]
    next starts =>
      rw [undecided starts]
      split
      next differ => rw [compare_nearestInt_sub, Ordering.eq_then, Ordering.eq_then, decided differ]
      next stopLines =>
        rw [undecided stopLines, compare_nearestInt_sub]
        rfl

/-- No range is before itself. -/
theorem Range.ne_of_lt {a b : Range} (less : a.compare b = .lt) : a ≠ b := by
  rintro rfl
  exact Std.OrientedCmp.not_lt_of_lt less less

-----------------------------------------------------------------------------------------
-- Tokens
-----------------------------------------------------------------------------------------

namespace Token

/-- The order compares five coordinates one after the other: the two positions of the range, each
by line and column, and the kind.
-/
instance : Std.TransCmp compare :=
  inferInstanceAs (Std.TransCmp
    (compareLex
      (compareLex
        (compareLex (compareOn fun token : Token => token.range.start.line)
          (compareOn fun token : Token => token.range.start.character))
        (compareLex (compareOn fun token : Token => token.range.stop.line)
          (compareOn fun token : Token => token.range.stop.character)))
      (compareOn Token.kind)))

/-- Only a token itself is neither before nor after it, by its range and its kind. -/
theorem compare_eq_iff {a b : Token} : a.compare b = .eq ↔ a = b := by
  simp only [Token.compare, Ordering.then_eq_eq, Range.compare_eq_iff, Std.compare_eq_iff_eq]
  constructor
  · rintro ⟨ranges, kinds⟩
    cases a
    cases b
    simp_all
  · rintro rfl
    exact ⟨rfl, rfl⟩

/-- The sign of the difference of two tokens compares them. -/
theorem compare_difference (a b : Token) : Ord.compare (a.difference b) 0 = a.compare b := by
  rw [Token.compare, Token.difference]
  split
  next differ =>
    rw [Range.compare_difference]
    cases compared : a.range.compare b.range with
    | lt | gt => rfl
    | eq =>
        rw [← Range.compare_difference] at compared
        exact absurd (Std.compare_eq_iff_eq.mp compared) differ
  next same =>
    have ranges : a.range.compare b.range = .eq := by
      rw [← Range.compare_difference, Classical.not_not.mp same]
      rfl
    rw [ranges, compare_nearestInt_sub]
    rfl

/-- What stands before a token stands before those that it stands before. -/
theorem atMost_trans (a b c : Token) (first : a.atMost b = true) (second : b.atMost c = true)
    : a.atMost c = true :=
  Std.TransCmp.isLE_trans first second

/-- Of two tokens one stands before the other, since their comparison can be turned around. -/
theorem atMost_total (a b : Token) : (a.atMost b || b.atMost a) = true := by
  have turned : a.compare b = (b.compare a).swap := Std.OrientedCmp.eq_swap
  rw [atMost, atMost, turned]
  cases b.compare a <;> rfl

/-- Tokens ascend by line, which is the first coordinate that is compared. -/
theorem line_le_of_atMost {a b : Token} (before : a.atMost b = true) : a.line ≤ b.line := by
  have ranges := Ordering.isLE_left_of_isLE_then before
  have starts := Ordering.isLE_left_of_isLE_then ranges
  have lines := Ordering.isLE_left_of_isLE_then starts
  exact Std.isLE_compare.mp lines

-----------------------------------------------------------------------------------------
-- Sorted lists
-----------------------------------------------------------------------------------------

/-- A sorted list ascends by line. -/
theorem Sorted.lines {tokens : List Token} (sorted : Sorted tokens)
    : tokens.Pairwise fun a b => a.line ≤ b.line :=
  sorted.imp line_le_of_atMost

/-- Every token of a sorted list stands after its predecessor, by induction over the list. -/
theorem Sorted.firstUnsortedAfter {last : Token} {tokens : List Token}
    (sorted : Sorted (last :: tokens)) (index : Nat)
    : firstUnsortedAfter last index tokens = none := by
  induction tokens generalizing last index with
  | nil => rfl
  | cons token rest ih =>
      obtain ⟨before, later⟩ := List.pairwise_cons.mp sorted
      rw [Token.firstUnsortedAfter, if_pos (before token List.mem_cons_self)]
      exact ih later (index + 1)

/-- A sorted list has no token that stands before its predecessor. -/
theorem Sorted.firstUnsorted {tokens : List Token} (sorted : Sorted tokens)
    : firstUnsorted tokens = none := by
  cases tokens with
  | nil => rfl
  | cons token rest => exact sorted.firstUnsortedAfter 1

/-- Sorting sorts, the order being transitive and total. -/
theorem sorted_sort (tokens : List Token) : Sorted (sort tokens) :=
  List.pairwise_mergeSort atMost_trans atMost_total tokens

/-- Sorting by the sign of differences sorts in canonical order. -/
theorem mergeSort_difference (tokens : List Token)
    : tokens.mergeSort (fun a b => a.difference b ≤ 0) = sort tokens := by
  have signs : (fun a b : Token => decide (a.difference b ≤ 0)) = atMost := by
    funext a b
    rw [atMost, ← compare_difference, Bool.eq_iff_iff, decide_eq_true_iff, Std.isLE_compare]
  rw [signs, sort]

-----------------------------------------------------------------------------------------
-- Strict lists
-----------------------------------------------------------------------------------------

/-- Every token stands after its predecessors and differs from them. -/
def Strict (tokens : List Token) : Prop :=
  tokens.Pairwise fun a b => a.compare b = .lt

theorem ne_of_lt {a b : Token} (less : a.compare b = .lt) : a ≠ b := by
  rintro rfl
  exact Std.OrientedCmp.not_lt_of_lt less less

theorem lt_of_atMost_of_ne {a b : Token} (before : a.atMost b = true) (different : a ≠ b)
    : a.compare b = .lt := by
  cases compared : a.compare b with
  | lt => rfl
  | eq => exact absurd (compare_eq_iff.mp compared) different
  | gt => simp [atMost, compared] at before

/-- Of two tokens that differ, the first has the lesser range or both have the same. -/
theorem range_of_lt {a b : Token} (less : a.compare b = .lt)
    : a.range.compare b.range = .lt ∨ a.range = b.range := by
  rcases Ordering.then_eq_lt.mp less with ranges | ⟨same, _⟩
  · exact .inl ranges
  · exact .inr (Range.compare_eq_iff.mp same)

end Token

end Highlighter
