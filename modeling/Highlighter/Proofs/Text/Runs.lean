import Highlighter.Proofs.Text.Points

/-! Runs of code points. A run is found from its start on, code point by code point, so it ends at
one place, and it passes through every index on its way that does not cut a surrogate pair.
-/

namespace Highlighter.Text

variable {ofClass : Char → Bool} {units : List Nat} {start middle stop other : Nat}

theorem pointWidth_pos (units : List Nat) (index : Nat) : 0 < pointWidth units index := by
  unfold pointWidth
  split <;> omega

/-- What is behind an index is behind its code point, unless it cuts the pair there. -/
theorem add_pointWidth_le (after : start < middle) (whole : splitsPair units middle = false)
    : start + pointWidth units start ≤ middle := by
  by_cases opens : opensPair units start = true
  · rcases Nat.eq_or_lt_of_le after with rfl | beyond
    · rw [splitsPair, opens] at whole
      contradiction
    · rwa [pointWidth, if_pos opens]
  · rwa [pointWidth, if_neg opens]

/-- The second half of a pair stands behind the unit that opens it. -/
theorem exists_of_opensPair {index : Nat} (opens : opensPair units index = true)
    : ∃ low, units[index + 1]? = some low ∧ isLowSurrogate low = true := by
  obtain ⟨_, isLow⟩ := Bool.and_eq_true_iff.mp opens
  cases next : units[index + 1]? with
  | none =>
      rw [next] at isLow
      contradiction
  | some low =>
      rw [next] at isLow
      exact ⟨low, rfl, isLow⟩

/-- No pair is cut behind a code point. -/
theorem splitsPair_add_pointWidth (units : List Nat) (index : Nat)
    : splitsPair units (index + pointWidth units index) = false := by
  by_cases opens : opensPair units index = true
  · obtain ⟨low, found, isLow⟩ := exists_of_opensPair opens
    rw [pointWidth, if_pos opens, splitsPair, opensPair, found, Option.any_some,
      isHighSurrogate_of_isLowSurrogate isLow, Bool.false_and]
  · rw [pointWidth, if_neg opens, splitsPair]
    simpa using opens

/-- A code point of a text is inside it with all of its units. -/
theorem add_pointWidth_le_length {index : Nat} (inside : index < units.length)
    : index + pointWidth units index ≤ units.length := by
  by_cases opens : opensPair units index = true
  · obtain ⟨low, found, _⟩ := exists_of_opensPair opens
    rw [pointWidth, if_pos opens]
    exact (List.getElem?_eq_some_iff.mp found).1
  · rwa [pointWidth, if_neg opens]

namespace Run

theorem le (run : Run ofClass units start stop) : start ≤ stop := by
  induction run with
  | stop => exact Nat.le_refl _
  | next _ _ ih => exact Nat.le_trans (Nat.le_add_right _ _) ih

/-- A run that has any code points starts with one of its class. -/
theorem starts (run : Run ofClass units start stop) (any : start < stop)
    : PointIn ofClass units start := by
  cases run with
  | stop => exact absurd any (Nat.lt_irrefl _)
  | next member _ => exact member

theorem trans (run : Run ofClass units start middle) (onward : Run ofClass units middle stop)
    : Run ofClass units start stop := by
  induction run with
  | stop => exact onward
  | next member _ ih => exact .next member (ih onward)

/-- A run from inside a text stays inside it. -/
theorem le_length (run : Run ofClass units start stop) (inside : start ≤ units.length)
    : stop ≤ units.length := by
  induction run with
  | stop => exact inside
  | next member _ ih =>
      have before := Nat.lt_of_not_le fun past => not_pointIn_of_length_le past member
      exact ih (add_pointWidth_le_length before)

/-- No pair is cut at the end of a run that has any code points. -/
theorem whole (run : Run ofClass units start stop) (any : start < stop)
    : splitsPair units stop = false := by
  induction run with
  | stop => exact absurd any (Nat.lt_irrefl _)
  | next _ rest ih =>
      rcases Nat.eq_or_lt_of_le rest.le with rfl | more
      · exact splitsPair_add_pointWidth units _
      · exact ih more

/-- A run that ends before no character of its class is as long as any other. -/
theorem le_of_ended (run : Run ofClass units start stop) (ended : ¬ PointIn ofClass units stop)
    (another : Run ofClass units start other)
    : other ≤ stop := by
  induction run with
  | stop =>
      cases another with
      | stop => exact Nat.le_refl _
      | next member _ => exact absurd member ended
  | next member rest ih =>
      cases another with
      | stop => exact (Run.next member rest).le
      | next _ onward => exact ih ended onward

/-- A run passes through what is between its ends, by induction over its code points. -/
theorem through (run : Run ofClass units start stop) (after : start ≤ middle)
    (before : middle ≤ stop) (whole : splitsPair units middle = false)
    : Run ofClass units start middle ∧ Run ofClass units middle stop := by
  induction run with
  | stop =>
      obtain rfl := Nat.le_antisymm after before
      exact ⟨.stop, .stop⟩
  | next member rest ih =>
      rcases Nat.eq_or_lt_of_le after with rfl | beyond
      · exact ⟨.stop, .next member rest⟩
      · obtain ⟨first, second⟩ := ih (add_pointWidth_le beyond whole) before
        exact ⟨.next member first, second⟩

end Run

-----------------------------------------------------------------------------------------
-- Runs of characters
-----------------------------------------------------------------------------------------

section Characters

variable (front rest : List Char)

/-- Characters of a class are a run as long as they go on, by induction over them. -/
theorem run_takeWhile
    : Run ofClass ((front ++ rest).flatMap Text.units) (length16 front)
        (length16 front + length16 (rest.takeWhile ofClass)) := by
  induction rest generalizing front with
  | nil => exact .stop
  | cons c rest ih =>
      by_cases member : ofClass c = true
      · have later := ih (front ++ [c])
        rw [List.append_assoc, List.singleton_append, length16_append] at later
        rw [List.takeWhile_cons_of_pos member, length16, ← Nat.add_assoc]
        refine .next ((pointIn_flatMap_units front rest).mpr member) ?_
        rwa [pointWidth_flatMap_units]
      · rw [List.takeWhile_cons_of_neg member]
        exact .stop

/-- Where characters of a class do not go on any longer, none of them stands. -/
theorem not_pointIn_takeWhile
    : ¬ PointIn ofClass ((front ++ rest).flatMap Text.units)
        (length16 front + length16 (rest.takeWhile ofClass)) := by
  induction rest generalizing front with
  | nil =>
      rw [List.append_nil]
      exact not_pointIn_of_length_le (Nat.le_of_eq (length_flatMap_units front))
  | cons c rest ih =>
      by_cases member : ofClass c = true
      · have later := ih (front ++ [c])
        rw [List.append_assoc, List.singleton_append, length16_append] at later
        rwa [List.takeWhile_cons_of_pos member, length16, ← Nat.add_assoc]
      · rw [List.takeWhile_cons_of_neg member]
        exact (not_congr (pointIn_flatMap_units front rest)).mpr member

end Characters

end Highlighter.Text
