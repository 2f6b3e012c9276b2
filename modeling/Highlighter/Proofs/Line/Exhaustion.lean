import Highlighter.Line.Comparison
import Highlighter.Proofs.Line.Patching
import Mathlib.Data.List.TakeWhile

/-! Comparisons end. After line 0 every examined line is one that a token which is left starts on,
so a token is taken each time, and a comparison is over when both lists have been taken apart. What
is examined are the slices of the two lists.
-/

namespace Highlighter

namespace Comparison

-----------------------------------------------------------------------------------------
-- One line
-----------------------------------------------------------------------------------------

/-- The line is one that a token which is left starts on, and some token is taken. -/
structure Progresses (comparison : Comparison) : Prop where
  starts : ∃ side, ∃ token ∈ comparison.left side, comparison.line = token.line
  takes : ∃ side, comparison.taken side ≠ []

/-- A slice has the line and what is taken from both sides. -/
structure Takes (comparison : Comparison) (slice : Slice) : Prop where
  line : comparison.line = slice.line
  next : comparison.taken .next = slice.next
  previous : comparison.taken .previous = slice.previous

/-- On a line that is a number a side loses what a slice has of it. -/
theorem taken_of_line {comparison : Comparison} {line : Int} (here : comparison.line = line)
    (side : Side)
    : comparison.taken side = Slice.onLine line (comparison.left side) := by
  simp only [taken, here, onLine, Slice.onLine, WithTop.coe_inj]

theorem afterLine_coe (line : Int) (tokens : List Token)
    : afterLine line tokens = Slice.afterLine line tokens := by
  simp only [afterLine, Slice.afterLine, WithTop.coe_inj]

/-- A line is taken off a list and nothing is lost. -/
theorem onLine_append_afterLine (line : WithTop Int) (tokens : List Token)
    : onLine line tokens ++ afterLine line tokens = tokens :=
  List.takeWhile_append_dropWhile

/-- Two lists that have not both ended go on with their least line, by cases. -/
theorem line_ahead {next previous : List Token} {line : Int}
    (least : Slice.leastLine next previous = some line)
    : (ahead next previous).line = line := by
  match next, previous, least with
  | a :: _, [], least =>
      rw [← Option.some.inj least]
      exact min_eq_left le_top
  | [], b :: _, least =>
      rw [← Option.some.inj least]
      exact min_eq_right le_top
  | a :: _, b :: _, least =>
      rw [← Option.some.inj least]
      exact (WithTop.coe_min a.line b.line).symm

/-- A line that tokens are taken from is the one that they start on. -/
theorem Progresses.of_takes {comparison : Comparison} {side : Side}
    (takes : comparison.taken side ≠ [])
    : comparison.Progresses := by
  obtain ⟨token, taken⟩ := List.exists_mem_of_ne_nil _ takes
  have left : token ∈ comparison.left side := (List.takeWhile_sublist _).subset taken
  have same : (token.line : WithTop Int) = comparison.line := by
    simpa using List.mem_takeWhile_imp taken
  exact ⟨⟨side, token, left, same.symm⟩, side, takes⟩

/-- The lesser line that two lists go on with takes a token from one of them: otherwise neither
would be shorter after it.
-/
theorem progresses_ahead {next previous : List Token}
    (unfinished : ¬ (next = [] ∧ previous = []))
    : (ahead next previous).Progresses := by
  cases least : Slice.leastLine next previous with
  | none => exact absurd (Slice.nil_of_leastLine_none least) unfinished
  | some line =>
      have shorter := Slice.length_afterLine_leastLine least
      -- What nothing is taken from is as long after its line as before.
      have kept {side : Side} (nothing : (ahead next previous).taken side = [])
          : Slice.afterLine line ((ahead next previous).left side)
            = (ahead next previous).left side := by
        have whole := onLine_append_afterLine line ((ahead next previous).left side)
        rwa [← line_ahead least, ← taken, nothing, line_ahead least, afterLine_coe] at whole
      by_cases new : (ahead next previous).taken .next = []
      · by_cases old : (ahead next previous).taken .previous = []
        · rw [show Slice.afterLine line next = next from kept new,
            show Slice.afterLine line previous = previous from kept old] at shorter
          exact absurd shorter (Nat.lt_irrefl _)
        · exact .of_takes old
      · exact .of_takes new

/-- Nothing is examined exactly if both lists have ended. -/
theorem step?_eq_none {comparison : Comparison}
    : comparison.step? = none ↔ comparison.next = [] ∧ comparison.previous = [] := by
  simp [step?]

/-- A line is examined if a list has not ended, and what is left of both is ahead then. -/
theorem step?_eq_some {comparison after : Comparison}
    : comparison.step? = some after
      ↔ ¬ (comparison.next = [] ∧ comparison.previous = [])
        ∧ ahead (afterLine comparison.line comparison.next)
            (afterLine comparison.line comparison.previous) = after := by
  simp [step?]

/-- A side loses what is taken from it. -/
theorem taken_append_left {comparison after : Comparison} (step : comparison.step? = some after)
    (side : Side)
    : comparison.taken side ++ after.left side = comparison.left side := by
  obtain ⟨_, rfl⟩ := step?_eq_some.mp step
  cases side <;> exact onLine_append_afterLine _ _

-----------------------------------------------------------------------------------------
-- All lines
-----------------------------------------------------------------------------------------

variable {comparison last other : Comparison} {examined others : List Comparison}

/-- A comparison goes only one way, each step being the only one. -/
theorem Runs.unique (runs : Runs comparison examined last) (again : Runs comparison others other)
    : others = examined ∧ other = last := by
  induction runs generalizing others other with
  | ended stop =>
      cases again with
      | ended _ => exact ⟨rfl, rfl⟩
      | further step _ => simp [stop] at step
  | further step _ ih =>
      cases again with
      | ended stop => simp [stop] at step
      | further again rest =>
          obtain rfl := Option.some.inj (step.symm.trans again)
          obtain ⟨rfl, rfl⟩ := ih rest
          exact ⟨rfl, rfl⟩

/-- A comparison is over when both lists have ended, by induction over its lines. -/
theorem Runs.left_eq_nil (runs : Runs comparison examined last) (side : Side)
    : last.left side = [] := by
  induction runs with
  | ended stop =>
      obtain ⟨noneNew, noneOld⟩ := step?_eq_none.mp stop
      cases side
      · exact noneNew
      · exact noneOld
  | further _ _ ih => exact ih

/-- All tokens of a side are taken in their turn, by induction over the lines. -/
theorem Runs.flatMap_taken (runs : Runs comparison examined last) (side : Side)
    : examined.flatMap (taken side) = comparison.left side := by
  have whole : examined.flatMap (taken side) ++ last.left side = comparison.left side := by
    induction runs with
    | ended _ => rfl
    | further step _ ih => rw [List.flatMap_cons, List.append_assoc, ih, taken_append_left step]
  rwa [runs.left_eq_nil, List.append_nil] at whole

/-- From the least line on every examined line takes a token, by induction over the lines. -/
theorem Runs.progresses {next previous : List Token}
    (runs : Runs (ahead next previous) examined last)
    : ∀ each ∈ examined, each.Progresses := by
  generalize begun : ahead next previous = comparison at runs
  induction runs generalizing next previous with
  | ended _ => simp
  | further step _ ih =>
      obtain ⟨unfinished, following⟩ := step?_eq_some.mp step
      subst begun
      exact List.forall_mem_cons.mpr ⟨progresses_ahead unfinished, ih following⟩

/-- Whatever line comes first, those behind it are least lines and take tokens. -/
theorem Runs.progresses_tail (runs : Runs comparison examined last)
    : ∀ each ∈ examined.tail, each.Progresses := by
  cases runs with
  | ended _ => simp
  | further step rest =>
      obtain ⟨_, rfl⟩ := step?_eq_some.mp step
      exact rest.progresses

/-- No more lines are examined than tokens taken, if each of them takes one. -/
theorem length_le_of_progresses (progress : ∀ each ∈ examined, each.Progresses)
    : examined.length
      ≤ (examined.flatMap (taken .next)).length + (examined.flatMap (taken .previous)).length := by
  induction examined with
  | nil => exact Nat.zero_le _
  | cons first rest ih =>
      obtain ⟨here, later⟩ := List.forall_mem_cons.mp progress
      obtain ⟨side, takes⟩ := here.takes
      have positive := List.length_pos_iff.mpr takes
      have others := ih later
      simp only [List.flatMap_cons, List.length_append, List.length_cons]
      cases side <;> omega

/-- The first line may take no token, and those behind it take all of them at most. -/
theorem Runs.length_le (runs : Runs comparison examined last)
    : examined.length
      ≤ 1 + (comparison.left .next).length + (comparison.left .previous).length := by
  have bound := length_le_of_progresses runs.progresses_tail
  rw [← runs.flatMap_taken, ← runs.flatMap_taken]
  cases examined with
  | nil => exact Nat.zero_le _
  | cons first rest =>
      simp only [List.flatMap_cons, List.length_append, List.length_cons, List.tail_cons] at *
      omega

/-- A line that is examined puts its slice before those of what is left after it. -/
theorem exists_runs_cons {line : Int} (here : comparison.line = line)
    (unfinished : ¬ (comparison.next = [] ∧ comparison.previous = []))
    {slices : List Slice}
    (rest : ∃ examined last,
      Runs (ahead (Slice.afterLine line comparison.next)
        (Slice.afterLine line comparison.previous)) examined last
      ∧ List.Forall₂ Takes examined slices)
    : ∃ examined last,
        Runs comparison examined last
        ∧ List.Forall₂ Takes examined
          (⟨line, Slice.onLine line comparison.next, Slice.onLine line comparison.previous⟩
            :: slices) := by
  obtain ⟨examined, last, runs, sliced⟩ := rest
  rw [← afterLine_coe, ← afterLine_coe, ← here] at runs
  have sliceHere : Takes comparison
      ⟨line, Slice.onLine line comparison.next, Slice.onLine line comparison.previous⟩ :=
    ⟨here, taken_of_line here .next, taken_of_line here .previous⟩
  exact ⟨_, _, .further (step?_eq_some.mpr ⟨unfinished, rfl⟩) runs, .cons sliceHere sliced⟩

/-- From the least line on a comparison runs through the slices that remain, by induction over them.
-/
theorem exists_runs_ahead (next previous : List Token)
    : ∃ examined last,
        Runs (ahead next previous) examined last
        ∧ List.Forall₂ Takes examined (Slice.remaining next previous) := by
  induction next, previous using Slice.remaining.induct with
  | case1 next previous ended =>
      rw [Slice.remaining_of_none ended]
      exact ⟨[], _, .ended (step?_eq_none.mpr (Slice.nil_of_leastLine_none ended)), .nil⟩
  | case2 next previous line least ih =>
      rw [Slice.remaining_of_some least]
      refine exists_runs_cons (line_ahead least) (fun finished => ?_) ih
      rw [show next = [] from finished.1, show previous = [] from finished.2] at least
      contradiction

/-- A comparison runs through all slices, line 0 first. -/
theorem exists_runs (next previous : List Token)
    : ∃ examined last,
        Runs (start next previous) examined last
        ∧ List.Forall₂ Takes examined (Slice.all next previous) := by
  rw [Slice.all]
  split
  next ended =>
    simp only [Bool.and_eq_true, List.isEmpty_iff] at ended
    exact ⟨[], _, .ended (step?_eq_none.mpr ended), .nil⟩
  next unfinished =>
    simp only [Bool.and_eq_true, List.isEmpty_iff] at unfinished
    exact exists_runs_cons rfl unfinished (exists_runs_ahead _ _)

end Comparison

/-- Two sorted lists of tokens on any lines are compared in one run. Every line that is examined
after the first is one that a token which is left starts on, and a token is taken then; so no more
lines are examined than one and one for each token. The run is over when both lists have ended, with
each of their tokens taken once; what it examined are the slices that the changed lines come from.
-/
theorem Line.changes_exhausts {next previous : List Token}
    (sortedNext : Token.Sorted next) (sortedPrevious : Token.Sorted previous)
    : ∃ examined last,
        (∀ others other,
          Comparison.Runs (.start next previous) others other
          ↔ others = examined ∧ other = last)
        ∧ (∀ each ∈ examined.tail, each.Progresses)
        ∧ examined.length ≤ 1 + next.length + previous.length
        ∧ (last.next = [] ∧ last.previous = [])
        ∧ examined.flatMap (Comparison.taken .next) = next
        ∧ examined.flatMap (Comparison.taken .previous) = previous
        ∧ List.Forall₂ Comparison.Takes examined (Slice.all next previous)
        ∧ changes next previous = .ok ((Slice.all next previous).filterMap Slice.changed?) := by
  obtain ⟨examined, last, runs, sliced⟩ := Comparison.exists_runs next previous
  refine ⟨examined, last, fun others other => ⟨runs.unique, ?_⟩, runs.progresses_tail,
    runs.length_le, ⟨runs.left_eq_nil .next, runs.left_eq_nil .previous⟩,
    runs.flatMap_taken .next, runs.flatMap_taken .previous, sliced,
    changes_of_sorted sortedNext sortedPrevious⟩
  rintro ⟨rfl, rfl⟩
  exact runs

/-- Tokens on the lines -1 and 0. -/
def Token.early : List Token :=
  [.ofKind .function (.between (-1) 0 (-1) 4), .ofKind .parameter (.between 0 0 0 3)]

/-- A token on line 4. -/
def Token.late : List Token :=
  [.ofKind .macroName (.between 4 0 4 2)]

/-- No token is taken from line 0 before line -1 has been examined: line 0 is examined twice, and as
many lines are examined as can be.
-/
theorem Line.changes_exhausts_early
    : Token.Sorted Token.early
      ∧ Token.Sorted Token.late
      ∧ ∃ examined last,
          Comparison.Runs (.start Token.early Token.late) examined last
          ∧ examined.map Comparison.line = ([0, -1, 0, 4] : List Int).map WithTop.some
          ∧ (∀ each ∈ examined.tail, each.Progresses)
          ∧ examined.length = 1 + Token.early.length + Token.late.length
          ∧ (last.next = [] ∧ last.previous = [])
          ∧ examined.flatMap (Comparison.taken .next) = Token.early
          ∧ examined.flatMap (Comparison.taken .previous) = Token.late
          ∧ List.Forall₂ Comparison.Takes examined (Slice.all Token.early Token.late) := by
  have sortedEarly : Token.Sorted Token.early := by
    unfold Token.Sorted
    decide
  have sortedLate : Token.Sorted Token.late := by
    unfold Token.Sorted
    decide
  have runs
      : Comparison.Runs (.start Token.early Token.late)
          [⟨(0 : Int), Token.early, Token.late⟩, ⟨(-1 : Int), Token.early, Token.late⟩,
            ⟨(0 : Int), Token.early.drop 1, Token.late⟩, ⟨(4 : Int), [], Token.late⟩]
          ⟨⊤, [], []⟩ :=
    .further rfl (.further rfl (.further rfl (.further rfl (.ended rfl))))
  obtain ⟨examined, last, only, progress, _, finished, new, old, sliced, _⟩ :=
    Line.changes_exhausts sortedEarly sortedLate
  obtain ⟨rfl, rfl⟩ := (only _ _).mp runs
  exact ⟨sortedEarly, sortedLate, _, _, runs, rfl, progress, rfl, finished, new, old, sliced⟩

end Highlighter
