import Highlighter.Line.Change
import Mathlib.Data.List.Chain

/-! Tokens that ascend by line, cut into lines. The grouping of such a list has each of its lines
once, with all tokens of the line; and so have the slices of two such lists, which hold the tokens
of a line on both sides.
-/

namespace Highlighter

/-- The tokens that start on a line, wherever they stand. -/
def Token.on (line : Int) (tokens : List Token) : List Token :=
  tokens.filter fun token => token.line = line

/-- The lines of tokens ascend. -/
def Token.Ascending (tokens : List Token) : Prop :=
  tokens.Pairwise fun a b => a.line ≤ b.line

namespace Token

/-- A token is on its own line only, by the filter. -/
@[simp] theorem on_cons (line : Int) (token : Token) (rest : List Token)
    : on line (token :: rest)
      = if token.line = line then token :: on line rest else on line rest := by
  by_cases same : token.line = line <;> simp [on, same]

/-- No token is on a line that all tokens start off. -/
theorem on_eq_nil {line : Int} {tokens : List Token} (off : ∀ token ∈ tokens, token.line ≠ line)
    : on line tokens = [] := by
  refine List.filter_eq_nil_iff.mpr fun token member => ?_
  simpa using off token member

end Token

-----------------------------------------------------------------------------------------
-- The grouping of a list
-----------------------------------------------------------------------------------------

/-- Lines ascend and are those that tokens start on, each with all of its tokens. -/
structure Line.Groups (tokens : List Token) (lines : List Line) : Prop where
  ascending : lines.Pairwise fun a b => a.line < b.line
  whole : ∀ line ∈ lines, line.tokens = Token.on line.line tokens
  occupied : ∀ line ∈ lines, line.tokens ≠ []
  covered : ∀ token ∈ tokens, ∃ line ∈ lines, line.line = token.line

namespace Line

/-- A token before lines joins the first one or stands on a line before it. Witness: the first line
has a token, which the new one does not start after.
-/
theorem Groups.prepend {token : Token} {rest : List Token} {lines : List Line}
    (groups : Groups rest lines) (before : ∀ other ∈ rest, token.line ≤ other.line)
    : Groups (token :: rest) (prepend token lines) := by
  cases lines with
  | nil =>
      have nothing : rest = [] := by
        refine List.eq_nil_iff_forall_not_mem.mpr fun other member => ?_
        obtain ⟨line, present, _⟩ := groups.covered other member
        contradiction
      subst nothing
      constructor <;> simp [Line.prepend, Token.on]
  | cons first others =>
      obtain ⟨apart, ascending⟩ := List.pairwise_cons.mp groups.ascending
      have whole := List.forall_mem_cons.mp groups.whole
      have occupied := List.forall_mem_cons.mp groups.occupied
      have least : token.line ≤ first.line := by
        obtain ⟨other, member⟩ := List.exists_mem_of_ne_nil _ occupied.1
        rw [whole.1, Token.on, List.mem_filter] at member
        simpa [← of_decide_eq_true member.2] using before other member.1
      by_cases same : first.line = token.line
      · rw [Line.prepend, if_pos same]
        constructor
        case ascending => exact List.pairwise_cons.mpr ⟨apart, ascending⟩
        case whole =>
          refine List.forall_mem_cons.mpr ⟨?_, fun line present => ?_⟩
          · rw [Token.on_cons, if_pos same.symm, whole.1]
          · have later := apart line present
            rw [Token.on_cons, if_neg (by omega)]
            exact whole.2 line present
        case occupied =>
          exact List.forall_mem_cons.mpr ⟨List.cons_ne_nil _ _, occupied.2⟩
        case covered =>
          refine List.forall_mem_cons.mpr ⟨⟨_, List.mem_cons_self, same⟩, fun other member => ?_⟩
          obtain ⟨line, present, start⟩ := groups.covered other member
          rcases List.mem_cons.mp present with rfl | later
          · exact ⟨_, List.mem_cons_self, start⟩
          · exact ⟨line, List.mem_cons_of_mem _ later, start⟩
      · have beyond : ∀ line ∈ first :: others, token.line < line.line := by
          refine List.forall_mem_cons.mpr ⟨by omega, fun line present => ?_⟩
          have later := apart line present
          omega
        have alone : Token.on token.line rest = [] := by
          refine Token.on_eq_nil fun other member => ?_
          obtain ⟨line, present, start⟩ := groups.covered other member
          have later := beyond line present
          omega
        rw [Line.prepend, if_neg same]
        constructor
        case ascending => exact List.pairwise_cons.mpr ⟨beyond, groups.ascending⟩
        case whole =>
          refine List.forall_mem_cons.mpr ⟨?_, fun line present => ?_⟩
          · rw [Token.on_cons, if_pos rfl, alone]
          · have later := beyond line present
            rw [Token.on_cons, if_neg (by omega)]
            exact groups.whole line present
        case occupied =>
          exact List.forall_mem_cons.mpr ⟨List.cons_ne_nil _ _, groups.occupied⟩
        case covered =>
          refine List.forall_mem_cons.mpr ⟨⟨_, List.mem_cons_self, rfl⟩, fun other member => ?_⟩
          obtain ⟨line, present, start⟩ := groups.covered other member
          exact ⟨line, List.mem_cons_of_mem _ present, start⟩

/-- The grouping of tokens that ascend by line groups them, by induction over the tokens. -/
theorem group_groups {tokens : List Token} (ascending : Token.Ascending tokens)
    : Groups tokens (group tokens) := by
  induction tokens with
  | nil => constructor <;> simp [group]
  | cons token rest ih =>
      obtain ⟨before, later⟩ := List.pairwise_cons.mp ascending
      exact (ih later).prepend before

/-- Every token is on a line of a grouping, with all that start there. -/
theorem Groups.exists_mem {tokens : List Token} {lines : List Line} (groups : Groups tokens lines)
    {token : Token} (member : token ∈ tokens)
    : ∃ line ∈ lines, token ∈ line.tokens := by
  obtain ⟨line, present, same⟩ := groups.covered token member
  refine ⟨line, present, ?_⟩
  rw [groups.whole line present]
  exact List.mem_filter.mpr ⟨member, by simp [same]⟩

end Line

-----------------------------------------------------------------------------------------
-- The slices of two lists
-----------------------------------------------------------------------------------------

namespace Slice

/-- The tokens at the head of an ascending list are all that start on a line, if none starts before
it.
-/
theorem onLine_eq_on {line : Int} {tokens : List Token} (ascending : Token.Ascending tokens)
    (least : ∀ token ∈ tokens, line ≤ token.line)
    : onLine line tokens = Token.on line tokens := by
  induction tokens with
  | nil => rfl
  | cons token rest ih =>
      obtain ⟨before, later⟩ := List.pairwise_cons.mp ascending
      have kept := ih later fun other member => least other (List.mem_cons_of_mem token member)
      by_cases same : token.line = line
      · simpa [onLine, same] using kept
      · have beyond := least token List.mem_cons_self
        have nothing : Token.on line rest = [] :=
          Token.on_eq_nil fun other member => by
            have later := before other member
            omega
        simp [onLine, same, nothing]

/-- What is left after a line are the tokens that start on later lines, if none starts before it. -/
theorem afterLine_eq_filter {line : Int} {tokens : List Token}
    (ascending : Token.Ascending tokens) (least : ∀ token ∈ tokens, line ≤ token.line)
    : afterLine line tokens = tokens.filter fun token => line < token.line := by
  induction tokens with
  | nil => rfl
  | cons token rest ih =>
      obtain ⟨before, later⟩ := List.pairwise_cons.mp ascending
      have kept := ih later fun other member => least other (List.mem_cons_of_mem token member)
      by_cases same : token.line = line
      · simpa [afterLine, same] using kept
      · have beyond := least token List.mem_cons_self
        have all : rest.filter (fun token => line < token.line) = rest :=
          List.filter_eq_self.mpr fun other member => by
            have later := before other member
            simp only [decide_eq_true_eq]
            omega
        have strict : line < token.line := by omega
        simp [afterLine, same, strict, all]

/-- A later line has the same tokens on it when an earlier one is taken off. -/
theorem on_afterLine {line other : Int} {tokens : List Token}
    (ascending : Token.Ascending tokens) (least : ∀ token ∈ tokens, line ≤ token.line)
    (later : line < other)
    : Token.on other (afterLine line tokens) = Token.on other tokens := by
  rw [afterLine_eq_filter ascending least, Token.on, Token.on, List.filter_filter]
  refine List.filter_congr fun token _ => ?_
  by_cases same : token.line = other
  · simp [same, later]
  · simp [same]

/-- A list without its head still ascends. -/
theorem ascending_afterLine {tokens : List Token} (ascending : Token.Ascending tokens)
    (line : Int)
    : Token.Ascending (afterLine line tokens) :=
  ascending.sublist (List.dropWhile_sublist _)

/-- What is left of two lists after a line is what starts on later lines. -/
theorem mem_afterLine_append {next previous : List Token}
    (ascendingNext : Token.Ascending next) (ascendingPrevious : Token.Ascending previous)
    {line : Int} (least : ∀ token ∈ next ++ previous, line ≤ token.line) {token : Token}
    : token ∈ afterLine line next ++ afterLine line previous
      ↔ token ∈ next ++ previous ∧ line < token.line := by
  have leastNext := fun token member => least token (List.mem_append_left previous member)
  have leastPrevious := fun token member => least token (List.mem_append_right next member)
  rw [afterLine_eq_filter ascendingNext leastNext,
    afterLine_eq_filter ascendingPrevious leastPrevious, ← List.filter_append, List.mem_filter,
    decide_eq_true_iff]

/-- No token of two ascending lists starts before their least line, which one of them starts on. -/
theorem leastLine_spec {next previous : List Token} (ascendingNext : Token.Ascending next)
    (ascendingPrevious : Token.Ascending previous) {line : Int}
    (least : leastLine next previous = some line)
    : (∃ token ∈ next ++ previous, token.line = line)
      ∧ ∀ token ∈ next ++ previous, line ≤ token.line := by
  cases next with
  | nil =>
      cases previous with
      | nil => contradiction
      | cons b bs =>
          obtain ⟨later, _⟩ := List.pairwise_cons.mp ascendingPrevious
          rw [← Option.some.inj least]
          exact ⟨⟨b, List.mem_cons_self, rfl⟩, List.forall_mem_cons.mpr ⟨Int.le_refl _, later⟩⟩
  | cons a as =>
      obtain ⟨laterNext, _⟩ := List.pairwise_cons.mp ascendingNext
      cases previous with
      | nil =>
          rw [← Option.some.inj least, List.append_nil]
          exact ⟨⟨a, List.mem_cons_self, rfl⟩, List.forall_mem_cons.mpr ⟨Int.le_refl _, laterNext⟩⟩
      | cons b bs =>
          obtain ⟨laterPrevious, _⟩ := List.pairwise_cons.mp ascendingPrevious
          rw [← Option.some.inj least]
          refine ⟨?_, List.forall_mem_append.mpr ⟨?_, ?_⟩⟩
          · rcases Int.le_total a.line b.line with first | second
            · exact ⟨a, by simp, (Int.min_eq_left first).symm⟩
            · exact ⟨b, by simp, (Int.min_eq_right second).symm⟩
          · refine List.forall_mem_cons.mpr ⟨Int.min_le_left _ _, fun token member => ?_⟩
            exact Int.le_trans (Int.min_le_left _ _) (laterNext token member)
          · refine List.forall_mem_cons.mpr ⟨Int.min_le_right _ _, fun token member => ?_⟩
            exact Int.le_trans (Int.min_le_right _ _) (laterPrevious token member)

/-- Nothing remains of two lists that have ended. -/
theorem remaining_of_none {next previous : List Token} (ended : leastLine next previous = none)
    : remaining next previous = [] := by
  rw [remaining]
  split
  next => rfl
  next line least =>
    rw [ended] at least
    contradiction

/-- The slice of the least line comes first in what remains. -/
theorem remaining_of_some {next previous : List Token} {line : Int}
    (least : leastLine next previous = some line)
    : remaining next previous
      = ⟨line, onLine line next, onLine line previous⟩
        :: remaining (afterLine line next) (afterLine line previous) := by
  rw [remaining]
  split
  next ended =>
    rw [ended] at least
    contradiction
  next other found =>
    rw [least] at found
    rw [Option.some.inj found]

/-- Two lists without a least line are empty, by cases. -/
theorem nil_of_leastLine_none {next previous : List Token}
    (ended : leastLine next previous = none)
    : next = [] ∧ previous = [] := by
  cases next <;> cases previous <;> simp_all [leastLine]

/-- Slices ascend by line and hold what both lists have on their lines; every token starts on the
line of a slice.
-/
structure Cuts (next previous : List Token) (slices : List Slice) : Prop where
  ascending : slices.Pairwise fun a b => a.line < b.line
  onNext : ∀ slice ∈ slices, slice.next = Token.on slice.line next
  onPrevious : ∀ slice ∈ slices, slice.previous = Token.on slice.line previous
  covered : ∀ token ∈ next ++ previous, ∃ slice ∈ slices, slice.line = token.line

/-- A slice of a line that no token starts before goes before those of later lines. -/
theorem Cuts.cons {next previous : List Token} (ascendingNext : Token.Ascending next)
    (ascendingPrevious : Token.Ascending previous) {line : Int}
    (least : ∀ token ∈ next ++ previous, line ≤ token.line) {slices : List Slice}
    (cuts : Cuts (afterLine line next) (afterLine line previous) slices)
    (later : ∀ slice ∈ slices, line < slice.line)
    : Cuts next previous (⟨line, onLine line next, onLine line previous⟩ :: slices) := by
  have leastNext := fun token member => least token (List.mem_append_left previous member)
  have leastPrevious := fun token member => least token (List.mem_append_right next member)
  constructor
  case ascending => exact List.pairwise_cons.mpr ⟨later, cuts.ascending⟩
  case onNext =>
    refine List.forall_mem_cons.mpr ⟨onLine_eq_on ascendingNext leastNext, fun slice member => ?_⟩
    rw [cuts.onNext slice member]
    exact on_afterLine ascendingNext leastNext (later slice member)
  case onPrevious =>
    refine List.forall_mem_cons.mpr
      ⟨onLine_eq_on ascendingPrevious leastPrevious, fun slice member => ?_⟩
    rw [cuts.onPrevious slice member]
    exact on_afterLine ascendingPrevious leastPrevious (later slice member)
  case covered =>
    intro token member
    by_cases same : token.line = line
    · exact ⟨_, List.mem_cons_self, same.symm⟩
    · have beyond := least token member
      have left := (mem_afterLine_append ascendingNext ascendingPrevious least).mpr
        ⟨member, by omega⟩
      obtain ⟨slice, present, start⟩ := cuts.covered token left
      exact ⟨slice, List.mem_cons_of_mem _ present, start⟩

/-- The slices of what is left cut it, each on a line that a token starts on, by induction over the
slices.
-/
theorem cuts_remaining {next previous : List Token} (ascendingNext : Token.Ascending next)
    (ascendingPrevious : Token.Ascending previous)
    : Cuts next previous (remaining next previous)
      ∧ ∀ slice ∈ remaining next previous, ∃ token ∈ next ++ previous, token.line = slice.line := by
  induction next, previous using remaining.induct with
  | case1 next previous ended =>
      obtain ⟨rfl, rfl⟩ := nil_of_leastLine_none ended
      rw [remaining_of_none ended]
      refine ⟨?_, by simp⟩
      constructor <;> simp
  | case2 next previous line least ih =>
      obtain ⟨⟨first, member, start⟩, lower⟩ :=
        leastLine_spec ascendingNext ascendingPrevious least
      obtain ⟨cuts, occupied⟩ :=
        ih (ascending_afterLine ascendingNext line) (ascending_afterLine ascendingPrevious line)
      have origin {token : Token}
          (left : token ∈ afterLine line next ++ afterLine line previous)
          : token ∈ next ++ previous ∧ line < token.line :=
        (mem_afterLine_append ascendingNext ascendingPrevious lower).mp left
      rw [remaining_of_some least]
      refine ⟨cuts.cons ascendingNext ascendingPrevious lower fun slice present => ?_,
        List.forall_mem_cons.mpr ⟨⟨first, member, start⟩, fun slice present => ?_⟩⟩
      · obtain ⟨token, left, same⟩ := occupied slice present
        exact same ▸ (origin left).2
      · obtain ⟨token, left, same⟩ := occupied slice present
        exact ⟨token, (origin left).1, same⟩

/-- The slices of two ascending lists cut them, if no token starts before line 0, which is examined
first.
-/
theorem cuts_all {next previous : List Token} (ascendingNext : Token.Ascending next)
    (ascendingPrevious : Token.Ascending previous)
    (least : ∀ token ∈ next ++ previous, 0 ≤ token.line)
    : Cuts next previous (all next previous) := by
  rw [all]
  split
  next ended =>
    simp only [Bool.and_eq_true, List.isEmpty_iff] at ended
    obtain ⟨rfl, rfl⟩ := ended
    constructor <;> simp
  next =>
    obtain ⟨cuts, occupied⟩ := cuts_remaining (ascending_afterLine ascendingNext 0)
      (ascending_afterLine ascendingPrevious 0)
    refine cuts.cons ascendingNext ascendingPrevious least fun slice present => ?_
    obtain ⟨token, left, same⟩ := occupied slice present
    have origin := (mem_afterLine_append ascendingNext ascendingPrevious least).mp left
    exact same ▸ origin.2

/-- The new side of a slice has new tokens only, by induction over the lines that are examined. -/
theorem next_subset_of_remaining {next previous : List Token}
    : ∀ slice ∈ remaining next previous, slice.next ⊆ next := by
  induction next, previous using remaining.induct with
  | case1 next previous ended => simp [remaining_of_none ended]
  | case2 next previous line least ih =>
      rw [remaining_of_some least]
      refine List.forall_mem_cons.mpr ⟨(List.takeWhile_sublist _).subset, ?_⟩
      intro slice member
      exact List.Subset.trans (ih slice member) (List.dropWhile_sublist _).subset

/-- The new side of every slice that is examined has new tokens only. -/
theorem next_subset {next previous : List Token}
    : ∀ slice ∈ all next previous, slice.next ⊆ next := by
  rw [all]
  split
  next => simp
  next =>
    refine List.forall_mem_cons.mpr ⟨(List.takeWhile_sublist _).subset, ?_⟩
    intro slice member
    exact List.Subset.trans (next_subset_of_remaining slice member)
      (List.dropWhile_sublist _).subset

end Slice

end Highlighter
