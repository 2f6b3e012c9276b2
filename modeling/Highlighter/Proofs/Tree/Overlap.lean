import Highlighter.Proofs.Tree.Resolved

/-! Highlights that overlap end together. What is measured from inside a word is the rest of that
word, unless measuring starts between the halves of a surrogate pair; so of two names one ends
before the other starts, or the one that starts later is a suffix of the other.
-/

namespace Highlighter

-----------------------------------------------------------------------------------------
-- Two ranges
-----------------------------------------------------------------------------------------

/-- One of two ranges ends where the other one starts, or before. -/
def Range.Apart (a b : Range) : Prop :=
  (a.stop.compare b.start).isLE ∨ (b.stop.compare a.start).isLE

/-- A range is what another one ends with. -/
structure Range.SuffixOf (a b : Range) : Prop where
  later : b.start.compare a.start = .lt
  stop : a.stop = b.stop

namespace Position

variable {line column otherLine otherColumn : Int}

/-- A position is before another on an earlier line or in an earlier column of its line. -/
theorem compare_eq_lt
    : compare ⟨line, column⟩ ⟨otherLine, otherColumn⟩ = .lt
      ↔ line < otherLine ∨ line = otherLine ∧ column < otherColumn := by
  simp only [compare, Ordering.then_eq_lt, Std.compare_eq_lt, Std.compare_eq_iff_eq]

theorem isLE_compare
    : (compare ⟨line, column⟩ ⟨otherLine, otherColumn⟩).isLE
      ↔ line < otherLine ∨ line = otherLine ∧ column ≤ otherColumn := by
  simp only [compare, Ordering.isLE_then_iff_or, Std.compare_eq_lt, Std.compare_eq_iff_eq,
    Std.isLE_compare]

/-- Of two positions one is before the other. -/
theorem lt_or_lt_of_ne {a b : Position} (differ : a ≠ b)
    : a.compare b = .lt ∨ b.compare a = .lt := by
  obtain ⟨line, column⟩ := a
  obtain ⟨otherLine, otherColumn⟩ := b
  rw [compare_eq_lt, compare_eq_lt]
  rw [ne_eq, mk.injEq] at differ
  omega

end Position

-----------------------------------------------------------------------------------------
-- Tokens that overlap
-----------------------------------------------------------------------------------------

namespace Source

/-- A token that starts inside another, between two code points, ends where that one does: what is
inside a token is inside a word, and from there the word goes on to its end.
-/
theorem TokenAt.stop_eq_of_inside {units : List Nat} {start stop inner other : Nat}
    (token : TokenAt units start stop) (another : TokenAt units inner other)
    (after : start < inner) (before : inner < stop)
    (whole : Text.splitsPair units inner = false)
    : other = stop := by
  by_cases word : Text.PointIn Text.isWord units start
  · obtain ⟨front, rest⟩ :=
      (token.word word).through (Nat.le_of_lt after) (Nat.le_of_lt before) whole
    have goesOn := another.word (rest.starts before)
    exact Nat.le_antisymm (token.longest (front.trans goesOn)) (another.longest rest)
  · have single := token.single word
    have beyond := Text.add_pointWidth_le after whole
    omega

variable {source : Source} {a b : Range}

/-- Ranges that are measured at one position are one range. -/
theorem Measures.eq_of_start (first : source.Measures a) (second : source.Measures b)
    (same : a.start = b.start)
    : a = b := by
  have found : source.tokenRange a.start = some b := by rw [same]; exact second
  exact Option.some.inj (first.symm.trans found)

/-- Of two measured ranges the one that starts later is apart from the other or a suffix of it, if
it does not start between the halves of a pair.
-/
theorem Measures.apart_or_suffix (first : source.Measures a) (second : source.Measures b)
    (before : a.start.compare b.start = .lt) (whole : source.splitsPairAt b.start = false)
    : a.Apart b ∨ b.SuffixOf a := by
  obtain ⟨line, column, text, stop, _, present, token, rfl⟩ := exists_tokenAt first
  obtain ⟨otherLine, inner, otherText, other, _, otherPresent, another, rfl⟩ :=
    exists_tokenAt second
  rcases Position.compare_eq_lt.mp before with earlier | ⟨sameLine, after⟩
  · exact .inl (.inl (Position.isLE_compare.mpr (.inl earlier)))
  · obtain rfl := Int.ofNat_inj.mp sameLine
    obtain rfl := Option.some.inj (present.symm.trans otherPresent)
    by_cases inside : inner < stop
    · have whole : Text.splitsPair (text.flatMap Text.units) inner = false := by
        simpa [splitsPairAt, Range.between, present] using whole
      obtain rfl := token.stop_eq_of_inside another (Int.ofNat_lt.mp after) inside whole
      exact .inr ⟨before, rfl⟩
    · refine .inl (.inl (Position.isLE_compare.mpr (.inr ⟨rfl, ?_⟩)))
      exact Int.ofNat_le.mpr (Nat.le_of_not_lt inside)

end Source

-----------------------------------------------------------------------------------------
-- Highlights
-----------------------------------------------------------------------------------------

namespace Tree

/-- Without macros each highlight is measured in the tree's text. -/
theorem measures_highlights {tree : Tree} (unexpanded : tree.macros = []) {found : Highlights}
    (highlighted : tree.highlights = .ok found)
    : ∀ token ∈ found.tokens, tree.source.Measures token.range := by
  obtain ⟨raw, walked, rfl⟩ := ok_of_map_iff.mp highlighted
  intro token member
  rcases Token.mem_of_mem_collect member with emitted | ⟨range, expanded, _⟩
  · obtain ⟨kind, range, -, measured, rfl⟩ := measured_walk walked token emitted
    exact measured
  · rw [unexpanded] at expanded
    contradiction

/-- Two highlights of a tree without macros start at different positions. If neither of them starts
at the second half of a surrogate pair, they are apart, or the one that starts later is a suffix of
the other.
-/
theorem highlights_apart_or_suffix {tree : Tree} (unexpanded : tree.macros = [])
    {found : Highlights} (highlighted : tree.highlights = .ok found) {one other : Token}
    (first : one ∈ found.tokens) (second : other ∈ found.tokens) (differ : one ≠ other)
    : one.range.start ≠ other.range.start
      ∧ (tree.source.splitsPairAt one.range.start = false
        → tree.source.splitsPairAt other.range.start = false
        → one.range.Apart other.range
          ∨ one.range.SuffixOf other.range
          ∨ other.range.SuffixOf one.range) := by
  have here := measures_highlights unexpanded highlighted one first
  have there := measures_highlights unexpanded highlighted other second
  have starts : one.range.start ≠ other.range.start := by
    obtain ⟨raw, walked, rfl⟩ := ok_of_map_iff.mp highlighted
    intro same
    have ranges : one.range = other.range := here.eq_of_start there same
    exact differ ((Token.mem_collect.mp second).2 one (Token.mem_collect.mp first).1 ranges)
  refine ⟨starts, fun wholeHere wholeThere => ?_⟩
  rcases Position.lt_or_lt_of_ne starts with before | after
  · rcases here.apart_or_suffix there before wholeThere with apart | suffix
    · exact .inl apart
    · exact .inr (.inr suffix)
  · rcases there.apart_or_suffix here after wholeHere with apart | suffix
    · exact .inl apart.symm
    · exact .inr (.inl suffix)

/-- One word, measured from its start, from inside it, and from inside a surrogate pair of it. -/
def inner : Tree where
  source := .ofText "main.cpp" "x𝒜b"
  nodes := [3, 0, 2].map fun column =>
    .mk (.dependentTypeRef (some (.file ⟨"main.cpp", ⟨0, column⟩⟩))) none
  macros := []
  decls := ⟨[]⟩

theorem highlights_apart_or_suffix_inner
    : inner.macros = []
      ∧ ∃ found,
          inner.highlights = .ok found
          ∧ .ofKind .dependentType (.between 0 0 0 4) ∈ found.tokens
          ∧ .ofKind .dependentType (.between 0 3 0 4) ∈ found.tokens
          ∧ (Range.between 0 3 0 4).SuffixOf (.between 0 0 0 4)
          ∧ .ofKind .dependentType (.between 0 2 0 3) ∈ found.tokens
          ∧ inner.source.splitsPairAt ⟨0, 2⟩ = true := by
  let raw : List Token :=
    [.ofKind .dependentType (.between 0 3 0 4), .ofKind .dependentType (.between 0 0 0 4),
      .ofKind .dependentType (.between 0 2 0 3)]
  have walked : inner.walk = .ok ⟨raw, []⟩ := by decide +kernel
  have highlighted : inner.highlights = .ok ⟨Token.collect raw [], []⟩ := by
    rw [highlights, walked]
    rfl
  have kept : ∀ token ∈ raw, token ∈ Token.collect raw [] := by
    intro token member
    rw [Token.mem_collect]
    revert token
    decide
  have first := kept (.ofKind .dependentType (.between 0 0 0 4)) (by decide)
  have second := kept (.ofKind .dependentType (.between 0 3 0 4)) (by decide)
  obtain ⟨_, overlap⟩ := highlights_apart_or_suffix rfl highlighted first second (by decide)
  have suffix : (Range.between 0 3 0 4).SuffixOf (.between 0 0 0 4) := by
    rcases overlap (by decide +kernel) (by decide +kernel) with apart | suffix | suffix
    · exact absurd apart (by unfold Range.Apart; decide)
    · exact absurd suffix.later (by decide)
    · exact suffix
  exact ⟨rfl, _, highlighted, first, second, suffix, kept _ (by decide), by decide +kernel⟩

end Tree

end Highlighter
