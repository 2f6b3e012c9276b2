import Highlighter.Proofs.Line.Grouping
import Highlighter.Proofs.Token.Order
import Mathlib.Data.List.Nodup
import Mathlib.Data.List.TakeWhile

/-! Lines are the longest runs of tokens that start on one line. Tokens in any order can be cut in
one way only so that no line is empty and neighbouring lines differ, and scanning them run by run
finds it. In sorted tokens no line is left and found again.
-/

namespace Highlighter

/-- Lines are all of the tokens in their order, cut where the line changes and nowhere else. -/
structure Line.Factors (tokens : List Token) (lines : List Line) : Prop where
  joined : lines.flatMap Line.tokens = tokens
  occupied : ∀ line ∈ lines, line.tokens ≠ []
  own : ∀ line ∈ lines, ∀ token ∈ line.tokens, token.line = line.line
  changing : lines.IsChain fun a b => a.line ≠ b.line

-----------------------------------------------------------------------------------------
-- One scan
-----------------------------------------------------------------------------------------

namespace Slice

/-- A scan stops where another line starts. -/
theorem onLine_of_head_ne {line : Int} {tokens : List Token}
    (apart : ∀ token ∈ tokens.head?, token.line ≠ line)
    : onLine line tokens = [] ∧ afterLine line tokens = tokens := by
  cases tokens with
  | nil => exact ⟨rfl, rfl⟩
  | cons token rest =>
      have different : token.line ≠ line := apart token rfl
      simp [onLine, afterLine, different]

/-- A run of tokens on a line is scanned as a whole, and nothing of what is on another line behind
it.
-/
theorem onLine_append {line : Int} {run later : List Token}
    (own : ∀ token ∈ run, token.line = line)
    (apart : ∀ token ∈ later.head?, token.line ≠ line)
    : onLine line (run ++ later) = run ∧ afterLine line (run ++ later) = later := by
  obtain ⟨nothing, everything⟩ := onLine_of_head_ne apart
  have here : ∀ token ∈ run, decide (token.line = line) = true := by simpa using own
  constructor
  · rw [onLine, List.takeWhile_append_of_pos here, ← onLine, nothing, List.append_nil]
  · rw [afterLine, List.dropWhile_append_of_pos here, ← afterLine, everything]

/-- What a scan leaves starts on another line. -/
theorem head_afterLine {line : Int} {tokens : List Token}
    : ∀ token ∈ (afterLine line tokens).head?, token.line ≠ line := by
  intro token first
  have stopped := List.head?_dropWhile_not (fun token : Token => token.line = line) tokens
  rw [← afterLine, Option.mem_def.mp first] at stopped
  simpa using stopped

end Slice

namespace Line

/-- The first line is scanned from the first token on and the others from where that scan stops, by
induction over the tokens.
-/
theorem group_cons (token : Token) (rest : List Token)
    : group (token :: rest)
      = ⟨token.line, Slice.onLine token.line (token :: rest)⟩
        :: group (Slice.afterLine token.line (token :: rest)) := by
  induction rest generalizing token with
  | nil => simp [group, prepend, Slice.onLine, Slice.afterLine]
  | cons next rest ih =>
      have before : group (token :: next :: rest) = prepend token (group (next :: rest)) := rfl
      by_cases same : next.line = token.line
      · rw [before, ih, prepend, if_pos same]
        simp [Slice.onLine, Slice.afterLine, same]
      · have scan : Slice.onLine token.line ([token] ++ next :: rest) = [token]
            ∧ Slice.afterLine token.line ([token] ++ next :: rest) = next :: rest :=
          Slice.onLine_append (by simp) (by simpa using same)
        rw [List.singleton_append] at scan
        rw [before, scan.1, scan.2, ih, prepend, if_neg same]

-----------------------------------------------------------------------------------------
-- All scans
-----------------------------------------------------------------------------------------

/-- The first line of a factorisation is that of the first token. -/
theorem Factors.head {tokens : List Token} {lines : List Line} (factors : Factors tokens lines)
    : lines.head?.map Line.line = tokens.head?.map Token.line := by
  cases lines with
  | nil => simp [← factors.joined]
  | cons first others =>
      obtain ⟨token, more, run⟩ :=
        List.exists_cons_of_ne_nil (factors.occupied first List.mem_cons_self)
      have start : token.line = first.line :=
        factors.own first List.mem_cons_self token (run ▸ List.mem_cons_self)
      simp [← factors.joined, run, start]

/-- The lines behind the first one factor the tokens that are on them. -/
theorem Factors.tail {tokens : List Token} {first : Line} {others : List Line}
    (factors : Factors tokens (first :: others))
    : Factors (others.flatMap Line.tokens) others where
  joined := rfl
  occupied line member := factors.occupied line (List.mem_cons_of_mem first member)
  own line member := factors.own line (List.mem_cons_of_mem first member)
  changing := factors.changing.tail

/-- Behind the tokens of the first line another line starts. -/
theorem Factors.apart {tokens : List Token} {first : Line} {others : List Line}
    (factors : Factors tokens (first :: others))
    : ∀ token ∈ (others.flatMap Line.tokens).head?, token.line ≠ first.line := by
  intro token start
  have heads := factors.tail.head
  rw [Option.mem_def.mp start, Option.map_some, Option.map_eq_some_iff] at heads
  obtain ⟨second, next, same⟩ := heads
  rw [← same]
  exact ((List.isChain_cons.mp factors.changing).1 second next).symm

/-- A scan puts a line before those that factor what it leaves. -/
theorem Factors.cons {token : Token} {rest : List Token} {others : List Line}
    (factors : Factors (Slice.afterLine token.line (token :: rest)) others)
    : Factors (token :: rest)
        (⟨token.line, Slice.onLine token.line (token :: rest)⟩ :: others) where
  joined := by
    rw [List.flatMap_cons, factors.joined]
    exact List.takeWhile_append_dropWhile
  occupied := List.forall_mem_cons.mpr ⟨by simp [Slice.onLine], factors.occupied⟩
  own := by
    refine List.forall_mem_cons.mpr ⟨fun other scanned => ?_, factors.own⟩
    simpa using List.mem_takeWhile_imp scanned
  changing := by
    refine List.isChain_cons.mpr ⟨fun second next => ?_, factors.changing⟩
    have heads := factors.head
    rw [Option.mem_def.mp next, Option.map_some, eq_comm, Option.map_eq_some_iff] at heads
    obtain ⟨other, start, same⟩ := heads
    rw [← same]
    exact (Slice.head_afterLine other start).symm

/-- The first line of a factorisation is what is scanned first, and the others factor what that scan
leaves: a longer line would have tokens of another one, and a shorter one would leave some of its
own to the next.
-/
theorem Factors.cons_inv {token : Token} {rest : List Token} {lines : List Line}
    (factors : Factors (token :: rest) lines)
    : ∃ others,
        lines = ⟨token.line, Slice.onLine token.line (token :: rest)⟩ :: others
        ∧ Factors (Slice.afterLine token.line (token :: rest)) others := by
  cases lines with
  | nil => exact absurd factors.joined (by simp)
  | cons first others =>
      have start : first.line = token.line := Option.some.inj factors.head
      obtain ⟨scanned, left⟩ :=
        Slice.onLine_append (factors.own first List.mem_cons_self) factors.apart
      rw [← List.flatMap_cons, factors.joined, start] at scanned left
      refine ⟨others, ?_, left ▸ factors.tail⟩
      rw [scanned, ← start]

/-- Scanning run by run finds the only factorisation, by recursion on what is left to scan: every
scan takes at least the token that it starts with.
-/
theorem factors_iff {tokens : List Token} {lines : List Line}
    : Factors tokens lines ↔ lines = group tokens := by
  match tokens with
  | [] =>
      constructor
      · intro factors
        refine List.eq_nil_iff_forall_not_mem.mpr fun line member => ?_
        exact factors.occupied line member (List.flatMap_eq_nil_iff.mp factors.joined line member)
      · rintro rfl
        constructor <;> simp [group]
  | token :: rest =>
      rw [group_cons]
      constructor
      · intro factors
        obtain ⟨others, rfl, left⟩ := factors.cons_inv
        rw [factors_iff.mp left]
      · rintro rfl
        exact Factors.cons (factors_iff.mpr rfl)
termination_by tokens.length
decreasing_by all_goals exact Slice.length_afterLine_lt rest rfl

/-- However tokens are ordered, their grouping is the only way to cut all of them, in their order,
into lines that are not empty, hold tokens of their own, and differ from their neighbours. If the
tokens are sorted, the lines ascend, so every line that a token starts on comes once.
-/
theorem factors_iff_group (tokens : List Token)
    : (∀ lines, Factors tokens lines ↔ lines = group tokens)
      ∧ (Token.Sorted tokens
        → ((group tokens).map Line.line).Pairwise (· < ·)
          ∧ ∀ token ∈ tokens, ((group tokens).map Line.line).count token.line = 1) := by
  refine ⟨fun lines => factors_iff, fun sorted => ?_⟩
  have groups := group_groups sorted.lines
  have ascending : ((group tokens).map Line.line).Pairwise (· < ·) :=
    List.pairwise_map.mpr groups.ascending
  refine ⟨ascending, fun token member => ?_⟩
  obtain ⟨line, present, start⟩ := groups.covered token member
  have distinct : ((group tokens).map Line.line).Nodup := ascending.imp Int.ne_of_lt
  rw [← start]
  exact List.count_eq_one_of_mem distinct (List.mem_map_of_mem present)

end Line

/-- Tokens on line 2, on line 1 and on line 2 again. -/
def Token.scattered : List Token :=
  [.ofKind .function (.between 2 0 2 4), .ofKind .parameter (.between 2 5 2 6),
    .ofKind .macroName (.between 1 0 1 2), .ofKind .parameter (.between 2 8 2 9)]

/-- Line 2 comes twice before these tokens are sorted, and once then. -/
theorem Line.factors_iff_group_scattered
    : Factors Token.scattered
          [⟨2, Token.scattered.take 2⟩, ⟨1, (Token.scattered.drop 2).take 1⟩,
            ⟨2, Token.scattered.drop 3⟩]
      ∧ Token.Sorted (Token.sort Token.scattered)
      ∧ ((group (Token.sort Token.scattered)).map Line.line).Pairwise (· < ·)
      ∧ ((group (Token.sort Token.scattered)).map Line.line).count 2 = 1 := by
  have sorted := Token.sorted_sort Token.scattered
  obtain ⟨ascending, once⟩ := (factors_iff_group (Token.sort Token.scattered)).2 sorted
  have present : .ofKind .function (.between 2 0 2 4) ∈ Token.sort Token.scattered :=
    List.mem_mergeSort.mpr List.mem_cons_self
  exact ⟨((factors_iff_group Token.scattered).1 _).mpr (by decide), sorted, ascending,
    once _ present⟩

end Highlighter
