import Highlighter.Proofs.Source.Measurement
import Highlighter.Proofs.Tree.Preorder
import Highlighter.Tree.Highlights
import Mathlib.Data.List.Forall2

/-! Line ends make no difference. A carriage return at the end of a line starts no token and belongs
to none, so it does not matter whether one is there and whether it is dropped. A text has therefore
the same tokens with line feeds alone as with a carriage return before each of them, whatever other
carriage returns it has.
-/

namespace Highlighter

/-- A text with a carriage return before every line feed. -/
def Text.withReturns (text : String) : String :=
  String.ofList (text.toList.flatMap fun c => if c = '\n' then ['\r', '\n'] else [c])

namespace Source

-----------------------------------------------------------------------------------------
-- The end of a line
-----------------------------------------------------------------------------------------

/-- Behind the units of a character the rest of the line is measured. -/
theorem tokenLength_add (c : Char) (rest : List Char) (column : Nat)
    : tokenLength (c :: rest) (Text.width16 c + column) = tokenLength rest column := by
  rw [tokenLength, spotAt_add, tokenLength]

/-- No word goes on into a carriage return. -/
theorem takeWhile_append_return (line : List Char)
    : (line ++ ['\r']).takeWhile Text.isWord = line.takeWhile Text.isWord := by
  have ended : Text.isWord '\r' = false := Text.isWord_of_isBlank (by decide)
  induction line with
  | nil => simp [ended]
  | cons c rest ih => rw [List.cons_append, List.takeWhile_cons, ih, List.takeWhile_cons]

/-- A carriage return at the end of a line does not change what is measured in it, by induction over
the line.
-/
theorem tokenLength_append_return (line : List Char) (column : Nat)
    : tokenLength (line ++ ['\r']) column = tokenLength line column := by
  induction line generalizing column with
  | nil =>
      have blank : Text.isBlank '\r' = true := by decide
      cases column with
      | zero => simp [tokenLength, spotAt, blank]
      | succ column => simp [tokenLength, spotAt, Text.width16]
  | cons c rest ih =>
      rcases Nat.lt_or_ge column (Text.width16 c) with within | behind
      · cases column with
        | zero =>
            simp only [tokenLength, List.cons_append, spotAt, takeWhile_append_return]
        | succ column =>
            have notNarrow : Text.width16 c ≠ 1 := by omega
            have wide := Text.width16_eq_two notNarrow
            obtain rfl : column = 0 := by omega
            simp only [tokenLength, List.cons_append, spotAt, if_neg notNarrow]
      · obtain ⟨column, rfl⟩ := Nat.exists_eq_add_of_le behind
        rw [List.cons_append, tokenLength_add, tokenLength_add, ih]

/-- What is measured in a line is measured in it without its carriage return. -/
theorem tokenLength_dropReturn (line : List Char) (column : Nat)
    : tokenLength (dropReturn line) column = tokenLength line column := by
  rw [dropReturn_eq]
  split
  next last =>
    have whole := List.dropLast_append_getLast? '\r' last
    rw [← tokenLength_append_return line.dropLast, whole]
  next => rfl

-----------------------------------------------------------------------------------------
-- All lines
-----------------------------------------------------------------------------------------

/-- A carriage return before every line feed ends up behind the lines before the last, by induction
over the text.
-/
theorem splitLines_withReturns (text : List Char)
    : List.Forall₂ (fun piece returned => returned = piece ∨ returned = piece ++ ['\r'])
        (splitLines text)
        (splitLines (text.flatMap fun c => if c = '\n' then ['\r', '\n'] else [c])) := by
  induction text with
  | nil => exact .cons (.inl rfl) .nil
  | cons c rest ih =>
      rw [List.flatMap_cons]
      by_cases feed : c = '\n'
      · rw [if_pos feed, feed, List.cons_append, List.singleton_append, splitLines, splitLines,
          splitLines]
        · exact .cons (.inr rfl) ih
        · decide
      · rw [if_neg feed, List.singleton_append, splitLines, splitLines]
        · generalize splitLines rest = pieces at ih
          generalize splitLines (rest.flatMap _) = returned at ih
          cases ih with
          | nil => exact .cons (.inl rfl) .nil
          | cons first others =>
              refine .cons (first.imp ?_ ?_) others
              · exact congrArg (List.cons c)
              · exact congrArg (List.cons c)
        · exact feed
        · exact feed

/-- Positions from 0 on are measured in the pieces of a text between its line feeds. -/
theorem tokenRange_splitLines (file text : String) (line column : Nat)
    : (ofText file text).tokenRange ⟨line, column⟩
      = ((splitLines text.toList).map tokenLength)[line]?.bind fun measure =>
          (measure column).map fun length =>
            .between line column line (column + length : Nat) := by
  rw [tokenRange_natural]
  simp only [ofText, List.getElem?_toArray, List.getElem?_map, Option.bind_map, Function.comp_def,
    tokenLength_dropReturn]

/-- A text has the same tokens at all positions with a carriage return before every line feed. -/
theorem tokenRange_withReturns (file text : String) (position : Position)
    : (ofText file (Text.withReturns text)).tokenRange position
      = (ofText file text).tokenRange position := by
  have measured : (splitLines (Text.withReturns text).toList).map tokenLength
      = (splitLines text.toList).map tokenLength := by
    rw [Text.withReturns, String.toList_ofList, eq_comm, ← List.forall₂_eq_eq_eq,
      List.forall₂_map_left_iff, List.forall₂_map_right_iff]
    refine (splitLines_withReturns text.toList).imp ?_
    rintro piece _ (rfl | rfl)
    · rfl
    · exact (funext (tokenLength_append_return piece)).symm
  obtain ⟨line, character⟩ := position
  cases line with
  | negSucc _ => simp only [tokenRange]
  | ofNat line =>
      cases character with
      | negSucc _ => simp only [tokenRange]
      | ofNat column =>
          refine (tokenRange_splitLines _ _ line column).trans ?_
          rw [measured]
          exact (tokenRange_splitLines _ _ line column).symm

-----------------------------------------------------------------------------------------
-- Highlights
-----------------------------------------------------------------------------------------

/-- Two sources are of one file and have the same tokens at all positions. -/
structure Alike (source twin : Source) : Prop where
  file : source.file = twin.file
  ranges : ∀ position, source.tokenRange position = twin.tokenRange position

namespace Alike

variable {source twin : Source}

/-- An occurrence is looked up by its file and its range, and so leads to the same. -/
theorem ofOccurrence (alike : source.Alike twin) (occurrence : Occurrence)
    : Emission.ofOccurrence source occurrence = Emission.ofOccurrence twin occurrence := by
  have places (kind : Kind) : Emission.at? source kind = Emission.at? twin kind := by
    funext place
    rw [Emission.at?, alike.file, alike.ranges, Emission.at?]
  simp only [Emission.ofOccurrence, places]

/-- A walk emits the same, by what the answers to all questions lead to. -/
theorem ofStack (alike : source.Alike twin) (table : DeclTable) (stack : List Node)
    : Emission.ofStack table source stack = Emission.ofStack table twin stack := by
  rw [Emission.ofStack_eq, Emission.ofStack_eq, funext alike.ofOccurrence]

end Alike

end Source

/-- A text has the same tokens at all positions with a carriage return before every line feed,
wherever else it has carriage returns, and so trees that differ in this only have the same
highlights.
-/
theorem Tree.highlights_withReturns (file text : String)
    : (∀ position,
        (Source.ofText file (Text.withReturns text)).tokenRange position
        = (Source.ofText file text).tokenRange position)
      ∧ ∀ nodes macros decls,
          (Tree.mk (.ofText file (Text.withReturns text)) nodes macros decls).highlights
          = (Tree.mk (.ofText file text) nodes macros decls).highlights := by
  have ranges := Source.tokenRange_withReturns file text
  refine ⟨ranges, fun nodes macros decls => ?_⟩
  have alike : (Source.ofText file (Text.withReturns text)).Alike (.ofText file text) :=
    ⟨rfl, ranges⟩
  simp only [highlights, walk, emissions, alike.ofStack]

/-- Where a line has a carriage return already, only one of the two is dropped. -/
example
    : (Source.ofText "main.cpp" "a\r\nb").lines = #[['a'], ['b']]
      ∧ (Source.ofText "main.cpp" (Text.withReturns "a\r\nb")).lines
        = #[['a', '\r'], ['b']] := by
  decide +kernel

end Highlighter
