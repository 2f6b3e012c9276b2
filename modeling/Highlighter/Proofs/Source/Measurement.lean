import Highlighter.Proofs.Text.Runs
import Highlighter.Source.Measure

/-! Tokens are measured as they are. What stands at a column of a line is a character, half a
surrogate pair or nothing; from there the characters of a word are counted, so what is measured is
the token that goes from that column to the only index where it can end.
-/

namespace Highlighter

/-- No white space is a character of a word: neither the dollar sign nor what continues an
identifier is among its codes.
-/
theorem Text.isWord_of_isBlank {c : Char} (blank : isBlank c = true) : isWord c = false := by
  have apart : ∀ code ∈ [9, 10, 11, 12, 13, 0x20, 0xA0, 0x1680, 0x2000, 0x2001, 0x2002, 0x2003,
      0x2004, 0x2005, 0x2006, 0x2007, 0x2008, 0x2009, 0x200A, 0x2028, 0x2029, 0x202F, 0x205F,
      0x3000, 0xFEFF], code ≠ '$'.toNat ∧ inRanges code identifierRanges = false := by
    decide +kernel
  obtain ⟨dollar, identifier⟩ := apart c.toNat <| by
    simp only [isBlank, Bool.or_eq_true, Bool.and_eq_true, decide_eq_true_eq, beq_iff_eq] at blank
    simp only [List.mem_cons, List.not_mem_nil, or_false]
    omega
  have different : c ≠ '$' := fun same => dollar (congrArg Char.toNat same)
  simp [isWord, continuesIdentifier, different, identifier]

namespace Source

-----------------------------------------------------------------------------------------
-- Lines
-----------------------------------------------------------------------------------------

/-- Lines are the pieces between line feeds, by induction over the text. -/
theorem splitLines_eq_splitOn (text : List Char) : splitLines text = text.splitOn '\n' := by
  induction text with
  | nil => rfl
  | cons c rest ih =>
      have pieces : (c :: rest).splitOn '\n'
          = if c = '\n' then [] :: rest.splitOn '\n'
            else (rest.splitOn '\n').modifyHead (List.cons c) := by
        simpa only [List.splitOn, beq_iff_eq] using
          List.splitOnP_cons_eq_if_modifyHead (p := fun x => x == '\n') c rest
      rw [pieces, ← ih]
      by_cases feed : c = '\n'
      · rw [if_pos feed, feed, splitLines]
      · rw [if_neg feed, splitLines]
        · cases lines : splitLines rest with
          | nil =>
              rw [ih] at lines
              exact absurd lines (List.splitOnP_ne_nil _ _)
          | cons line others => rfl
        · exact feed

/-- A carriage return is dropped from the end of a line, once, by induction over the line. -/
theorem dropReturn_eq (line : List Char)
    : dropReturn line = if line.getLast? = some '\r' then line.dropLast else line := by
  induction line with
  | nil => rfl
  | cons c rest ih =>
      cases rest with
      | nil =>
          by_cases last : c = '\r'
          · subst last
            rfl
          · simp [dropReturn, last]
      | cons next rest =>
          rw [dropReturn, ih, List.getLast?_cons_cons, List.dropLast_cons_cons]
          · split <;> rfl
          · simp

/-- The lines of a text in units. -/
theorem lineUnits?_eq (file text : String) (line : Nat)
    : lineUnits? text line
      = ((ofText file text).lines[line]?).map fun piece => piece.flatMap Text.units := by
  simp only [ofText, lineUnits?, List.getElem?_toArray, List.getElem?_map, Option.map_map,
    splitLines_eq_splitOn]
  congr 1
  funext piece
  simp only [Function.comp, dropReturn_eq]

-----------------------------------------------------------------------------------------
-- Columns
-----------------------------------------------------------------------------------------

/-- Behind the units of a character the rest of the line is looked at. -/
theorem spotAt_add (c : Char) (rest : List Char) (column : Nat)
    : spotAt (c :: rest) (Text.width16 c + column) = spotAt rest column := by
  by_cases narrow : Text.width16 c = 1
  · rw [narrow, Nat.add_comm]
    simp [spotAt, narrow]
  · rw [Text.width16_eq_two narrow, Nat.add_comm]
    simp [spotAt, narrow]

/-- A column is where a character starts, between its units or behind the line, by induction over
the line.
-/
theorem spotAt_cases (line : List Char) (column : Nat)
    : (∃ front c rest,
        line = front ++ c :: rest
        ∧ column = Text.length16 front
        ∧ spotAt line column = .character c rest)
      ∨ (∃ front c rest,
          line = front ++ c :: rest
          ∧ column = Text.length16 front + 1
          ∧ Text.width16 c = 2
          ∧ spotAt line column = .halfCharacter)
      ∨ Text.length16 line ≤ column ∧ spotAt line column = .outside := by
  induction line generalizing column with
  | nil => exact .inr (.inr ⟨Nat.zero_le column, rfl⟩)
  | cons c rest ih =>
      rcases Nat.lt_or_ge column (Text.width16 c) with within | behind
      · cases column with
        | zero => exact .inl ⟨[], c, rest, rfl, rfl, rfl⟩
        | succ column =>
            have notNarrow : Text.width16 c ≠ 1 := by omega
            have wide := Text.width16_eq_two notNarrow
            obtain rfl : column = 0 := by omega
            exact .inr (.inl ⟨[], c, rest, rfl, rfl, wide, by rw [spotAt, if_neg notNarrow]⟩)
      · obtain ⟨column, rfl⟩ := Nat.exists_eq_add_of_le behind
        rw [spotAt_add]
        rcases ih column with ⟨front, d, later, rfl, rfl, spot⟩
          | ⟨front, d, later, rfl, rfl, wide, spot⟩ | ⟨beyond, spot⟩
        · exact .inl ⟨c :: front, d, later, rfl, rfl, spot⟩
        · exact .inr (.inl ⟨c :: front, d, later, rfl, (Nat.add_assoc _ _ _).symm, wide, spot⟩)
        · exact .inr (.inr ⟨Nat.add_le_add_left beyond _, spot⟩)

-----------------------------------------------------------------------------------------
-- Tokens
-----------------------------------------------------------------------------------------

section Tokens

open Text

variable {units : List Nat} {start stop : Nat}

/-- What starts with no character of a word is a token of one code point. -/
theorem tokenAt_single (inside : start < units.length) (visible : ¬ PointIn isBlank units start)
    (single : ¬ PointIn isWord units start)
    : TokenAt units start (start + pointWidth units start) where
  visible := visible
  nonempty := Nat.lt_add_of_pos_right (pointWidth_pos units start)
  inside := add_pointWidth_le_length inside
  single _ := rfl
  word isWord := absurd isWord single
  longest run := Nat.le_add_right_of_le (Run.stop.le_of_ended single run)
  whole := splitsPair_add_pointWidth units start

/-- Characters of a word are a token if no other one follows them. -/
theorem tokenAt_word (starts : PointIn isWord units start) (run : Run isWord units start stop)
    (ended : ¬ PointIn isWord units stop)
    : TokenAt units start stop := by
  have inside : start < units.length :=
    Nat.lt_of_not_le fun past => not_pointIn_of_length_le past starts
  have nonempty : start < stop :=
    Nat.lt_of_le_of_ne run.le fun same => ended (same ▸ starts)
  constructor
  case visible =>
    rintro ⟨c, found, blank⟩
    obtain ⟨d, same, word⟩ := starts
    rw [found] at same
    rw [← Char.toNat_inj.mp (Option.some.inj same), isWord_of_isBlank blank] at word
    contradiction
  case nonempty => exact nonempty
  case inside => exact run.le_length (Nat.le_of_lt inside)
  case single => exact fun single => absurd starts single
  case word => exact fun _ => run
  case longest => exact fun other => run.le_of_ended ended other
  case whole => exact run.whole nonempty

/-- A token that starts at an index ends at one index only. -/
theorem TokenAt.stop_unique (token : TokenAt units start stop) {other : Nat}
    (another : TokenAt units start other)
    : other = stop := by
  by_cases word : PointIn isWord units start
  · exact Nat.le_antisymm (token.longest (another.word word)) (another.longest (token.word word))
  · rw [token.single word, another.single word]

-----------------------------------------------------------------------------------------
-- What is measured
-----------------------------------------------------------------------------------------

variable {line : List Char} {column length : Nat}

/-- A character of a word is measured with all that follow it. -/
theorem tokenAt_takeWhile (front rest : List Char) {c : Char} (word : isWord c = true)
    : TokenAt ((front ++ c :: rest).flatMap Text.units) (length16 front)
        (length16 front + (width16 c + length16 (rest.takeWhile isWord))) := by
  have run : Run isWord _ _ _ := run_takeWhile front (c :: rest)
  have ended : ¬ PointIn isWord _ _ := not_pointIn_takeWhile front (c :: rest)
  rw [List.takeWhile_cons_of_pos word, length16] at run ended
  exact tokenAt_word ((pointIn_flatMap_units front rest).mpr word) run ended

/-- What is measured is a token, and nothing is measured past the line or in white space, by what
stands at the column.
-/
theorem tokenLength_cases (line : List Char) (column : Nat)
    : (∃ length, tokenLength line column = some length
        ∧ TokenAt (line.flatMap Text.units) column (column + length))
      ∨ tokenLength line column = none
        ∧ ((line.flatMap Text.units).length ≤ column
          ∨ PointIn isBlank (line.flatMap Text.units) column) := by
  rcases spotAt_cases line column with ⟨front, c, rest, rfl, rfl, spot⟩
    | ⟨front, c, rest, rfl, rfl, wide, spot⟩ | ⟨beyond, spot⟩
  · have inside : length16 front < ((front ++ c :: rest).flatMap Text.units).length := by
      have := width16_pos c
      rw [length_flatMap_units, length16_append, length16]
      omega
    by_cases blank : isBlank c = true
    · refine .inr ⟨?_, .inr ((pointIn_flatMap_units front rest).mpr blank)⟩
      simp only [tokenLength, spot, if_pos blank]
    · by_cases word : isWord c = true
      · refine .inl ⟨_, ?_, tokenAt_takeWhile front rest word⟩
        simp only [tokenLength, spot, if_neg blank, if_pos word]
      · have single := tokenAt_single inside
          ((not_congr (pointIn_flatMap_units front rest)).mpr blank)
          ((not_congr (pointIn_flatMap_units front rest)).mpr word)
        rw [pointWidth_flatMap_units] at single
        refine .inl ⟨_, ?_, single⟩
        simp only [tokenLength, spot, if_neg blank, if_neg word]
  · have inside : length16 front + 1 < ((front ++ c :: rest).flatMap Text.units).length := by
      rw [length_flatMap_units, length16_append, length16, wide]
      omega
    have single := tokenAt_single inside (not_pointIn_half_flatMap front rest wide)
      (not_pointIn_half_flatMap front rest wide)
    rw [pointWidth_half_flatMap front rest wide] at single
    exact .inl ⟨1, by simp only [tokenLength, spot], single⟩
  · refine .inr ⟨by simp only [tokenLength, spot], .inl ?_⟩
    rwa [length_flatMap_units]

/-- Where a token is, there is neither the end of the line nor white space. -/
theorem TokenAt.not_outside (token : TokenAt units start stop)
    : ¬ (units.length ≤ start ∨ PointIn isBlank units start) := by
  rintro (past | blank)
  · have := token.nonempty
    have := token.inside
    omega
  · exact token.visible blank

end Tokens

-----------------------------------------------------------------------------------------
-- Ranges
-----------------------------------------------------------------------------------------

variable {source : Source} {line column : Nat}

/-- At a position from 0 on the token is measured in its line, if there is that line. -/
theorem tokenRange_natural (source : Source) (line column : Nat)
    : source.tokenRange ⟨line, column⟩
      = source.lines[line]?.bind fun text =>
          (tokenLength text column).map fun length =>
            .between line column line (column + length : Nat) := by
  cases found : source.lines[line]? with
  | none => simp [tokenRange, found]
  | some text => cases measured : tokenLength text column <;> simp [tokenRange, found, measured]

/-- A range is that of a token, or there is no token, by what is measured in the line. -/
theorem tokenRange_cases (source : Source) (line column : Nat)
    : (∃ text stop,
        source.lines[line]? = some text
        ∧ TokenAt (text.flatMap Text.units) column stop
        ∧ source.tokenRange ⟨line, column⟩ = some (.between line column line stop))
      ∨ source.tokenRange ⟨line, column⟩ = none
        ∧ ∀ text, source.lines[line]? = some text
          → (text.flatMap Text.units).length ≤ column
            ∨ Text.PointIn Text.isBlank (text.flatMap Text.units) column := by
  rw [tokenRange_natural]
  cases source.lines[line]? with
  | none => exact .inr ⟨rfl, fun text present => by contradiction⟩
  | some text =>
      rcases tokenLength_cases text column with ⟨length, measured, token⟩ | ⟨measured, outside⟩
      · refine .inl ⟨text, column + length, rfl, token, ?_⟩
        rw [Option.bind_some, measured, Option.map_some]
      · refine .inr ⟨?_, fun other same => Option.some.inj same ▸ outside⟩
        rw [Option.bind_some, measured, Option.map_none]

/-- A range is found exactly if there is a token, from its start to its end. -/
theorem tokenRange_eq_some {range : Range}
    : source.tokenRange ⟨line, column⟩ = some range
      ↔ ∃ text stop,
          source.lines[line]? = some text
          ∧ TokenAt (text.flatMap Text.units) column stop
          ∧ range = .between line column line stop := by
  rcases tokenRange_cases source line column with ⟨text, stop, present, token, found⟩
    | ⟨found, outside⟩
  · rw [found]
    constructor
    · intro same
      exact ⟨text, stop, present, token, (Option.some.inj same).symm⟩
    · rintro ⟨other, another, alsoPresent, alsoToken, rfl⟩
      obtain rfl := Option.some.inj (present.symm.trans alsoPresent)
      rw [token.stop_unique alsoToken]
  · rw [found]
    constructor
    · intro same
      contradiction
    · rintro ⟨text, stop, present, token, _⟩
      exact absurd (outside text present) token.not_outside

/-- No range is found exactly if there is no such line, or its end or white space is there. -/
theorem tokenRange_eq_none
    : source.tokenRange ⟨line, column⟩ = none
      ↔ ∀ text, source.lines[line]? = some text
        → (text.flatMap Text.units).length ≤ column
          ∨ Text.PointIn Text.isBlank (text.flatMap Text.units) column := by
  rcases tokenRange_cases source line column with ⟨text, stop, present, token, found⟩
    | ⟨found, outside⟩
  · rw [found]
    refine ⟨fun none => by contradiction, fun outside => ?_⟩
    exact absurd (outside text present) token.not_outside
  · exact ⟨fun _ => outside, fun _ => found⟩

/-- A range is found for no position before the text, and is that of a token on a line. -/
theorem exists_tokenAt {position : Position} {range : Range}
    (found : source.tokenRange position = some range)
    : ∃ (line column : Nat) (text : List Char) (stop : Nat),
        position = ⟨line, column⟩
        ∧ source.lines[line]? = some text
        ∧ TokenAt (text.flatMap Text.units) column stop
        ∧ range = .between line column line stop := by
  obtain ⟨line, character⟩ := position
  cases line with
  | negSucc _ => contradiction
  | ofNat line =>
      cases character with
      | negSucc _ => contradiction
      | ofNat column =>
          obtain ⟨text, stop, present, token, isRange⟩ := tokenRange_eq_some.mp found
          exact ⟨line, column, text, stop, rfl, present, token, isRange⟩

/-- A range that is found is found again at its start, which is where it was looked for. -/
theorem measures_of_tokenRange {position : Position} {range : Range}
    (found : source.tokenRange position = some range)
    : source.Measures range := by
  obtain ⟨line, column, text, stop, rfl, _, _, rfl⟩ := exists_tokenAt found
  exact found

/-- In a text a position has no range exactly if there is no such line, the line ends there or
before, a carriage return at its end not counted, or white space stands there. Otherwise its range
starts there and is that of a token on the line.
-/
theorem tokenRange_ofText (file text : String) (line character : Nat)
    : ((ofText file text).tokenRange ⟨line, character⟩ = none
        ↔ lineUnits? text line = none
          ∨ ∃ units,
              lineUnits? text line = some units
              ∧ (units.length ≤ character ∨ Text.PointIn Text.isBlank units character))
      ∧ ∀ range,
          (ofText file text).tokenRange ⟨line, character⟩ = some range
          ↔ ∃ units stop,
              lineUnits? text line = some units
              ∧ TokenAt units character stop
              ∧ range = .between line character line stop := by
  rw [lineUnits?_eq file]
  constructor
  · rw [tokenRange_eq_none]
    cases (ofText file text).lines[line]? with
    | none => simp
    | some piece => simp
  · intro range
    rw [tokenRange_eq_some]
    cases (ofText file text).lines[line]? with
    | none => simp
    | some piece => simp

/-- The second half of a pair is a token by itself, also at the end of a word. -/
example : (ofText "main.cpp" "\nx𝒜\r").tokenRange ⟨1, 2⟩ = some (.between 1 2 1 3) := by
  decide +kernel

end Source

end Highlighter
