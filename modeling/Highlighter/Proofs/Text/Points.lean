import Highlighter.Text.Points

/-! Characters are the code points of their units. Behind the units of some characters stands the
next one, and only between the two units of one character half a surrogate pair is read, which is no
character.
-/

namespace Highlighter.Text

-----------------------------------------------------------------------------------------
-- The units of a character
-----------------------------------------------------------------------------------------

/-- A character has one unit, which is no half of a pair, or is a pair of two halves, by the codes
that characters have.
-/
theorem units_cases (c : Char)
    : (width16 c = 1 ∧ units c = [c.toNat] ∧ isHighSurrogate c.toNat = false)
      ∨ width16 c = 2
        ∧ ∃ high low,
            units c = [high, low]
            ∧ isHighSurrogate high = true
            ∧ isLowSurrogate low = true
            ∧ 0x10000 + (high - 0xD800) * 0x400 + (low - 0xDC00) = c.toNat := by
  have valid : c.toNat < 0xD800 ∨ 0xDFFF < c.toNat ∧ c.toNat < 0x110000 := c.valid
  by_cases narrow : c.toNat < 0x10000
  · refine .inl ⟨if_pos narrow, if_pos narrow, ?_⟩
    simp only [isHighSurrogate, Bool.and_eq_false_imp, decide_eq_true_eq, decide_eq_false_iff_not]
    omega
  · refine .inr ⟨if_neg narrow, _, _, if_neg narrow, ?_⟩
    simp only [isHighSurrogate, isLowSurrogate, Bool.and_eq_true, decide_eq_true_eq]
    omega

theorem width16_eq_two {c : Char} (wide : width16 c ≠ 1) : width16 c = 2 := by
  rcases units_cases c with ⟨narrow, _⟩ | ⟨width, _⟩
  · contradiction
  · exact width

/-- No unit opens a pair and closes one. -/
theorem isHighSurrogate_of_isLowSurrogate {unit : Nat} (low : isLowSurrogate unit = true)
    : isHighSurrogate unit = false := by
  simp only [isLowSurrogate, isHighSurrogate, Bool.and_eq_true, Bool.and_eq_false_imp,
    decide_eq_true_eq, decide_eq_false_iff_not] at low ⊢
  omega

/-- The second half of a pair is no character. -/
theorem ne_of_isLowSurrogate {unit : Nat} (low : isLowSurrogate unit = true) (c : Char)
    : unit ≠ c.toNat := by
  have valid : c.toNat < 0xD800 ∨ 0xDFFF < c.toNat ∧ c.toNat < 0x110000 := c.valid
  simp only [isLowSurrogate, Bool.and_eq_true, decide_eq_true_eq] at low
  omega

theorem length_flatMap_units (text : List Char) : (text.flatMap units).length = length16 text := by
  induction text with
  | nil => rfl
  | cons c rest ih => rw [List.flatMap_cons, List.length_append, length_units, ih, length16]

theorem length16_append (front back : List Char)
    : length16 (front ++ back) = length16 front + length16 back := by
  induction front with
  | nil => rw [List.nil_append, length16, Nat.zero_add]
  | cons c rest ih => rw [List.cons_append, length16, ih, length16, Nat.add_assoc]

-----------------------------------------------------------------------------------------
-- Code points behind some units
-----------------------------------------------------------------------------------------

section Behind

variable (front : List Nat) (back : List Nat) (index : Nat)

theorem getElem?_behind : (front ++ back)[front.length + index]? = back[index]? := by
  rw [List.getElem?_append_right (Nat.le_add_right _ _), Nat.add_sub_cancel_left]

theorem opensPair_behind
    : opensPair (front ++ back) (front.length + index) = opensPair back index := by
  rw [opensPair, Nat.add_assoc, getElem?_behind, getElem?_behind, opensPair]

theorem pointWidth_behind
    : pointWidth (front ++ back) (front.length + index) = pointWidth back index := by
  rw [pointWidth, opensPair_behind, pointWidth]

theorem pointAt_behind : pointAt (front ++ back) (front.length + index) = pointAt back index := by
  rw [pointAt, Nat.add_assoc, getElem?_behind, getElem?_behind, pointAt]

theorem pointIn_behind (ofClass : Char → Bool)
    : PointIn ofClass (front ++ back) (front.length + index) ↔ PointIn ofClass back index := by
  rw [PointIn, pointAt_behind, PointIn]

end Behind

-----------------------------------------------------------------------------------------
-- Code points of characters
-----------------------------------------------------------------------------------------

variable {ofClass : Char → Bool} {c : Char} {more : List Nat}

theorem opensPair_units (c : Char) (more : List Nat)
    : opensPair (units c ++ more) 0 = decide (width16 c = 2) := by
  rcases units_cases c with ⟨narrow, single, notHigh⟩ | ⟨wide, high, low, pair, isHigh, isLow, _⟩
  · simp [opensPair, single, narrow, notHigh]
  · simp [opensPair, pair, wide, isHigh, isLow]

theorem pointWidth_units (c : Char) (more : List Nat)
    : pointWidth (units c ++ more) 0 = width16 c := by
  rw [pointWidth, opensPair_units]
  rcases units_cases c with ⟨width, _⟩ | ⟨width, _⟩ <;> simp [width]

theorem pointAt_units (c : Char) (more : List Nat)
    : pointAt (units c ++ more) 0 = some c.toNat := by
  rcases units_cases c with ⟨_, single, notHigh⟩ | ⟨_, high, low, pair, isHigh, isLow, code⟩
  · cases more <;> simp [pointAt, single, notHigh]
  · simp [pointAt, pair, isHigh, isLow, code]

theorem pointIn_units : PointIn ofClass (units c ++ more) 0 ↔ ofClass c = true := by
  rw [PointIn, pointAt_units]
  constructor
  · rintro ⟨other, same, member⟩
    rwa [Char.toNat_inj.mp (Option.some.inj same)]
  · intro member
    exact ⟨c, rfl, member⟩

/-- The second half of a pair opens none. -/
theorem opensPair_half (wide : width16 c = 2) (more : List Nat)
    : opensPair (units c ++ more) 1 = false := by
  rcases units_cases c with ⟨narrow, _⟩ | ⟨_, high, low, pair, _, isLow, _⟩
  · omega
  · simp [opensPair, pair, isHighSurrogate_of_isLowSurrogate isLow]

/-- The second half of a pair is read alone, and is in no class then. -/
theorem not_pointIn_half (wide : width16 c = 2) (more : List Nat)
    : ¬ PointIn ofClass (units c ++ more) 1 := by
  rcases units_cases c with ⟨narrow, _⟩ | ⟨_, high, low, pair, _, isLow, _⟩
  · omega
  · rintro ⟨other, same, _⟩
    have notHigh := isHighSurrogate_of_isLowSurrogate isLow
    have alone : pointAt (units c ++ more) 1 = some low := by
      cases more <;> simp [pointAt, pair, notHigh]
    rw [alone] at same
    exact ne_of_isLowSurrogate isLow other (Option.some.inj same)

-----------------------------------------------------------------------------------------
-- Code points of a text
-----------------------------------------------------------------------------------------

theorem pointIn_flatMap_units (front rest : List Char)
    : PointIn ofClass ((front ++ c :: rest).flatMap units) (length16 front)
      ↔ ofClass c = true := by
  rw [List.flatMap_append, List.flatMap_cons, ← length_flatMap_units front]
  exact (pointIn_behind _ _ 0 ofClass).trans pointIn_units

theorem pointWidth_flatMap_units (front rest : List Char)
    : pointWidth ((front ++ c :: rest).flatMap units) (length16 front) = width16 c := by
  rw [List.flatMap_append, List.flatMap_cons, ← length_flatMap_units front]
  exact (pointWidth_behind _ _ 0).trans (pointWidth_units c _)

theorem pointWidth_half_flatMap (front rest : List Char) (wide : width16 c = 2)
    : pointWidth ((front ++ c :: rest).flatMap units) (length16 front + 1) = 1 := by
  rw [List.flatMap_append, List.flatMap_cons, ← length_flatMap_units front, pointWidth_behind,
    pointWidth, opensPair_half wide]
  rfl

theorem not_pointIn_half_flatMap (front rest : List Char) (wide : width16 c = 2)
    : ¬ PointIn ofClass ((front ++ c :: rest).flatMap units) (length16 front + 1) := by
  rw [List.flatMap_append, List.flatMap_cons, ← length_flatMap_units front, pointIn_behind]
  exact not_pointIn_half wide _

/-- Past the end there is no character. -/
theorem not_pointIn_of_length_le {text : List Nat} {index : Nat} (past : text.length ≤ index)
    : ¬ PointIn ofClass text index := by
  rintro ⟨c, found, _⟩
  rw [pointAt, List.getElem?_eq_none past] at found
  contradiction

end Highlighter.Text
