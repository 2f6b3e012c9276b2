/-! Text measured in UTF-16 units: a character beyond the basic plane is two units, a surrogate
pair, and every other character is one. Columns count units, and lists of names are sorted by them.
-/

namespace Highlighter.Text

/-- The number of UTF-16 units of a character. -/
def width16 (c : Char) : Nat :=
  if c.toNat < 0x10000 then 1 else 2

/-- A character has one or two units. -/
theorem width16_pos (c : Char) : 0 < width16 c := by
  unfold width16
  split <;> omega

/-- The number of UTF-16 units of a line of characters. -/
def length16 : List Char → Nat
  | [] => 0
  | c :: rest => width16 c + length16 rest

/-- The UTF-16 units of a character. -/
def units (c : Char) : List Nat :=
  let code := c.toNat
  if code < 0x10000 then [code]
  else [0xD800 + (code - 0x10000) / 0x400, 0xDC00 + (code - 0x10000) % 0x400]

/-- A character has as many units as its width says. -/
theorem length_units (c : Char) : (units c).length = width16 c := by
  simp only [units, width16]
  split <;> rfl

/-- The units of a text. -/
def unitsOf (text : String) : List Nat :=
  text.toList.flatMap units

/-- Unit by unit comparison, a proper beginning first. -/
def compareUnits : List Nat → List Nat → Ordering
  | [], [] => .eq
  | [], _ :: _ => .lt
  | _ :: _, [] => .gt
  | a :: as, b :: bs => (compare a b).then (compareUnits as bs)

/-- Texts in the order of their UTF-16 units. -/
def atMost16 (a b : String) : Bool :=
  (compareUnits (unitsOf a) (unitsOf b)).isLE

/-- The character of a surrogate pair. -/
def ofSurrogates (high low : Nat) : Char :=
  Char.ofNat (0x10000 + (high - 0xD800) * 0x400 + (low - 0xDC00))

/-- A unit that opens a surrogate pair. -/
def isHighSurrogate (unit : Nat) : Bool :=
  0xD800 ≤ unit && unit < 0xDC00

/-- A unit that closes a surrogate pair. -/
def isLowSurrogate (unit : Nat) : Bool :=
  0xDC00 ≤ unit && unit < 0xE000

end Highlighter.Text
