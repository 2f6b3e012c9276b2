import Highlighter.Text.Units

/-! Code points of a text that is given by its units. The two halves of a surrogate pair are one
code point, and every other unit is one by itself, also the second half of a pair where reading
starts at it. A half alone is no character, so it is in no class of characters.
-/

namespace Highlighter.Text

/-- The unit at an index opens a surrogate pair that the next one closes. -/
def opensPair (units : List Nat) (index : Nat) : Bool :=
  units[index]?.any isHighSurrogate && units[index + 1]?.any isLowSurrogate

/-- An index is between the two halves of a surrogate pair. -/
def splitsPair (units : List Nat) : Nat → Bool
  | 0 => false
  | index + 1 => opensPair units index

/-- The number of units of the code point at an index. -/
def pointWidth (units : List Nat) (index : Nat) : Nat :=
  if opensPair units index then 2 else 1

/-- The code point at an index; none past the end. -/
def pointAt (units : List Nat) (index : Nat) : Option Nat :=
  match units[index]?, units[index + 1]? with
  | none, _ => none
  | some unit, none => some unit
  | some unit, some next =>
      if isHighSurrogate unit && isLowSurrogate next then
        some (0x10000 + (unit - 0xD800) * 0x400 + (next - 0xDC00))
      else some unit

/-- The code point at an index is a character of a class. -/
def PointIn (ofClass : Char → Bool) (units : List Nat) (index : Nat) : Prop :=
  ∃ c, pointAt units index = some c.toNat ∧ ofClass c

/-- Consecutive code points from one index to another are characters of a class. -/
inductive Run (ofClass : Char → Bool) (units : List Nat) : Nat → Nat → Prop
  | stop {index} : Run ofClass units index index
  | next {index stop} (member : PointIn ofClass units index)
    (rest : Run ofClass units (index + pointWidth units index) stop)
    : Run ofClass units index stop

end Highlighter.Text
