/-! The parts of a written number: runs of decimal digits, and an exponent with its mark and sign.
-/

namespace Highlighter.Digits

/-- The natural number that decimal digits write. -/
def readNat (digits : List Char) : Nat :=
  digits.foldl (fun n c => 10 * n + (c.toNat - 48)) 0

/-- The value of a hexadecimal digit. -/
def hexValue? (c : Char) : Option Nat :=
  if c.isDigit then some (c.toNat - 48)
  else if 'a' ≤ c && c ≤ 'f' then some (c.toNat - 87)
  else if 'A' ≤ c && c ≤ 'F' then some (c.toNat - 55)
  else none

/-- The digits of an exponent, which are the whole text. -/
def readExponentDigits (digits : List Char) : Option Int :=
  if digits.isEmpty || !digits.all Char.isDigit then none
  else some (readNat digits)

/-- The exponent that is the rest of a number's text, 0 when nothing is left. -/
def readExponent : List Char → Option Int
  | [] => some 0
  | mark :: rest =>
      if mark = 'e' || mark = 'E' then
        match rest with
        | '+' :: digits => readExponentDigits digits
        | '-' :: digits => (readExponentDigits digits).map (- ·)
        | digits => readExponentDigits digits
      else none

end Highlighter.Digits
