import Highlighter.Number
import Highlighter.Number.Digits
import Highlighter.Text.Blank

/-! Numbers as text fields give them, which is looser than a data format: white space around the
number counts for nothing and nothing but white space is 0, a sign and a lone decimal point are
allowed, whole numbers may be written to the bases 2, 8 and 16, and there is a word for infinity.
-/

namespace Highlighter.Numeral

/-- The value of a digit to a base. -/
def digit? (base : Nat) (c : Char) : Option Nat :=
  match Digits.hexValue? c with
  | some value => if value < base then some value else none
  | none => none

/-- The natural number that digits to a base write. -/
def readBase (base : Nat) : Nat → List Char → Option Nat
  | n, [] => some n
  | n, c :: rest => (digit? base c).bind fun value => readBase base (base * n + value) rest

/-- A whole number after the mark of its base. -/
def readMarked (base : Nat) (digits : List Char) : Option Number :=
  if digits.isEmpty then none
  else (readBase base 0 digits).map fun n => .ofQuotient false n 1

/-- The digits after a decimal point, none without a point, and the rest. -/
def splitFraction : List Char → List Char × List Char
  | '.' :: rest => (rest.takeWhile Char.isDigit, rest.dropWhile Char.isDigit)
  | text => ([], text)

/-- A decimal: digits before or after a point, and an exponent. -/
def readDecimal (negative : Bool) (text : List Char) : Option Number :=
  let whole := text.takeWhile Char.isDigit
  let (fraction, rest) := splitFraction (text.dropWhile Char.isDigit)
  if whole.isEmpty && fraction.isEmpty then none
  else
    (Digits.readExponent rest).map fun exponent =>
      .ofDecimal negative (Digits.readNat (whole ++ fraction)) (exponent - fraction.length)

/-- A decimal or the word for infinity. -/
def readUnsigned (negative : Bool) (text : List Char) : Option Number :=
  if text = "Infinity".toList then some (.infinite negative)
  else readDecimal negative text

/-- A number without white space around it. -/
def readTrimmed : List Char → Option Number
  | [] => some (.finite 0)
  | '+' :: rest => readUnsigned false rest
  | '-' :: rest => readUnsigned true rest
  | '0' :: mark :: rest =>
      if mark = 'x' || mark = 'X' then readMarked 16 rest
      else if mark = 'o' || mark = 'O' then readMarked 8 rest
      else if mark = 'b' || mark = 'B' then readMarked 2 rest
      else readUnsigned false ('0' :: mark :: rest)
  | text => readUnsigned false text

/-- A text without the white space at its ends. -/
def trim (text : List Char) : List Char :=
  ((text.dropWhile Text.isBlank).reverse.dropWhile Text.isBlank).reverse

/-- The number that a text gives. -/
def read? (text : String) : Option Number :=
  readTrimmed (trim text.toList)

end Highlighter.Numeral
