import Highlighter.Number.Shortest

/-! The text of a number: its shortest decimal, positional between 10^-7 and 10^21 and with an
exponent beyond.
-/

namespace Highlighter

/-- How the digits of a shortest decimal are laid out. -/
structure NumberLayout where
  /-- The greatest number of digits before the point that positional notation writes. -/
  wholeDigits : Nat
  /-- The greatest number of zeros between the point and the first digit. -/
  leadingZeros : Nat
  /-- What stands between the digits and the exponent. -/
  exponentMark : String
deriving Repr

/-- Numbers are positional up to 21 digits before the point and 5 zeros after it. -/
def NumberLayout.standard : NumberLayout := ⟨21, 5, "e"⟩

namespace NumberLayout

/-- Digits written positionally, with `whole` of them before the point. -/
def positional (digits : String) (whole : Int) : String :=
  let count := digits.length
  if whole ≤ 0 then "0." ++ String.ofList (List.replicate (-whole).toNat '0') ++ digits
  else if count ≤ whole.toNat then
    digits ++ String.ofList (List.replicate (whole.toNat - count) '0')
  else
    String.ofList (digits.toList.take whole.toNat) ++ "."
      ++ String.ofList (digits.toList.drop whole.toNat)

/-- Digits written with one before the point and an explicitly signed exponent. -/
def scientific (layout : NumberLayout) (digits : String) (whole : Int) : String :=
  let exponent := whole - 1
  let sign := if exponent < 0 then "-" else "+"
  let significand := if digits.length = 1 then digits else positional digits 1
  significand ++ layout.exponentMark ++ sign ++ toString exponent.natAbs

/-- The text of a positive decimal. -/
def text (layout : NumberLayout) (decimal : Decimal) : String :=
  let digits := toString decimal.digits
  let whole := digits.length + decimal.exponent
  if whole ≤ layout.wholeDigits && -(layout.leadingZeros : Int) ≤ whole then
    positional digits whole
  else
    layout.scientific digits whole

end NumberLayout

namespace Number

/-- The text of a finite value. -/
def valueText (value : Rat) : String :=
  if value.num = 0 then "0"
  else
    let magnitude := value.num.natAbs
    let text :=
      if value.den = 1 && magnitude < 9007199254740992 then toString magnitude
      else NumberLayout.standard.text (Decimal.shortest magnitude value.den)
    if value.num < 0 then "-" ++ text else text

/-- The text of a number; the sign of a zero is not written. -/
def text : Number → String
  | .finite value => valueText value
  | .negativeZero => "0"
  | .infinite negative => if negative then "-Infinity" else "Infinity"

end Number

/-- The text of an integer, which is that of the nearest number. -/
def integerText (n : Int) : String :=
  (Number.ofInt n).text

end Highlighter
