/-! Numbers as the 64-bit binary format keeps them: a rational with 53 significant bits, a zero
that remembers a minus sign, or an infinity. Every number that enters is rounded to the nearest
such value once, and every difference of columns once more.
-/

namespace Highlighter

/-- The value nearest to `num / den`, the even one of two that are equally near. -/
def roundHalfEven (num den : Nat) : Nat :=
  let quotient := num / den
  let twice := 2 * (num % den)
  if twice < den then quotient
  else if den < twice then quotient + 1
  else quotient + quotient % 2

/-- The nearest natural number with at most 53 significant bits. -/
def nearestNat (n : Nat) : Nat :=
  let spacing := Nat.pow 2 (n.log2 - 52)
  roundHalfEven n spacing * spacing

/-- The nearest integer with at most 53 significant bits. -/
def nearestInt : Int → Int
  | .ofNat n => nearestNat n
  | .negSucc n => -nearestNat (n + 1)

/-- A natural number below 2^53 needs no rounding, since its spacing is 1. -/
theorem nearestNat_of_lt {n : Nat} (h : n < 9007199254740992)
    : nearestNat n = n := by
  have small : n.log2 - 52 = 0 := by
    by_cases zero : n = 0
    · simp [zero]
    · have : n.log2 < 53 := (Nat.log2_lt zero).mpr (by omega)
      omega
  have whole : n % 1 = 0 := Nat.mod_one n
  simp [nearestNat, small, roundHalfEven, whole]

/-- A binary64 value other than a NaN. -/
inductive Number where
  | finite (value : Rat)
  | negativeZero
  | infinite (negative : Bool)
deriving DecidableEq, Repr

namespace Number

/-- The number nearest to an integer. -/
def ofInt (n : Int) : Number :=
  .finite (nearestInt n)

instance : Inhabited Number := ⟨.ofInt 0⟩

/-- The integer that a number is, if it is one; both zeros are 0. -/
def toInt? : Number → Option Int
  | .finite value => if value.den = 1 then some value.num else none
  | .negativeZero => some 0
  | .infinite _ => none

/-- The natural number that a number is, if it is one. -/
def toNat? (number : Number) : Option Nat :=
  match number.toInt? with
  | some (.ofNat n) => some n
  | _ => none

/-- A natural number below 2^53 is read as it was written, since it needs no rounding. -/
theorem toNat?_ofInt {n : Nat} (small : n < 9007199254740992)
    : (ofInt n).toNat? = some n := by
  simp only [toNat?, toInt?, ofInt, nearestInt, nearestNat_of_lt small]
  rfl

/-- Where a number stands on the extended line: its side of the finite values, then its value. -/
def rank : Number → Int × Rat
  | .finite value => (0, value)
  | .negativeZero => (0, 0)
  | .infinite negative => (if negative then -1 else 1, 0)

/-- Numeric order; the two zeros are equal in it. -/
def atMost (a b : Number) : Bool :=
  a.rank.1 < b.rank.1 || (a.rank.1 == b.rank.1 && a.rank.2 ≤ b.rank.2)

/-- The exponent of the leading bit of `num / den`: the `e` with `2^e ≤ num / den < 2^(e + 1)`. -/
def leadingBit (num den : Nat) : Int :=
  let guess : Int := (num.log2 : Int) - den.log2
  if num * Nat.pow 2 (-guess).toNat < den * Nat.pow 2 guess.toNat then guess - 1 else guess

/-- The exponent of the last bit that a positive value near `num / den` can hold. -/
def lastBit (num den : Nat) : Int :=
  let last := leadingBit num den - 52
  if last < -1074 then -1074 else last

/-- The magnitude nearest to `num / den`, as a whole number of units of the last bit. -/
def nearestUnits (num den : Nat) : Nat :=
  let last := lastBit num den
  roundHalfEven (num * Nat.pow 2 (-last).toNat) (den * Nat.pow 2 last.toNat)

/-- The number nearest to `num / den`, of the given sign. -/
def ofQuotient (negative : Bool) (num den : Nat) : Number :=
  if num = 0 then
    if negative then .negativeZero else .finite 0
  else
    let last := lastBit num den
    let units := nearestUnits num den
    let top := units * Nat.pow 2 last.toNat
    let bottom := Nat.pow 2 (-last).toNat
    if units = 0 then
      if negative then .negativeZero else .finite 0
    else if Nat.pow 2 1024 ≤ top then .infinite negative
    else .finite (mkRat (if negative then -top else top) bottom)

/-- The number nearest to the decimal `digits · 10^exponent`, of the given sign. Beyond 10^310 it
is an infinity and below 10^-330 a zero, whatever its digits are, so no power of ten grows with the
exponent's value.
-/
def ofDecimal (negative : Bool) (digits : Nat) (exponent : Int) : Number :=
  let size : Int := (Nat.toDigits 10 digits).length + exponent
  if digits = 0 || size < -330 then ofQuotient negative 0 1
  else if 310 < size then .infinite negative
  else ofQuotient negative (digits * Nat.pow 10 exponent.toNat) (Nat.pow 10 (-exponent).toNat)

end Number

end Highlighter
