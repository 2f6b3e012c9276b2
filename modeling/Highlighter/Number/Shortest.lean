import Highlighter.Number

/-! The shortest decimal that reads back: among the decimals that round to a given binary64 value,
one with the fewest digits, and of those the nearest. Grids of decimals are tried from coarse to
fine, each at the value's two neighbours, because a grid with any point in the value's rounding
interval has one of these two in it.
-/

namespace Highlighter

/-- A positive decimal `digits · 10^exponent`. -/
structure Decimal where
  digits : Nat
  exponent : Int
deriving DecidableEq, Repr

namespace Decimal

/-- The value of a decimal, as a quotient of natural numbers. -/
def quotient (decimal : Decimal) : Nat × Nat :=
  (decimal.digits * Nat.pow 10 decimal.exponent.toNat,
    Nat.pow 10 (-decimal.exponent).toNat)

/-- A positive binary64 value in units of a quarter of its last bit, with the two ends of the
interval of reals that round to it. The lower half is narrower at a power of two, and the ends
belong to the interval when the value's last bit is even.
-/
structure Interval where
  lower : Nat
  center : Nat
  upper : Nat
  closed : Bool
  lastBit : Int

/-- The rounding interval of the positive value `num / den`. -/
def interval (num den : Nat) : Interval :=
  let lastBit := Number.lastBit num den
  let units := Number.nearestUnits num den
  let narrow := units == 4503599627370496 && -1074 < lastBit
  {
    lower := 4 * units - (if narrow then 1 else 2),
    center := 4 * units,
    upper := 4 * units + 2,
    closed := units % 2 == 0,
    lastBit
  }

/-- The decimal scaled to the interval's quarter units, as a quotient. -/
def inQuarters (decimal : Decimal) (interval : Interval) : Nat × Nat :=
  let (num, den) := decimal.quotient
  let shift := interval.lastBit - 2
  (num * Nat.pow 2 (-shift).toNat, den * Nat.pow 2 shift.toNat)

/-- A decimal lies in the interval of reals that round to the value. -/
def readsBack (decimal : Decimal) (interval : Interval) : Bool :=
  let (num, den) := decimal.inQuarters interval
  if interval.closed then interval.lower * den ≤ num && num ≤ interval.upper * den
  else interval.lower * den < num && num < interval.upper * den

/-- The distance of a decimal from the value, over a denominator that only its exponent decides. -/
def distance (decimal : Decimal) (interval : Interval) : Nat :=
  let (num, den) := decimal.inQuarters interval
  (num - interval.center * den) + (interval.center * den - num)

/-- The better of a grid's two neighbours of the value that reads back, the even one on a tie. -/
def onGrid (num den : Nat) (interval : Interval) (exponent : Int) : Option Decimal :=
  let below := num * Nat.pow 10 (-exponent).toNat / (den * Nat.pow 10 exponent.toNat)
  let lower : Decimal := ⟨below, exponent⟩
  let upper : Decimal := ⟨below + 1, exponent⟩
  match lower.readsBack interval, upper.readsBack interval with
  | false, false => none
  | true, false => some lower
  | false, true => some upper
  | true, true =>
      let near := lower.distance interval
      let far := upper.distance interval
      if near < far || (near == far && below % 2 == 0) then some lower else some upper

/-- The number of digits before the decimal point of `num / den`: the `n` with
`10^(n - 1) ≤ num / den < 10^n`. The leading bit gives it up to two.
-/
def pointPosition (num den : Nat) : Int :=
  let guess := (Number.leadingBit num den * 30103).fdiv 100000
  let below (n : Int) : Bool :=
    num * Nat.pow 10 (-n).toNat < den * Nat.pow 10 n.toNat
  if below guess then guess
  else if below (guess + 1) then guess + 1
  else guess + 2

/-- The first grid of `count`, `count + 1`, … digits that has a decimal that reads back. -/
def firstGrid (num den : Nat) (interval : Interval) (point : Int)
    : Nat → Nat → Option Decimal
  | _, 0 => none
  | count, fuel + 1 =>
      match onGrid num den interval (point - count) with
      | some decimal => some decimal
      | none => firstGrid num den interval point (count + 1) fuel

/-- A decimal without zeros at its end. -/
def trimZeros (digits : Nat) (exponent : Int) : Nat → Decimal
  | 0 => ⟨digits, exponent⟩
  | fuel + 1 =>
      if digits % 10 = 0 then trimZeros (digits / 10) (exponent + 1) fuel
      else ⟨digits, exponent⟩

/-- The shortest decimal that reads back as the positive binary64 value `num / den`. Seventeen
digits always suffice.
-/
def shortest (num den : Nat) : Decimal :=
  let interval := interval num den
  match firstGrid num den interval (pointPosition num den) 1 17 with
  | some decimal => trimZeros decimal.digits decimal.exponent 17
  | none => ⟨0, 0⟩

end Decimal

end Highlighter
