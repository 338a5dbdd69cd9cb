/-!
# Ratios, powers and rounding to nearest

Exact arithmetic on ratios of natural numbers, on which reading and writing of binary and decimal
numbers rests. A quotient is rounded to the nearest integer, and a tie goes to the even one.
-/

namespace TableView.Number

/-- A ratio of natural numbers; the denominator is positive in every use. -/
structure Ratio where
  num : Nat
  den : Nat
  deriving DecidableEq

namespace Ratio

/-- The ratio `n · base ^ exponent`. -/
def scale (n base : Nat) (exponent : Int) : Ratio :=
  ⟨n * base.pow exponent.toNat, base.pow (-exponent).toNat⟩

/-- The ratio divided by `base ^ exponent`. -/
def unscale (r : Ratio) (base : Nat) (exponent : Int) : Ratio :=
  ⟨r.num * base.pow (-exponent).toNat, r.den * base.pow exponent.toNat⟩

/-- The whole part. -/
def floor (r : Ratio) : Nat :=
  r.num / r.den

/-- The nearest natural number; a tie goes to the even one. -/
def round (r : Ratio) : Nat :=
  let q := r.num / r.den
  let rest := r.num % r.den
  if r.den < 2 * rest || (2 * rest == r.den && q % 2 == 1) then q + 1 else q

end Ratio

/-- The number of decimal digits of a natural number; zero has none. -/
def digitCount (n : Nat) : Nat :=
  if n = 0 then 0 else (Nat.toDigits 10 n).length

/-- The position of the decimal point of a positive ratio: the `k` for which the ratio lies in
`[10 ^ (k - 1), 10 ^ k)`. -/
def Ratio.pointPosition (r : Ratio) : Int :=
  if r.den ≤ r.num then digitCount (r.num / r.den)
  else 1 - (digitCount ((r.den + r.num - 1) / r.num - 1) : Int)

end TableView.Number
