import TableView.Number.Rounding

/-!
# Binary floating-point numbers of 64 bits

A finite number is `± significand · 2 ^ exponent`. The constructors of this module give its normal
form: the significand is below `2 ^ 53`, the exponent lies between -1074 and 971, and the
significand is at least `2 ^ 52` unless the exponent is the least one. Every number read is the
one nearest to the exact value, a tie goes to the even significand, and a value past the largest
finite number is infinite.
-/

namespace TableView.Number

/-- A floating-point number with 53 bits of precision. -/
inductive Binary64
  | finite (negative : Bool) (significand : Nat) (exponent : Int)
  | infinite (negative : Bool)
  | nan
  deriving DecidableEq

namespace Binary64

/-- The exponent of the smallest positive number. -/
def minExponent : Int := -1074

/-- The exponent of the largest finite numbers. -/
def maxExponent : Int := 971

/-- Zero with a sign. -/
def zero (negative : Bool) : Binary64 := finite negative 0 minExponent

/-- The number of a rounded significand, which may have reached `2 ^ 53`. -/
def ofSignificand (negative : Bool) (significand : Nat) (exponent : Int) : Binary64 :=
  let carried := significand == Nat.pow 2 53
  let exponent := if carried then exponent + 1 else exponent
  if maxExponent < exponent then infinite negative
  else finite negative (if carried then Nat.pow 2 52 else significand) exponent

/-- The number nearest to a ratio. -/
def ofRatio (negative : Bool) (r : Ratio) : Binary64 :=
  if r.num = 0 then zero negative
  else
    let guess : Int := (r.num.log2 : Int) - r.den.log2 - 53
    let fitted := if (r.unscale 2 guess).floor < Nat.pow 2 53 then guess else guess + 1
    let exponent := max fitted minExponent
    ofSignificand negative (r.unscale 2 exponent).round exponent

/-- The number nearest to `digits · 10 ^ exponent`. Powers far outside the range of finite
numbers are settled by the position of the decimal point alone. -/
def ofScientific (negative : Bool) (digits : Nat) (exponent : Int) : Binary64 :=
  let point := digitCount digits + exponent
  if digits = 0 || point < -400 then zero negative
  else if 400 < point then infinite negative
  else ofRatio negative (Ratio.scale digits 10 exponent)

/-- The number nearest to an integer. -/
def ofInt (n : Int) : Binary64 :=
  ofRatio (n < 0) ⟨n.natAbs, 1⟩

/-- The absolute value of a finite number. -/
def magnitude (significand : Nat) (exponent : Int) : Ratio :=
  Ratio.scale significand 2 exponent

/-- The exact value of a finite number. -/
def toRat (negative : Bool) (significand : Nat) (exponent : Int) : Rat :=
  let r := magnitude significand exponent
  let value := (r.num : Rat) / (r.den : Rat)
  if negative then -value else value

/-- Whether the number is not zero. -/
def isNonzero : Binary64 → Bool
  | finite _ significand _ => significand != 0
  | _ => true

/-- The integer part, towards zero, of a finite number. -/
def truncate (negative : Bool) (significand : Nat) (exponent : Int) : Int :=
  let whole : Int := (magnitude significand exponent).floor
  if negative then -whole else whole

/-- Whether a finite number has no fraction. -/
def isWhole (significand : Nat) (exponent : Int) : Bool :=
  let r := magnitude significand exponent
  r.num % r.den == 0

end Binary64

end TableView.Number
