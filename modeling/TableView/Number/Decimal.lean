import TableView.Number.Rounding
import TableView.Number.Binary64

/-!
# Decimal numbers of any precision

A finite decimal is `± coefficient · 10 ^ exponent` and keeps its zeros at the end. Its text is
positional while the exponent is not positive and the first digit stands at most six places after
the point; otherwise it has an exponent of ten.
-/

namespace TableView.Number

/-- A decimal number. -/
inductive Decimal
  | finite (negative : Bool) (coefficient : Nat) (exponent : Int)
  | infinite (negative : Bool)
  | nan
  deriving DecidableEq

namespace Decimal

/-- The exact value of a finite decimal. -/
def toRat (negative : Bool) (coefficient : Nat) (exponent : Int) : Rat :=
  let r := Ratio.scale coefficient 10 exponent
  let value := (r.num : Rat) / (r.den : Rat)
  if negative then -value else value

/-- Whether the decimal is not zero. -/
def isNonzero : Decimal → Bool
  | finite _ coefficient _ => coefficient != 0
  | _ => true

/-- The integer part, towards zero, of a finite decimal. -/
def truncate (negative : Bool) (coefficient : Nat) (exponent : Int) : Int :=
  let whole : Int := (Ratio.scale coefficient 10 exponent).floor
  if negative then -whole else whole

/-- The text of a finite decimal without its sign. -/
def magnitudeText (coefficient : Nat) (exponent : Int) : List Char :=
  let digits := Nat.toDigits 10 coefficient
  let left : Int := exponent + digits.length
  let positional := exponent ≤ 0 && -6 < left
  let point := if positional then left else 1
  let mantissa :=
    if point ≤ 0 then '0' :: '.' :: List.replicate (-point).toNat '0' ++ digits
    else if digits.length ≤ point then digits ++ List.replicate (point.toNat - digits.length) '0'
    else digits.take point.toNat ++ '.' :: digits.drop point.toNat
  if left = point then mantissa
  else
    let power := left - point
    mantissa ++ 'E' :: (if power < 0 then '-' else '+') :: Nat.toDigits 10 power.natAbs

/-- The text of a decimal. -/
def text : Decimal → String
  | finite negative coefficient exponent =>
    String.ofList ((if negative then ['-'] else []) ++ magnitudeText coefficient exponent)
  | infinite negative => if negative then "-Infinity" else "Infinity"
  | nan => "NaN"

/-- A finite binary number at a fixed count of decimal places, to the nearest and ties to even. -/
def ofBinary (places : Nat) : Binary64 → Decimal
  | .finite negative significand exponent =>
    let r := Binary64.magnitude significand exponent
    finite negative (r.unscale 10 (-(places : Int))).round (-(places : Int))
  | .infinite negative => infinite negative
  | .nan => nan

/-- An integer at a fixed count of decimal places. -/
def ofInt (places : Nat) (n : Int) : Decimal :=
  finite (n < 0) (n.natAbs * Nat.pow 10 places) (-(places : Int))

end Decimal

end TableView.Number
