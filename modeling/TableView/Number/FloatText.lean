import TableView.Number.Shortest

/-!
# The text of a binary number

The shortest digits that read back, positional where the decimal exponent is at least -4 and below
16, and otherwise with an exponent that has a sign and at least two digits. A positional number
always shows a fraction.
-/

namespace TableView.Number

/-- The digits with the point after the first `point` of them, and zeros where there are none. -/
def DecimalDigits.positional (d : DecimalDigits) : List Char :=
  let n := d.digits.length
  if d.point ≤ 0 then
    '0' :: '.' :: List.replicate (-d.point).toNat '0' ++ d.digits
  else
    let whole := d.point.toNat
    if n ≤ whole then d.digits ++ List.replicate (whole - n) '0' ++ ['.', '0']
    else d.digits.take whole ++ '.' :: d.digits.drop whole

/-- The digits with the point after the first, and the exponent of ten. -/
def DecimalDigits.scientific (d : DecimalDigits) : List Char :=
  let exponent := d.point - 1
  let sign := if exponent < 0 then '-' else '+'
  let power := Nat.toDigits 10 exponent.natAbs
  let fraction := d.digits.drop 1
  d.digits.take 1 ++ (if fraction.isEmpty then [] else '.' :: fraction) ++
    'e' :: sign :: List.replicate (2 - power.length) '0' ++ power

namespace Binary64

/-- The text of a positive finite number or zero. -/
def magnitudeText (significand : Nat) (exponent : Int) : List Char :=
  if significand = 0 then ['0', '.', '0']
  else
    let d := shortest significand exponent
    if -4 ≤ d.point - 1 && d.point - 1 < 16 then d.positional else d.scientific

/-- The text of a number. -/
def text : Binary64 → String
  | finite negative significand exponent =>
    String.ofList ((if negative then ['-'] else []) ++ magnitudeText significand exponent)
  | infinite negative => if negative then "-inf" else "inf"
  | nan => "nan"

/-- The number nearest to this one's decimal value at sixteen significant digits. -/
def roundedTo16 : Binary64 → Binary64
  | finite negative significand exponent =>
    if significand = 0 then finite negative significand exponent
    else
      let r := magnitude significand exponent
      let unit := r.pointPosition - 16
      ofScientific negative (r.unscale 10 unit).round unit
  | other => other

end Binary64

end TableView.Number
