import TableView.Number.Binary64

/-!
# The fewest digits that read back

Among the decimal numbers that read back as a given binary number, the one with the fewest
digits is written, and of two such numbers the nearer. For each count of digits only the two
neighbours of the value on the decimal grid of that count can read back, so the two are tried,
for one digit, two digits, up to seventeen, which always suffice.
-/

namespace TableView.Number

/-- A decimal number `0.digits · 10 ^ point`, its digits written without a leading zero. -/
structure DecimalDigits where
  digits : List Char
  point : Int
  deriving DecidableEq

namespace Binary64

/-- The neighbour of a positive ratio on the grid of `count` digits that reads back as `x`. -/
def neighbour? (x : Binary64) (r : Ratio) (count : Nat) : Option (Nat × Int) :=
  let unit := r.pointPosition - count
  let scaled := r.unscale 10 unit
  let below := scaled.floor
  let reads (n : Nat) : Bool := n != 0 && ofScientific false n unit == x
  match reads below, reads (below + 1) with
  | true, true => some (if scaled.round == below then below else below + 1, unit)
  | true, false => some (below, unit)
  | false, true => some (below + 1, unit)
  | false, false => none

/-- The digits of `n · 10 ^ unit`, without the zeros at their end. -/
def DecimalDigits.ofGrid (n : Nat) (unit : Int) : DecimalDigits :=
  let digits := Nat.toDigits 10 n
  let kept := (digits.reverse.dropWhile (· == '0')).reverse
  ⟨kept, digits.length + unit⟩

/-- The shortest digits that read back as a positive finite number. -/
def shortest (significand : Nat) (exponent : Int) : DecimalDigits :=
  let x := finite false significand exponent
  let r := magnitude significand exponent
  match (List.range 17).findSome? fun i => x.neighbour? r (i + 1) with
  | some (n, unit) => DecimalDigits.ofGrid n unit
  | none => ⟨['0'], 1⟩

end Binary64

end TableView.Number
