import TableView.Number.IntegerText
import TableView.Schema.Check
import TableView.Value

/-!
# Row limits

A row limit is a positive integer. Any value can be offered as one: its integer part counts, and
what is missing, zero, negative or no number gives the default. Only an infinite number is refused.
-/

namespace TableView.RowLimit

open TableView.Number

/-- The limit where no usable one is given. -/
def standard : Nat := 100

/-- An integer as a row limit. -/
def ofInt (n : Int) : Nat :=
  if 0 < n then n.toNat else standard

/-- A value as a row limit. Specified in `SPEC_FULL.md` 4.3. -/
def ofValue : Value → Schema.Check Nat
  | .int n => .ok (ofInt n)
  | .bool b => .ok (ofInt (if b then 1 else 0))
  | .float (.finite negative significand exponent) =>
    .ok (ofInt (Binary64.truncate negative significand exponent))
  | .float (.infinite _) => .overflow "cannot convert float infinity to integer"
  | .decimal (.finite negative coefficient exponent) =>
    .ok (ofInt (Decimal.truncate negative coefficient exponent))
  | .decimal (.infinite _) => .overflow "cannot convert Infinity to integer"
  | .text s => .ok (((integerOfText? s).map ofInt).getD standard)
  | .bytes content => .ok (((integerOfBytes? content).map ofInt).getD standard)
  | _ => .ok standard

end TableView.RowLimit
