import TableView.Text.Blank
import TableView.Text.DecimalDigit
import TableView.Number.Reader

/-!
# Integers in text

An integer in text is trimmed of white space and has an optional sign and decimal digits, with a
single underscore allowed between two of them. A text with more than 4300 digits is no integer.
-/

namespace TableView.Number

/-- The most digits an integer in text may have. -/
def maxIntegerDigits : Nat := 4300

/-- What is said of an integer that has too many digits to be written. -/
def tooManyDigits : String :=
  "Exceeds the limit (" ++ toString maxIntegerDigits ++
    " digits) for integer string conversion; use sys.set_int_max_str_digits() to increase the limit"

/-- The digits of a text that start with a digit, end with one, and have at most one underscore
between two of them. -/
def digitGroups? (value? : Char → Option Nat) : List Char → Option (List Nat)
  | [] => none
  | [c] => (value? c).map ([·])
  | c :: '_' :: rest => do
    let d ← value? c
    let more ← digitGroups? value? rest
    return d :: more
  | c :: rest => do
    let d ← value? c
    let more ← digitGroups? value? rest
    return d :: more

/-- The number that a list of digit values writes, most significant first. -/
def natOfValues (digits : List Nat) : Nat :=
  digits.foldl (fun n d => 10 * n + d) 0

/-- A signed integer with grouped digits, at most `maxIntegerDigits` of them. -/
def signedInteger? (value? : Char → Option Nat) (cs : List Char) : Option Int :=
  let (negative, rest) := splitSign cs
  match digitGroups? value? rest with
  | none => none
  | some digits =>
    if maxIntegerDigits < digits.length then none
    else some (if negative then -(natOfValues digits : Int) else natOfValues digits)

/-- The integer in a text, with digits of any script. -/
def integerOfText? (s : String) : Option Int :=
  signedInteger? Text.digitValue? (Text.trimBy Text.isSpace s.toList)

/-- The integer in a byte string, read as ASCII. -/
def integerOfBytes? (bytes : List UInt8) : Option Int :=
  let chars := bytes.map fun b => Char.ofNat b.toNat
  let isAsciiSpace (c : Char) : Bool := c.toNat == 0x20 || (9 ≤ c.toNat && c.toNat ≤ 13)
  signedInteger? asciiDigit? (Text.trimBy isAsciiSpace chars)

end TableView.Number
