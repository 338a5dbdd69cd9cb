import TableView.Number.Decimal

/-!
# Reading numbers from text

The plain scientific notation that both number types share: an optional sign, digits with at most
one point among them, and an optional exponent of ten.
-/

namespace TableView.Number

/-- The value of an ASCII digit. -/
def asciiDigit? (c : Char) : Option Nat :=
  if '0' ≤ c ∧ c ≤ '9' then some (c.toNat - 48) else none

/-- Whether the character is an ASCII digit. -/
def isAsciiDigit (c : Char) : Bool :=
  '0' ≤ c && c ≤ '9'

/-- The number that a list of ASCII digits writes, most significant first. -/
def natOfDigits (cs : List Char) : Nat :=
  cs.foldl (fun n c => 10 * n + (c.toNat - 48)) 0

/-- A sign, its absence read as plus, and the rest of the text. -/
def splitSign : List Char → Bool × List Char
  | '-' :: rest => (true, rest)
  | '+' :: rest => (false, rest)
  | cs => (false, cs)

/-- The parts of a number in scientific notation: sign, digits as one number, exponent of ten. -/
structure Scientific where
  negative : Bool
  digits : Nat
  exponent : Int

/-- The exponent part of a number, or zero where there is none. -/
def readExponent? : List Char → Option Int
  | [] => some 0
  | c :: rest =>
    if c = 'e' || c = 'E' then
      let (negative, digits) := splitSign rest
      if digits.isEmpty || !digits.all isAsciiDigit then none
      else some (if negative then -(natOfDigits digits : Int) else natOfDigits digits)
    else none

/-- Read a number in scientific notation. -/
def Scientific.read? (cs : List Char) : Option Scientific :=
  let (negative, rest) := splitSign cs
  let whole := rest.takeWhile isAsciiDigit
  let rest := rest.dropWhile isAsciiDigit
  let (fraction, rest) := match rest with
    | '.' :: tail => (tail.takeWhile isAsciiDigit, tail.dropWhile isAsciiDigit)
    | other => ([], other)
  if (whole ++ fraction).isEmpty then none
  else (readExponent? rest).map fun e =>
    ⟨negative, natOfDigits (whole ++ fraction), e - fraction.length⟩

/-- Read a binary number: scientific notation, `inf`, `-inf` or `nan`. -/
def Binary64.read? (s : String) : Option Binary64 :=
  if s = "inf" then some (.infinite false)
  else if s = "-inf" then some (.infinite true)
  else if s = "nan" then some .nan
  else (Scientific.read? s.toList).map fun n => .ofScientific n.negative n.digits n.exponent

/-- Read a decimal: scientific notation, `Infinity`, `-Infinity` or `NaN`. -/
def Decimal.read? (s : String) : Option Decimal :=
  if s = "Infinity" then some (.infinite false)
  else if s = "-Infinity" then some (.infinite true)
  else if s = "NaN" then some .nan
  else (Scientific.read? s.toList).map fun n => .finite n.negative n.digits n.exponent

end TableView.Number
