import TableView.Number.Reader

/-!
# Calendar dates

A date is a year, a month and a day; its text is the ISO form, year first.
-/

namespace TableView

/-- A calendar date. -/
structure Date where
  year : Nat
  month : Nat
  day : Nat
  deriving DecidableEq

namespace Date

/-- The decimal digits of a number, padded with zeros to a width. -/
def padded (width n : Nat) : String :=
  let digits := Nat.toDigits 10 n
  String.ofList (List.replicate (width - digits.length) '0' ++ digits)

/-- The ISO form of a date. -/
def text (d : Date) : String :=
  padded 4 d.year ++ "-" ++ padded 2 d.month ++ "-" ++ padded 2 d.day

/-- Read a date in ISO form. -/
def read? (s : String) : Option Date :=
  match s.toList with
  | [y1, y2, y3, y4, '-', m1, m2, '-', d1, d2] =>
    if [y1, y2, y3, y4, m1, m2, d1, d2].all Number.isAsciiDigit then
      some ⟨Number.natOfDigits [y1, y2, y3, y4], Number.natOfDigits [m1, m2],
        Number.natOfDigits [d1, d2]⟩
    else none
  | _ => none

end Date

end TableView
