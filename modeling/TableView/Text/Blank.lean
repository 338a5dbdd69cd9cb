/-!
# Blank characters and trimming

Two classes of blank characters are in use: `isSpace` is the Unicode property `White_Space`;
`isBlank` adds the four information separators U+001C to U+001F. Names, labels and queries are
trimmed by `isBlank`; numbers in text are trimmed by `isSpace`. The zero-width space is in neither.
-/

namespace TableView.Text

/-- Whether the character has the Unicode property `White_Space`. -/
def isSpace (c : Char) : Bool :=
  let n := c.toNat
  (9 ≤ n && n ≤ 13) || n == 0x20 || n == 0x85 || n == 0xa0 || n == 0x1680 ||
    (0x2000 ≤ n && n ≤ 0x200a) || n == 0x2028 || n == 0x2029 || n == 0x202f || n == 0x205f ||
    n == 0x3000

/-- Whether the character is white space or an information separator. -/
def isBlank (c : Char) : Bool :=
  isSpace c || (0x1c ≤ c.toNat && c.toNat ≤ 0x1f)

/-- Drop the characters of a class from the end of a text. -/
def dropWhileEnd (p : Char → Bool) (cs : List Char) : List Char :=
  (cs.reverse.dropWhile p).reverse

/-- Drop the characters of a class from both ends of a text. -/
def trimBy (p : Char → Bool) (cs : List Char) : List Char :=
  dropWhileEnd p (cs.dropWhile p)

/-- The text without the blank characters at its ends. -/
def trim (s : String) : String :=
  String.ofList (trimBy isBlank s.toList)

/-- Whether nothing is left of the text after trimming. -/
def isBlankText (s : String) : Bool :=
  s.toList.all isBlank

end TableView.Text
