import TableView.Field.Basic

/-!
# Merge tokens and placeholders

A query may hold merge tokens `$record.Name`, which stand for a field of the record that is looked
at, and the placeholders `$CurrentUserId` and `$recordId`. The name of a token is the longest run
of identifier characters after the sigil. A placeholder occurs where its text stands and no
identifier character follows; filling replaces the occurrences from left to right.
-/

namespace TableView.Merge

/-- Whether the character is a letter, a digit or an underscore of ASCII. -/
def isIdentifier (c : Char) : Bool :=
  ('A' ≤ c && c ≤ 'Z') || ('a' ≤ c && c ≤ 'z') || ('0' ≤ c && c ≤ '9') || c == '_'

/-- What stands before the name of a merge token. -/
def sigil : List Char := ['$', 'r', 'e', 'c', 'o', 'r', 'd', '.']

/-- The name of the merge token that starts the text. -/
def tokenAt? (cs : List Char) : Option (List Char) :=
  if sigil.isPrefixOf cs then
    match (cs.drop sigil.length).takeWhile isIdentifier with
    | [] => none
    | name => some name
  else none

/-- The names of all merge tokens, in the order of their places. -/
def tokenNames : List Char → List String
  | [] => []
  | c :: rest =>
    match tokenAt? (c :: rest) with
    | some name => String.ofList name :: tokenNames rest
    | none => tokenNames rest

/-- The distinct names of the merge tokens of a query, in the order of first appearance. Specified
in `SPEC_FULL.md` 4.4. -/
def tokens (query : String) : List String :=
  firstOfEach id (tokenNames query.toList)

/-- The merge token of a field name as it stands in a query. -/
def tokenText (name : String) : String := String.ofList sigil ++ name

/-- Whether a placeholder occurs at the start of the text. -/
def occursAt (placeholder cs : List Char) : Bool :=
  placeholder.isPrefixOf cs &&
    match (cs.drop placeholder.length) with
    | next :: _ => !isIdentifier next
    | [] => true

/-- Replace the occurrences of a placeholder, leaving out the first `skip` characters, which
belong to the occurrence before. An empty placeholder occurs before every character that is no
identifier character and at the end. -/
def fillFrom (placeholder literal : List Char) : Nat → List Char → List Char
  | _, [] => if placeholder.isEmpty then literal else []
  | skip + 1, _ :: rest => fillFrom placeholder literal skip rest
  | 0, c :: rest =>
    if occursAt placeholder (c :: rest) then
      if placeholder.isEmpty then literal ++ c :: fillFrom placeholder literal 0 rest
      else literal ++ fillFrom placeholder literal (placeholder.length - 1) rest
    else c :: fillFrom placeholder literal 0 rest

/-- The query with every occurrence of a placeholder replaced by a literal. Specified in
`SPEC_FULL.md` 4.5. -/
def fill (query placeholder literal : String) : String :=
  String.ofList (fillFrom placeholder.toList literal.toList 0 query.toList)

end TableView.Merge
