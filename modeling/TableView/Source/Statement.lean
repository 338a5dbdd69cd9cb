import TableView.Error
import TableView.Merge.Token
import TableView.Text.Blank

/-!
# SQL statements

Only a text that is one SELECT statement without merge tokens may be run. The text is cut into
lexemes; a semicolon outside parentheses ends a statement, and blanks and a line comment on the
same line still belong to it. Semicolons inside quotes and comments do not count. What kind of
statement it is follows from its first keyword.
-/

namespace TableView.Source

/-- A piece of an SQL text that is looked at as a whole. -/
inductive Lexeme
  | blank
  | newline
  | lineComment
  | blockComment
  | quoted
  | word (letters : List Char)
  | opening
  | closing
  | semicolon
  | other (c : Char)
  deriving DecidableEq

namespace Lexeme

/-- Whether the character can stand in a word. -/
def isWordChar (c : Char) : Bool :=
  Merge.isIdentifier c || c == '$' || c == '#' || (0x80 ≤ c.toNat && !Text.isBlank c)

/-- Whether a word can start with the character. -/
def isWordStart (c : Char) : Bool :=
  isWordChar c && c != '$' && c != '#'

/-- The text after a quoted piece whose opening quote has been read. A doubled quote does not end
it, nor does one after a backslash where `slashes` says so; but if the piece would not end
otherwise, the last such quote does. -/
def afterQuote (quote : Char) (slashes : Bool) : List Char → Option (List Char)
  | [] => none
  | c :: d :: rest =>
    if c = quote then
      if d = quote then (afterQuote quote slashes rest).or (some (d :: rest))
      else some (d :: rest)
    else if slashes && c == '\\' && d == quote then
      (afterQuote quote slashes rest).or (some rest)
    else afterQuote quote slashes (d :: rest)
  | [c] => if c = quote then some [] else none

/-- The text after the end of a block comment whose start has been read. -/
def afterBlock : List Char → Option (List Char)
  | '*' :: '/' :: rest => some rest
  | _ :: rest => afterBlock rest
  | [] => none

/-- The text after the end of the line, which belongs to the comment on it. -/
def afterLine (cs : List Char) : List Char :=
  match cs.dropWhile fun c => c != '\n' && c != '\r' with
  | '\r' :: '\n' :: rest => rest
  | _ :: rest => rest
  | [] => []

/-- The first lexeme of a text that starts with `c`, and the text after it. -/
def first (c : Char) (rest : List Char) : Lexeme × List Char :=
  if c = '\'' || c = '"' || c = '`' then
    match afterQuote c (c != '`') rest with
    | some after => (quoted, after)
    | none => (other c, rest)
  else if c = '-' && rest.head? == some '-' then (lineComment, afterLine rest)
  else if c = '#' && rest.head? == some ' ' then (lineComment, afterLine rest)
  else if c = '/' && rest.head? == some '*' then
    match afterBlock rest.tail with
    | some after => (blockComment, after)
    | none => (other c, rest)
  else if c = '\r' && rest.head? == some '\n' then (newline, rest.tail)
  else if c = '\n' || c = '\r' then (newline, rest)
  else if Text.isBlank c then (blank, rest)
  else if c = '(' then (opening, rest)
  else if c = ')' then (closing, rest)
  else if c = ';' then (semicolon, rest)
  else if isWordStart c then (word (c :: rest.takeWhile isWordChar), rest.dropWhile isWordChar)
  else (other c, rest)

/-- The lexemes of a text; the fuel bounds their number. -/
def scan : Nat → List Char → List Lexeme
  | 0, _ => []
  | _, [] => []
  | fuel + 1, c :: rest =>
    let (lexeme, after) := first c rest
    lexeme :: scan fuel after

/-- Whether the lexeme leaves a piece blank. -/
def isSpace : Lexeme → Bool
  | blank | newline => true
  | _ => false

/-- Whether the lexeme can be skipped before the first keyword. -/
def isSkipped : Lexeme → Bool
  | blank | newline | lineComment | blockComment => true
  | _ => false

end Lexeme

/-- Cut lexemes into statements. `depth` counts open parentheses, `ended` says whether the
semicolon of the current statement has been seen. -/
def cut : Int → Bool → List Lexeme → List Lexeme → List (List Lexeme)
  | _, _, current, [] => [current.reverse]
  | depth, ended, current, l :: rest =>
    if ended && l != .blank && l != .lineComment then
      let depth := if l = .opening then 1 else if l = .closing then -1 else 0
      current.reverse :: cut depth (l == .semicolon) [l] rest
    else
      let depth := if l = .opening then depth + 1 else if l = .closing then depth - 1 else depth
      cut depth (ended || (l == .semicolon && depth ≤ 0)) (l :: current) rest

/-- The statements of a text that are not blank. -/
def statements (query : String) : List (List Lexeme) :=
  (cut 0 false [] (Lexeme.scan query.length query.toList)).filter (!·.all Lexeme.isSpace)

/-- A word in capitals. -/
def capitals (letters : List Char) : String :=
  String.ofList (letters.map Char.toUpper)

/-- The keyword that starts the lexemes. A word right before a parenthesis, or before a point, is
a name. -/
def keyword? : List Lexeme → Option String
  | .word letters :: rest =>
    if rest.head? == some .opening then none
    else if (rest.dropWhile Lexeme.isSpace).head? == some (.other '.') then none
    else some (capitals letters)
  | _ => none

/-- The keywords that read or change data. -/
def dataKeywords : List String := ["SELECT", "INSERT", "UPDATE", "DELETE"]

/-- The first data keyword outside parentheses. `depth` counts open parentheses. -/
def dataKeyword? : Nat → List Lexeme → Option String
  | _, [] => none
  | depth, l :: rest =>
    match l with
    | .opening => dataKeyword? (depth + 1) rest
    | .closing => dataKeyword? (depth - 1) rest
    | _ =>
      match keyword? (l :: rest) with
      | some name => if depth = 0 && dataKeywords.contains name then some name
        else dataKeyword? depth rest
      | none => dataKeyword? depth rest

/-- The keyword that says what a statement does; after a list of named queries it is the first
data keyword. -/
def kind? (statement : List Lexeme) : Option String :=
  let body := statement.dropWhile Lexeme.isSkipped
  match keyword? body with
  | some "WITH" =>
    match body.tail.dropWhile Lexeme.isSkipped with
    | first :: rest =>
      if (keyword? (first :: rest)).any dataKeywords.contains then none
      else dataKeyword? (if first = .opening then 1 else 0) rest
    | [] => none
  | other => other

/-- Accept a query that is one SELECT statement and holds no merge token. Specified in
`SPEC_FULL.md` 6. -/
def checkSelect (query : String) : Except Error Unit :=
  if Text.isBlankText query then .error .emptyQuery
  else
    match statements query with
    | [statement] =>
      if kind? statement ≠ some "SELECT" then .error .notSelect
      else if !(Merge.tokenNames query.toList).isEmpty then .error .unresolvedFields
      else .ok ()
    | _ => .error .severalStatements

end TableView.Source
