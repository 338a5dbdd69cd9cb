import TableView.Source.Database
import TableView.Source.Statement

/-!
# Simple selections

The queries that are answered from the rows of a table: some columns, equality conditions joined
by AND, and a limit. Names of tables, columns and keywords are taken in any letter case, and the
keys of the result are the declared names.
-/

namespace TableView.Source

open TableView.Number

/-- A token of a selection. -/
inductive SqlToken
  | word (s : String)
  | number (v : Value)
  | text (s : String)
  | symbol (c : Char)
  deriving BEq

namespace SqlToken

/-- A token as an error shows it. -/
def shown : SqlToken → String
  | word s => s
  | number v => v.toText
  | text s => "'" ++ s ++ "'"
  | symbol c => String.ofList [c]

/-- The content of a quoted text whose opening quote has been read, and what follows it. -/
def quotedText : List Char → List Char × List Char
  | '\'' :: '\'' :: rest => let (s, after) := quotedText rest; ('\'' :: s, after)
  | '\'' :: rest => ([], rest)
  | c :: rest => let (s, after) := quotedText rest; (c :: s, after)
  | [] => ([], [])

/-- Whether the character can stand in a number. -/
def isNumberChar (c : Char) : Bool :=
  isAsciiDigit c || c == '.' || c == 'e' || c == 'E' || c == '+'

/-- The tokens of a text; the fuel bounds their number. -/
def scan : Nat → List Char → List SqlToken
  | 0, _ => []
  | _, [] => []
  | fuel + 1, c :: rest =>
    if Text.isSpace c then scan fuel rest
    else if c = '\'' then
      let (s, after) := quotedText rest
      text (String.ofList s) :: scan fuel after
    else if isAsciiDigit c then
      let digits := c :: rest.takeWhile isNumberChar
      let value := (ColumnType.numberOfText? (String.ofList digits)).getD .null
      number value :: scan fuel (rest.dropWhile isNumberChar)
    else if Lexeme.isWordStart c then
      word (String.ofList (c :: rest.takeWhile Lexeme.isWordChar)) ::
        scan fuel (rest.dropWhile Lexeme.isWordChar)
    else symbol c :: scan fuel rest

end SqlToken

/-- A selection of columns from a table. -/
structure Selection where
  columns : List String
  table : String
  conditions : List (String × Value)
  limit : Option Value

namespace Selection

/-- The error of tokens that do not fit. -/
def syntaxError : List SqlToken → String
  | [] => "incomplete input"
  | t :: _ => "near \"" ++ t.shown ++ "\": syntax error"

/-- Whether two names are the same up to the case of ASCII letters. -/
def sameName (a b : String) : Bool :=
  a.toList.map Char.toLower == b.toList.map Char.toLower

/-- Read column names up to FROM. -/
def readColumns : List SqlToken → Except String (List String × List SqlToken)
  | .word c :: .symbol ',' :: rest => (readColumns rest).map fun r => (c :: r.1, r.2)
  | .word c :: .word f :: rest =>
    if sameName f "from" then .ok ([c], rest) else .error (syntaxError (.word f :: rest))
  | .word _ :: rest => .error (syntaxError rest)
  | rest => .error (syntaxError rest)

/-- A literal and what follows it. -/
def readLiteral : List SqlToken → Except String (Value × List SqlToken)
  | .text s :: rest => .ok (.text s, rest)
  | .number v :: rest => .ok (v, rest)
  | .symbol '-' :: .number v :: rest =>
    match v with
    | .int n => .ok (.int (-n), rest)
    | .float (.finite negative significand exponent) =>
      .ok (.float (.finite (!negative) significand exponent), rest)
    | other => .ok (other, rest)
  | .word w :: rest =>
    if sameName w "true" then .ok (.int 1, rest)
    else if sameName w "false" then .ok (.int 0, rest)
    else if sameName w "null" then .ok (.null, rest)
    else .error ("no such column: " ++ w)
  | rest => .error (syntaxError rest)

/-- Read conditions joined by AND; the fuel bounds their number. -/
def readConditions : Nat → List SqlToken →
    Except String (List (String × Value) × List SqlToken)
  | 0, rest => .error (syntaxError rest)
  | fuel + 1, .word c :: .symbol '=' :: rest =>
    match readLiteral rest with
    | .error e => .error e
    | .ok (v, .word w :: after) =>
      if sameName w "and" then
        (readConditions fuel after).map fun r => ((c, v) :: r.1, r.2)
      else .ok ([(c, v)], .word w :: after)
    | .ok (v, after) => .ok ([(c, v)], after)
  | _, rest => .error (syntaxError rest)

/-- Read the limit at the end. -/
def readLimit : List SqlToken → Except String (Option Value)
  | [] => .ok none
  | [.symbol ';'] => .ok none
  | .word w :: .number v :: rest =>
    if sameName w "limit" && (rest.isEmpty || rest == [.symbol ';']) then .ok (some v)
    else .error (syntaxError (.word w :: rest))
  | rest => .error (syntaxError rest)

/-- Read a selection. -/
def read (query : String) : Except String Selection :=
  match SqlToken.scan query.length query.toList with
  | .word s :: rest =>
    if sameName s "select" then
      match readColumns rest with
      | .error e => .error e
      | .ok (columns, .word table :: rest) =>
        let conditions := match rest with
          | .word w :: more =>
            if sameName w "where" then readConditions more.length more else .ok ([], rest)
          | _ => .ok ([], rest)
        match conditions with
        | .error e => .error e
        | .ok (conditions, rest) =>
          (readLimit rest).map fun limit => ⟨columns, table, conditions, limit⟩
      | .ok (_, rest) => .error (syntaxError rest)
    else .error (syntaxError (.word s :: rest))
  | rest => .error (syntaxError rest)

/-- The column of a table that a name means. -/
def column (t : Table) (name : String) : Except String Nat :=
  match t.columns.findIdx? (fun c => sameName c.1 name) with
  | some position => .ok position
  | none => .error ("no such column: " ++ name)

/-- Whether a row meets the conditions, given with the positions of their columns. -/
def meets (t : Table) (conditions : List (Nat × Value)) (row : List Value) : Bool :=
  conditions.all fun c => match t.columns[c.1]? with
    | some info => info.2.equals (Table.cell row c.1) c.2
    | none => false

/-- The largest limit. -/
def maxLimit : Int := 9223372036854775807

/-- The rows that a limit leaves. -/
def limited (rows : List (List Value)) : Option Value → Except String (List (List Value))
  | none => .ok rows
  | some (.int n) => if maxLimit < n then .error "datatype mismatch" else .ok (rows.take n.toNat)
  | some _ => .error "datatype mismatch"

/-- Run a selection: the keys of the result and its rows. -/
def run (db : Database) (s : Selection) : Except String (List String × List (List Value)) :=
  match db.tables.find? (sameName ·.name s.table) with
  | none => .error ("no such table: " ++ s.table)
  | some t => do
    let positions ← s.columns.mapM (column t)
    let conditions ← s.conditions.mapM fun c => (column t c.1).map (·, c.2)
    let rows ← limited (t.rows.filter (meets t conditions)) s.limit
    return (positions.filterMap fun p => (t.columns[p]?).map (·.1),
      rows.map fun row => positions.map (Table.cell row))

end Selection

end TableView.Source
