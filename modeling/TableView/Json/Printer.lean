import TableView.Json.Quoted
import TableView.Text.Encoding
import TableView.Value

/-!
# Writing JSON

A style fixes the two separators and whether the text is kept in ASCII. Numbers are written as
their texts; an infinite or undefined number has a name of its own. A value that JSON has no form
for is written as a string of its text.
-/

namespace TableView.Json

open TableView.Number

/-- How a JSON text is laid out. -/
structure Style where
  comma : List Char
  colon : List Char
  ascii : Bool

/-- Stored documents: a blank after each separator, and nothing but ASCII. -/
def Style.stored : Style := ⟨[',', ' '], [':', ' '], true⟩

/-- Answers sent over a connection: no blanks, and characters as they are. -/
def Style.compact : Style := ⟨[','], [':'], false⟩

/-- A floating-point number. -/
def encodeFloat : Binary64 → List Char
  | .nan => "NaN".toList
  | .infinite negative => (if negative then "-Infinity" else "Infinity").toList
  | x => x.text.toList

mutual

/-- The JSON text of a value. -/
def encode (style : Style) : Value → List Char
  | .null => "null".toList
  | .bool b => (if b then "true" else "false").toList
  | .int n => (toString n).toList
  | .float x => encodeFloat x
  | .text s => encodeString style.ascii s
  | .list items => '[' :: encodeItems style items ++ [']']
  | .object entries => '{' :: encodeMembers style entries ++ ['}']
  | .decimal d => encodeString style.ascii d.text
  | .date d => encodeString style.ascii d.text
  | .bytes content =>
    encodeString style.ascii (String.ofList (Text.decodeUtf8Replacing content.length content))

/-- The items of a list, a separator between two of them. -/
def encodeItems (style : Style) : List Value → List Char
  | [] => []
  | [v] => encode style v
  | v :: rest => encode style v ++ style.comma ++ encodeItems style rest

/-- The members of an object, a separator between two of them. -/
def encodeMembers (style : Style) : List (String × Value) → List Char
  | [] => []
  | [(key, v)] => encodeString style.ascii key ++ style.colon ++ encode style v
  | (key, v) :: rest =>
    encodeString style.ascii key ++ style.colon ++ encode style v ++ style.comma ++
      encodeMembers style rest

end

/-- The JSON text of a value. -/
def print (style : Style) (v : Value) : String :=
  String.ofList (encode style v)

end TableView.Json
