import TableView.Number.IntegerText

/-!
# What can be wrong with a JSON text

A fault has a cause and a place: the rest of the text from the first character that cannot be
read. The message gives the place by line, column and number of characters before it.
-/

namespace TableView.Json

/-- Why a text is not JSON. -/
inductive Cause
  | value
  | name
  | colon
  | comma
  | extra
  | unterminated
  | control
  | escape
  | unicodeEscape
  | byteOrderMark
  | digits (count : Nat)
  deriving DecidableEq

/-- A cause, and the text from the place of the fault on. -/
structure Fault where
  cause : Cause
  rest : List Char
  deriving DecidableEq

/-- What a message says about a cause before it gives the place. -/
def Cause.message : Cause → String
  | value => "Expecting value"
  | name => "Expecting property name enclosed in double quotes"
  | colon => "Expecting ':' delimiter"
  | comma => "Expecting ',' delimiter"
  | extra => "Extra data"
  | unterminated => "Unterminated string starting at"
  | control => "Invalid control character at"
  | escape => "Invalid \\escape"
  | unicodeEscape => "Invalid \\uXXXX escape"
  | byteOrderMark => "Unexpected UTF-8 BOM (decode using utf-8-sig)"
  | digits count =>
    "Exceeds the limit (" ++ toString Number.maxIntegerDigits ++
      " digits) for integer string conversion: value has " ++ toString count ++
      " digits; use sys.set_int_max_str_digits() to increase the limit"

/-- The place of a character in a text, from the characters before it: its line, its column, both
from one, and its index. -/
def placeText (before : List Char) : String :=
  let line := before.count '\n' + 1
  let column := (before.reverse.takeWhile (· != '\n')).length + 1
  "line " ++ toString line ++ " column " ++ toString column ++
    " (char " ++ toString before.length ++ ")"

/-- The message of a fault found in a text. A number with too many digits has no place. -/
def Fault.message (source : List Char) (f : Fault) : String :=
  match f.cause with
  | .digits _ => f.cause.message
  | cause =>
    cause.message ++ ": " ++ placeText (source.take (source.length - f.rest.length))

end TableView.Json
