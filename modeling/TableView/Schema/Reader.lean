import TableView.Number.IntegerText
import TableView.Schema.Check
import TableView.Value

/-!
# Reading values of the basic types

What a document may hold where a text, an integer, a truth value, a list or an object is asked
for. Texts are taken as they are; integers also come as truth values, whole floating-point numbers
and texts; truth values also come as 0, 1 and a few words.
-/

namespace TableView.Schema

open TableView.Number

/-- Read a text. -/
def string : Value → Check String
  | .text s => .ok s
  | _ => .fault .stringType

/-- Read a text or null. -/
def optional (check : Value → Check α) : Value → Check (Option α)
  | .null => .ok none
  | v => (check v).map some

/-- The digits of an integer text without a point and zeros after it. -/
def dropZeroFraction (cs : List Char) : List Char :=
  let fraction := cs.dropWhile (· != '.')
  if fraction.tail.all (· == '0') then cs.takeWhile (· != '.') else cs

/-- Read an integer from a text. -/
def integerText (s : String) : Check Int :=
  let cs := Text.trimBy Text.isSpace s.toList
  if maxIntegerDigits < cs.length then .fault .intParsingSize
  else
    match signedInteger? asciiDigit? (dropZeroFraction cs) with
    | some n => .ok n
    | none => .fault .intParsing

/-- Read an integer. -/
def integer : Value → Check Int
  | .int n => .ok n
  | .bool b => .ok (if b then 1 else 0)
  | .float (.finite negative significand exponent) =>
    if Binary64.isWhole significand exponent then
      .ok (Binary64.truncate negative significand exponent)
    else .fault .intFromFloat
  | .float _ => .fault .finiteNumber
  | .text s => integerText s
  | _ => .fault .intType

/-- The words for true. -/
def trueWords : List String := ["1", "on", "t", "true", "y", "yes"]

/-- The words for false. -/
def falseWords : List String := ["0", "off", "f", "false", "n", "no"]

/-- Read a truth value. -/
def boolean : Value → Check Bool
  | .bool b => .ok b
  | .int n => if n = 0 then .ok false else if n = 1 then .ok true else .fault .boolParsing
  | .float x =>
    if !x.isNonzero then .ok false
    else if x = .ofInt 1 then .ok true
    else .fault .boolType
  | .text s =>
    let word := String.ofList (s.toList.map Char.toLower)
    if trueWords.contains word then .ok true
    else if falseWords.contains word then .ok false
    else .fault .boolParsing
  | _ => .fault .boolType

/-- Read one of the named choices. -/
def choice (named? : String → Option α) : Value → Check α
  | .text s => match named? s with
    | some a => .ok a
    | none => .fault .enumeration
  | _ => .fault .enumeration

/-- Read a list. -/
def list (check : Value → Check α) : Value → Check (List α)
  | .list items => Check.listFrom check 0 items
  | _ => .fault .listType

/-- Read an object. What is not an object has the given fault. -/
def object (kind : FaultKind) (check : Entries Value → Check α) : Value → Check α
  | .object entries => check entries
  | _ => .fault kind

/-- A member of an object, under its persisted name or else under its other name. -/
def member? (entries : Entries Value) (persisted other : String) : Option Value :=
  (entries.get? persisted).or (entries.get? other)

/-- Read a member that has to be present. -/
def required (entries : Entries Value) (persisted other : String) (check : Value → Check α) :
    Check α :=
  Check.under (.key persisted) <|
    match member? entries persisted other with
    | some v => check v
    | none => .fault .missing

/-- Read a member, or take a default where it is absent. -/
def withDefault (entries : Entries Value) (persisted other : String) (fallback : α)
    (check : Value → Check α) : Check α :=
  match member? entries persisted other with
  | some v => Check.under (.key persisted) (check v)
  | none => .ok fallback

/-- The faults of an object for its members that the schema does not know. -/
def unknownMembers (entries : Entries Value) (known : List String) : List Fault :=
  (entries.filter fun e => !known.contains e.1).map fun e => ⟨[.key e.1], .extraForbidden⟩

end TableView.Schema
