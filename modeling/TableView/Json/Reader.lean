import TableView.Json.Quoted
import TableView.Value

/-!
# Reading JSON

The reader works on the rest of the text and hands on what it leaves. It also takes `NaN`,
`Infinity` and `-Infinity`; a number with a fraction or an exponent is a floating-point number,
any other is an integer of any size up to the limit on digits; of two members of one name the last
value counts, at the place of the first. Fuel of one more than twice the length of the text is
always enough: a container costs two calls and at least one character.
-/

namespace TableView.Json

open TableView.Number

/-- Whether the character is white space between JSON tokens. -/
def isJsonSpace (c : Char) : Bool :=
  c == ' ' || c == '\t' || c == '\n' || c == '\r'

/-- The text after any white space. -/
def skipSpace (cs : List Char) : List Char :=
  cs.dropWhile isJsonSpace

/-- The fraction of a number: the point and at least one digit, or nothing. -/
def splitFraction (cs : List Char) : List Char × List Char :=
  match cs with
  | '.' :: rest =>
    let digits := rest.takeWhile isAsciiDigit
    if digits.isEmpty then ([], cs) else (digits, rest.dropWhile isAsciiDigit)
  | _ => ([], cs)

/-- The exponent of a number: its mark, an optional sign and at least one digit, or nothing. -/
def splitExponent (cs : List Char) : Option Int × List Char :=
  match cs with
  | c :: rest =>
    if c == 'e' || c == 'E' then
      let (negative, body) := splitSign rest
      let digits := body.takeWhile isAsciiDigit
      if digits.isEmpty then (none, cs)
      else
        let power : Int := natOfDigits digits
        (some (if negative then -power else power), body.dropWhile isAsciiDigit)
    else (none, cs)
  | [] => (none, cs)

/-- The whole part of a number: a zero alone, or digits that do not start with zero. -/
def splitWhole (cs : List Char) : Option (List Char × List Char) :=
  match cs with
  | '0' :: rest => some (['0'], rest)
  | c :: _ =>
    if isAsciiDigit c then some (cs.takeWhile isAsciiDigit, cs.dropWhile isAsciiDigit) else none
  | [] => none

/-- Read a number, if one starts the text. -/
def number (cs : List Char) : Except Fault (Value × List Char) :=
  let negative := cs.head? == some '-'
  match splitWhole (if negative then cs.tail else cs) with
  | none => .error ⟨.value, cs⟩
  | some (whole, rest) =>
    let (fraction, rest) := splitFraction rest
    let (exponent, rest) := splitExponent rest
    if fraction.isEmpty && exponent.isNone then
      if maxIntegerDigits < whole.length then .error ⟨.digits whole.length, cs⟩
      else
        let n : Int := natOfDigits whole
        .ok (.int (if negative then -n else n), rest)
    else
      let power := exponent.getD 0 - fraction.length
      .ok (.float (.ofScientific negative (natOfDigits (whole ++ fraction)) power), rest)

/-- The names that stand for values. -/
def names : List (List Char × Value) :=
  [("null".toList, .null), ("true".toList, .bool true), ("false".toList, .bool false),
    ("NaN".toList, .float .nan), ("Infinity".toList, .float (.infinite false)),
    ("-Infinity".toList, .float (.infinite true))]

/-- Read a name or a number. -/
def scalar (cs : List Char) : Except Fault (Value × List Char) :=
  match names.find? fun n => n.1.isPrefixOf cs with
  | some n => .ok (n.2, cs.drop n.1.length)
  | none => number cs

mutual

/-- Read a value. -/
def value : Nat → List Char → Except Fault (Value × List Char)
  | 0, cs => .error ⟨.value, cs⟩
  | fuel + 1, cs =>
    match cs with
    | '"' :: rest =>
      match decodeString rest with
      | .error f => .error f
      | .ok (s, after) => .ok (.text s, after)
    | '{' :: rest =>
      match skipSpace rest with
      | '}' :: after => .ok (.object [], after)
      | body =>
        match members fuel body with
        | .error f => .error f
        | .ok (pairs, after) => .ok (.object (Entries.ofList pairs), after)
    | '[' :: rest =>
      match skipSpace rest with
      | ']' :: after => .ok (.list [], after)
      | body =>
        match items fuel body with
        | .error f => .error f
        | .ok (vs, after) => .ok (.list vs, after)
    | _ => scalar cs

/-- Read the items of a list and its closing bracket. -/
def items : Nat → List Char → Except Fault (List Value × List Char)
  | 0, cs => .error ⟨.value, cs⟩
  | fuel + 1, cs =>
    match value fuel cs with
    | .error f => .error f
    | .ok (v, rest) =>
      match skipSpace rest with
      | ']' :: after => .ok ([v], after)
      | ',' :: more =>
        match items fuel (skipSpace more) with
        | .error f => .error f
        | .ok (vs, after) => .ok (v :: vs, after)
      | other => .error ⟨.comma, other⟩

/-- Read the members of an object and its closing brace. -/
def members : Nat → List Char → Except Fault (List (String × Value) × List Char)
  | 0, cs => .error ⟨.value, cs⟩
  | fuel + 1, cs =>
    match cs with
    | '"' :: rest =>
      match decodeString rest with
      | .error f => .error f
      | .ok (key, afterKey) =>
        match skipSpace afterKey with
        | ':' :: body =>
          match value fuel (skipSpace body) with
          | .error f => .error f
          | .ok (v, afterValue) =>
            match skipSpace afterValue with
            | '}' :: after => .ok ([(key, v)], after)
            | ',' :: more =>
              match members fuel (skipSpace more) with
              | .error f => .error f
              | .ok (pairs, after) => .ok ((key, v) :: pairs, after)
            | other => .error ⟨.comma, other⟩
        | other => .error ⟨.colon, other⟩
    | other => .error ⟨.name, other⟩

end

/-- Read a text that holds one value and white space around it. -/
def readChars (cs : List Char) : Except Fault Value :=
  match value (2 * cs.length + 1) (skipSpace cs) with
  | .error f => .error f
  | .ok (v, rest) =>
    match skipSpace rest with
    | [] => .ok v
    | other => .error ⟨.extra, other⟩

/-- Read a text that was decoded from bytes, or say what is wrong with it. -/
def readDecoded (s : String) : Except String Value :=
  (readChars s.toList).mapError (Fault.message s.toList)

/-- Read a text, or say what is wrong with it. A byte order mark is not taken. -/
def read (s : String) : Except String Value :=
  match s.toList with
  | '\uFEFF' :: rest =>
    .error (Fault.message ('\uFEFF' :: rest) ⟨.byteOrderMark, '\uFEFF' :: rest⟩)
  | _ => readDecoded s

end TableView.Json
