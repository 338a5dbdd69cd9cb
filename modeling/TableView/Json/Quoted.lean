import TableView.Json.Fault
import TableView.Text.Quoted

/-!
# JSON strings

Writing and reading the text between two double quotes. The writer escapes the quote, the
backslash and the control characters below U+0020, and on demand everything outside ASCII, where a
character past U+FFFF becomes a surrogate pair. The reader takes one unit at a time: a plain
character, an escape, or the closing quote.
-/

namespace TableView.Json

/-- The escape of a 16-bit unit. -/
def unicodeEscape (unit : Nat) : List Char :=
  '\\' :: 'u' :: Text.hexPadded 4 unit

/-- The escape of any character: one unit, or a surrogate pair. -/
def numericEscape (c : Char) : List Char :=
  let n := c.toNat
  if n < 0x10000 then unicodeEscape n
  else
    unicodeEscape (0xd800 + (n - 0x10000) / 0x400) ++
      unicodeEscape (0xdc00 + (n - 0x10000) % 0x400)

/-- The characters with an escape of one letter, each with its letter. -/
def shortEscapes : List (Char × Char) :=
  [('"', '"'), ('\\', '\\'), ('\n', 'n'), ('\r', 'r'), ('\t', 't'), (Char.ofNat 8, 'b'),
    (Char.ofNat 12, 'f')]

/-- One character inside a string. -/
def encodeChar (ascii : Bool) (c : Char) : List Char :=
  match shortEscapes.lookup c with
  | some letter => ['\\', letter]
  | none =>
    if c.toNat < 0x20 || (ascii && 0x80 ≤ c.toNat) then numericEscape c else [c]

/-- A text as a JSON string, with its quotes. -/
def encodeString (ascii : Bool) (s : String) : List Char :=
  '"' :: s.toList.flatMap (encodeChar ascii) ++ ['"']

/-- The value of a hexadecimal digit of either case. -/
def hexValue? (c : Char) : Option Nat :=
  if '0' ≤ c ∧ c ≤ '9' then some (c.toNat - 48)
  else if 'a' ≤ c ∧ c ≤ 'f' then some (c.toNat - 87)
  else if 'A' ≤ c ∧ c ≤ 'F' then some (c.toNat - 55)
  else none

/-- The unit that four hexadecimal digits write, and the text after them, which is not empty. -/
def hexUnit? : List Char → Option (Nat × List Char)
  | a :: b :: c :: d :: next :: rest => do
    let a ← hexValue? a
    let b ← hexValue? b
    let c ← hexValue? c
    let d ← hexValue? d
    return (((16 * a + b) * 16 + c) * 16 + d, next :: rest)
  | _ => none

/-- The character of a unit; a surrogate that stands alone is the replacement character. -/
def charOfUnit (unit : Nat) : Char :=
  if 0xd800 ≤ unit && unit < 0xe000 then Char.ofNat 0xfffd else Char.ofNat unit

/-- A surrogate pair's second half: a low surrogate whose escape comes next, with the text after
it. An escape that cannot be read is a fault; anything else is no second half. -/
def lowSurrogate? : List Char → Except Fault (Option (Nat × List Char))
  | '\\' :: 'u' :: rest =>
    if rest.length < 5 then .ok none
    else
      match hexUnit? rest with
      | none => .error ⟨.unicodeEscape, 'u' :: rest⟩
      | some (unit, rest) =>
        .ok (if 0xdc00 ≤ unit && unit < 0xe000 then some (unit, rest) else none)
  | _ => .ok none

/-- The character of a numeric escape. The text starts after the letter of the escape. -/
def decodeNumeric (cs : List Char) : Except Fault (Char × List Char) :=
  match hexUnit? cs with
  | none => .error ⟨.unicodeEscape, 'u' :: cs⟩
  | some (unit, rest) =>
    if 0xd800 ≤ unit && unit < 0xdc00 then
      match lowSurrogate? rest with
      | .error f => .error f
      | .ok (some (low, after)) =>
        .ok (Char.ofNat (0x10000 + (unit - 0xd800) * 0x400 + (low - 0xdc00)), after)
      | .ok none => .ok (charOfUnit unit, rest)
    else .ok (charOfUnit unit, rest)

/-- The character that the letter of a short escape stands for. -/
def shortEscape? (letter : Char) : Option Char :=
  if letter = '/' then some '/'
  else (shortEscapes.find? (·.2 == letter)).map (·.1)

/-- One unit of a string: a character, or none for the closing quote. `opening` is the text from
the opening quote on. -/
def decodeUnit (opening : List Char) : List Char → Except Fault (Option Char × List Char)
  | [] => .error ⟨.unterminated, opening⟩
  | '"' :: rest => .ok (none, rest)
  | '\\' :: [] => .error ⟨.unterminated, opening⟩
  | '\\' :: 'u' :: rest =>
    match decodeNumeric rest with
    | .error f => .error f
    | .ok (c, after) => .ok (some c, after)
  | '\\' :: letter :: rest =>
    match shortEscape? letter with
    | some c => .ok (some c, rest)
    | none => .error ⟨.escape, '\\' :: letter :: rest⟩
  | c :: rest =>
    if c.toNat < 0x20 then .error ⟨.control, c :: rest⟩ else .ok (some c, rest)

/-- The characters up to the closing quote, and the text after it. The fuel bounds their number. -/
def decodeUnits (opening : List Char) : Nat → List Char → Except Fault (List Char × List Char)
  | 0, _ => .error ⟨.unterminated, opening⟩
  | fuel + 1, cs =>
    match decodeUnit opening cs with
    | .error f => .error f
    | .ok (none, rest) => .ok ([], rest)
    | .ok (some c, rest) =>
      match decodeUnits opening fuel rest with
      | .error f => .error f
      | .ok (s, after) => .ok (c :: s, after)

/-- Read a string whose opening quote stands before `cs`. -/
def decodeString (cs : List Char) : Except Fault (String × List Char) :=
  match decodeUnits ('"' :: cs) (cs.length + 1) cs with
  | .error f => .error f
  | .ok (s, after) => .ok (String.ofList s, after)

end TableView.Json
