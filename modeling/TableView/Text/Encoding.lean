import TableView.Text.Quoted

/-!
# Texts in bytes

A byte string is read as UTF-8, UTF-16 or UTF-32. A byte order mark decides; without one, the
zero bytes among the first four do. A surrogate that stands alone becomes the replacement
character. What cannot be read is reported with the bytes concerned and their position.
-/

namespace TableView.Text

/-- A way to write a text in bytes. -/
inductive Encoding
  | utf8
  | utf16 (bigEndian : Bool)
  | utf32 (bigEndian : Bool)
  deriving DecidableEq

/-- The name of an encoding. -/
def Encoding.name : Encoding → String
  | utf8 => "utf-8"
  | utf16 bigEndian => if bigEndian then "utf-16-be" else "utf-16-le"
  | utf32 bigEndian => if bigEndian then "utf-32-be" else "utf-32-le"

/-- Why bytes are not a text. -/
inductive DecodeCause
  | startByte
  | continuationByte
  | unexpectedEnd
  | truncated
  | range
  deriving DecidableEq

/-- The words for a cause. -/
def DecodeCause.message : DecodeCause → String
  | startByte => "invalid start byte"
  | continuationByte => "invalid continuation byte"
  | unexpectedEnd => "unexpected end of data"
  | truncated => "truncated data"
  | range => "code point not in range(0x110000)"

/-- Bytes that cannot be read: why, the first of them and how many, and the text from them on. -/
structure DecodeFault where
  cause : DecodeCause
  count : Nat
  rest : List UInt8
  deriving DecidableEq

/-- The encoding of a byte string, and the length of its byte order mark. The mark of UTF-8 is not
part of the positions in messages, the other marks are. -/
def detect : List UInt8 → Encoding × Nat
  | 0x00 :: 0x00 :: 0xfe :: 0xff :: _ => (.utf32 true, 4)
  | 0xff :: 0xfe :: 0x00 :: 0x00 :: _ => (.utf32 false, 4)
  | 0xfe :: 0xff :: _ => (.utf16 true, 2)
  | 0xff :: 0xfe :: _ => (.utf16 false, 2)
  | 0xef :: 0xbb :: 0xbf :: _ => (.utf8, 3)
  | a :: b :: c :: d :: _ =>
    if a = 0 then (if b = 0 then .utf32 true else .utf16 true, 0)
    else if b = 0 then (if c = 0 ∧ d = 0 then .utf32 false else .utf16 false, 0)
    else (.utf8, 0)
  | [a, b] =>
    if a = 0 then (.utf16 true, 0) else if b = 0 then (.utf16 false, 0) else (.utf8, 0)
  | _ => (.utf8, 0)

/-- The character of a code point; a surrogate becomes the replacement character. -/
def charOfPoint (n : Nat) : Char :=
  if 0xd800 ≤ n && n < 0xe000 then Char.ofNat 0xfffd else Char.ofNat n

/-- Whether the byte continues a sequence. -/
def isContinuation (b : UInt8) : Bool :=
  0x80 ≤ b && b < 0xc0

/-- The bounds of the byte after the first one, which exclude overlong forms, code points out of
range and, unless they are allowed, surrogates. -/
def secondByteOk (surrogates : Bool) (first second : UInt8) : Bool :=
  if first = 0xe0 then 0xa0 ≤ second && second < 0xc0
  else if first = 0xed && !surrogates then 0x80 ≤ second && second < 0xa0
  else if first = 0xf0 then 0x90 ≤ second && second < 0xc0
  else if first = 0xf4 then 0x80 ≤ second && second < 0x90
  else isContinuation second

/-- How many bytes follow a first byte; none if no sequence starts with it. -/
def followers? (first : UInt8) : Option Nat :=
  if first < 0x80 then some 0
  else if 0xc2 ≤ first && first < 0xe0 then some 1
  else if 0xe0 ≤ first && first < 0xf0 then some 2
  else if 0xf0 ≤ first && first < 0xf5 then some 3
  else none

/-- The good bytes after a first byte, at most `count`. -/
def goodFollowers (surrogates : Bool) (first : UInt8) (count : Nat) (rest : List UInt8) :
    List UInt8 :=
  match rest.take count with
  | [] => []
  | second :: more =>
    if secondByteOk surrogates first second then second :: more.takeWhile isContinuation else []

/-- The code point of a first byte and its followers. -/
def pointOf (first : UInt8) (followers : List UInt8) : Nat :=
  let lead := match followers.length with
    | 0 => first.toNat
    | 1 => first.toNat % 0x20
    | 2 => first.toNat % 0x10
    | _ => first.toNat % 0x08
  followers.foldl (fun n b => n * 0x40 + b.toNat % 0x40) lead

/-- Read the sequence that starts with a byte: its character and the bytes after it. -/
def sequenceAt (surrogates : Bool) (first : UInt8) (rest : List UInt8) :
    Except DecodeFault (Char × List UInt8) :=
  match followers? first with
  | none => .error ⟨.startByte, 1, first :: rest⟩
  | some count =>
    let good := goodFollowers surrogates first count rest
    if good.length = count then .ok (charOfPoint (pointOf first good), rest.drop count)
    else
      let surrogate := first = 0xed ∧ 0xa0 ≤ (good.headD 0)
      let shown := if surrogate then 1 else good.length + 1
      let cause := if good.length = rest.length ∧ ¬ surrogate then .unexpectedEnd
        else .continuationByte
      .error ⟨cause, shown, first :: rest⟩

/-- Read UTF-8. The fuel bounds the number of characters. -/
def decodeUtf8 (surrogates : Bool) : Nat → List UInt8 → Except DecodeFault (List Char)
  | 0, _ => .ok []
  | _, [] => .ok []
  | fuel + 1, first :: rest =>
    match sequenceAt surrogates first rest with
    | .error f => .error f
    | .ok (c, after) => (decodeUtf8 surrogates fuel after).map (c :: ·)

/-- Read UTF-8 and put the replacement character where bytes cannot be read. The fuel bounds the
number of characters. -/
def decodeUtf8Replacing : Nat → List UInt8 → List Char
  | 0, _ => []
  | _, [] => []
  | fuel + 1, first :: rest =>
    match sequenceAt false first rest with
    | .error f => Char.ofNat 0xfffd :: decodeUtf8Replacing fuel ((first :: rest).drop f.count)
    | .ok (c, after) => c :: decodeUtf8Replacing fuel after

/-- The units of a fixed number of bytes; a last unit that is not complete is a fault. -/
def decodeUnits (width : Nat) (bigEndian : Bool) :
    Nat → List UInt8 → Except DecodeFault (List Nat)
  | 0, _ => .ok []
  | _, [] => .ok []
  | fuel + 1, bytes =>
    if bytes.length < width then .error ⟨.truncated, bytes.length, bytes⟩
    else
      let unit := bytes.take width
      let ordered := if bigEndian then unit else unit.reverse
      let n := ordered.foldl (fun n b => n * 0x100 + b.toNat) 0
      if 0x110000 ≤ n then .error ⟨.range, width, bytes⟩
      else (decodeUnits width bigEndian fuel (bytes.drop width)).map (n :: ·)

/-- The characters of 16-bit units: a high and a low surrogate in a row make one character. -/
def joinSurrogates : List Nat → List Char
  | [] => []
  | high :: low :: rest =>
    if 0xd800 ≤ high && high < 0xdc00 && 0xdc00 ≤ low && low < 0xe000 then
      Char.ofNat (0x10000 + (high - 0xd800) * 0x400 + (low - 0xdc00)) :: joinSurrogates rest
    else charOfPoint high :: joinSurrogates (low :: rest)
  | [n] => [charOfPoint n]

/-- The words for bytes that cannot be read. `before` is the number of bytes before them. -/
def DecodeFault.message (encoding : Encoding) (before : Nat) (f : DecodeFault) : String :=
  let place :=
    if f.count = 1 then
      "byte 0x" ++ String.ofList (hexPadded 2 (f.rest.headD 0).toNat) ++ " in position " ++
        toString before
    else "bytes in position " ++ toString before ++ "-" ++ toString (before + f.count - 1)
  "'" ++ encoding.name ++ "' codec can't decode " ++ place ++ ": " ++ f.cause.message

/-- Read a byte string as a text, or say which bytes cannot be read. -/
def decodeBytes (bytes : List UInt8) : Except String String :=
  let (encoding, mark) := detect bytes
  let body := bytes.drop mark
  let result : Except DecodeFault (List Char) := match encoding with
    | .utf8 => decodeUtf8 true body.length body
    | .utf16 bigEndian => (decodeUnits 2 bigEndian body.length body).map joinSurrogates
    | .utf32 bigEndian => (decodeUnits 4 bigEndian body.length body).map (·.map charOfPoint)
  let origin := if encoding = .utf8 then body else bytes
  (result.map String.ofList).mapError fun f =>
    f.message encoding (origin.length - f.rest.length)

end TableView.Text
