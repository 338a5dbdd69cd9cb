import TableView.RequestLog.Basic

/-!
# Searching the request log

A search looks back some hours and can be limited to a range of statuses and to a term. The term
is a pattern in which `%` stands for any text and `_` for any one character; it has to occur in
the path, the method, the name of the user, the kind of the error or the status, the letter case
of ASCII letters aside. Of a text and of a pattern only what stands before a null character counts,
and a pattern that is too long is refused as soon as there is an entry to compare with it. What is
found comes in pages, newest entry first.
-/

namespace TableView

/-- Whether a pattern describes the whole of a text. The fuel bounds the characters of both
together. -/
def patternFits : Nat → List Char → List Char → Bool
  | _, [], text => text.isEmpty
  | 0, _ :: _, _ => false
  | fuel + 1, c :: pattern, text =>
    match c, text with
    | '%', [] => patternFits fuel pattern []
    | '%', t :: rest =>
      patternFits fuel pattern (t :: rest) || patternFits fuel ('%' :: pattern) rest
    | _, [] => false
    | '_', _ :: rest => patternFits fuel pattern rest
    | _, t :: rest => c.toLower == t.toLower && patternFits fuel pattern rest

/-- What stands before the first null character. -/
def beforeNull (cs : List Char) : List Char := cs.takeWhile (· != '\x00')

/-- Whether a text has a part that a pattern describes. -/
def patternOccurs (pattern text : String) : Bool :=
  let p := beforeNull ('%' :: pattern.toList ++ ['%'])
  let t := beforeNull text.toList
  patternFits (p.length + t.length) p t

/-- The most bytes that a pattern may have. -/
def maxPatternBytes : Nat := 50000

/-- What to look for in the log. -/
structure LogFilter where
  hours : Int
  statusMin : Option Int
  statusMax : Option Int
  search : Option String
  deriving DecidableEq

namespace LogFilter

/-- The microseconds of an hour. -/
def hour : Int := 3600000000

/-- Whether the entry is not older than the hours to look back. -/
def inWindow (f : LogFilter) (now : Int) (e : LogEntry) : Bool :=
  now - f.hours * hour ≤ e.record.time

/-- Whether the status is in the range. -/
def inRange (f : LogFilter) (e : LogEntry) : Bool :=
  f.statusMin.all (· ≤ e.record.status) && f.statusMax.all (e.record.status ≤ ·)

/-- The texts of an entry that a term is looked for in. -/
def searchedTexts (e : LogEntry) : List String :=
  [e.record.path, e.record.method] ++ e.record.username.toList ++ e.record.errorType.toList ++
    [toString e.record.status]

/-- Whether the entry has the term. An empty term is none. -/
def hasTerm (f : LogFilter) (e : LogEntry) : Bool :=
  match f.search with
  | none => true
  | some term => term = "" || (searchedTexts e).any (patternOccurs term)

/-- Whether the pattern of the term, with what stands around it, is too long. -/
def isTooLong (f : LogFilter) : Bool :=
  f.search.any fun term => maxPatternBytes < term.utf8ByteSize + 2

/-- Whether the entry is looked for. -/
def admits (f : LogFilter) (now : Int) (e : LogEntry) : Bool :=
  f.inWindow now e && f.inRange e && f.hasTerm e

end LogFilter

/-- Whether an entry does not come after another one, newest first; of two entries of one time
the one with the higher number comes first. -/
def LogEntry.newestFirst (a b : LogEntry) : Bool :=
  b.record.time < a.record.time || (a.record.time == b.record.time && b.id ≤ a.id)

namespace RequestLog

/-- Whether an entry has to be compared with a pattern that is too long. -/
def refuses (log : RequestLog) (now : Int) (f : LogFilter) : Bool :=
  f.isTooLong && log.entries.any fun e => f.inWindow now e && f.inRange e

/-- The entries that are looked for, newest first. -/
def found (log : RequestLog) (now : Int) (f : LogFilter) : List LogEntry :=
  (log.entries.filter (f.admits now)).mergeSort LogEntry.newestFirst

/-- A page of the entries that are looked for. -/
def page (log : RequestLog) (now : Int) (f : LogFilter) (offset limit : Nat) : List LogEntry :=
  ((log.found now f).drop offset).take limit

/-- The number of entries that are looked for. -/
def count (log : RequestLog) (now : Int) (f : LogFilter) : Nat :=
  (log.entries.filter (f.admits now)).length

end RequestLog

end TableView
