import TableView.Value

/-!
# The request log

One entry for each recorded request: what was asked, how it was answered, by whom and when. Times
are in microseconds from an arbitrary origin. Entries are only ever added, and are numbered from
one in the order in which they were added.
-/

namespace TableView

/-- What is recorded of a request. Specified in `SPEC_FULL.md` 9. -/
structure LogRecord where
  time : Int
  method : String
  path : String
  status : Int
  requestBody : Option String
  responseBody : Option String
  userAgent : Option String
  username : Option String
  application : Option String
  errorType : Option String
  deriving DecidableEq

/-- A record and its number. -/
structure LogEntry where
  id : Nat
  record : LogRecord
  deriving DecidableEq

namespace LogEntry

/-- The document of an entry, without its time. -/
def toValue (e : LogEntry) : Value :=
  .object [("id", .int e.id), ("method", .text e.record.method), ("path", .text e.record.path),
    ("status_code", .int e.record.status), ("request_body", .ofText? e.record.requestBody),
    ("response_body", .ofText? e.record.responseBody),
    ("user_agent", .ofText? e.record.userAgent), ("username", .ofText? e.record.username),
    ("application_id", .ofText? e.record.application),
    ("error_type", .ofText? e.record.errorType)]

end LogEntry

/-- The entries, in the order of their numbers. -/
structure RequestLog where
  entries : List LogEntry
  deriving DecidableEq

namespace RequestLog

/-- No entries. -/
def empty : RequestLog := ⟨[]⟩

/-- Add a record under the next number. -/
def add (log : RequestLog) (r : LogRecord) : RequestLog :=
  ⟨log.entries ++ [⟨log.entries.length + 1, r⟩]⟩

/-- The log of some records, first record first. -/
def ofRecords (records : List LogRecord) : RequestLog :=
  records.foldl add empty

/-- The entry of a number. -/
def get? (log : RequestLog) (id : Int) : Option LogEntry :=
  log.entries.find? fun e => (e.id : Int) == id

end RequestLog

end TableView
