import TableView.Error
import TableView.Merge.Token

/-!
# Resolution of merge tokens

A resolution holds the merge tokens of the current query, the context record that was selected,
and what a fetch of its values has brought: values or an error. How far the tokens are resolved is
read off these. A fetch takes a ticket, and its outcome is taken over only while the ticket is
current: same object, same record, and no token that was not asked for.
-/

namespace TableView

/-- How far the merge tokens of a query are resolved. -/
inductive Readiness
  | noTokens
  | awaitingRecord
  | awaitingValues
  | resolved
  | failed
  deriving DecidableEq

namespace Readiness

/-- The name of a readiness. -/
def name : Readiness → String
  | noTokens => "NoTokens"
  | awaitingRecord => "AwaitingRecord"
  | awaitingValues => "AwaitingValues"
  | resolved => "Resolved"
  | failed => "Error"

/-- The readiness that a value names. -/
def ofValue (v : Value) : Except Failure Readiness :=
  match [noTokens, awaitingRecord, awaitingValues, resolved, failed].find? fun r =>
      v == .text r.name with
  | some r => .ok r
  | none => .error (.badValue (v.literal ++ " is not a valid ResolutionState"))

/-- The readiness of tokens for a record, values and an error. Empty texts count as missing. -/
def derive (tokens : List String) (record : Option String) (values : Entries Value)
    (error : Option String) : Readiness :=
  if tokens.isEmpty then noTokens
  else if error.getD "" ≠ "" then failed
  else if record.getD "" = "" then awaitingRecord
  else if values.isEmpty then awaitingValues
  else resolved

end Readiness

/-- What a fetch of values was started for. Specified in `SPEC_FULL.md` 4.4. -/
structure Ticket where
  object : Option String
  record : String
  names : List String
  deriving DecidableEq

/-- The state of the merge tokens of one query. -/
structure Resolution where
  tokens : List String
  object : Option String
  record : Option String
  values : Entries Value
  error : Option String

namespace Resolution

/-- No tokens and no context. -/
def empty : Resolution := ⟨[], none, none, [], none⟩

/-- A text that is not empty. -/
def given (s : Option String) : Option String :=
  s.filter (· ≠ "")

/-- How far the tokens are resolved. Specified in `SPEC_FULL.md` 4.4. -/
def readiness (r : Resolution) : Readiness :=
  Readiness.derive r.tokens r.record r.values r.error

/-- Whether a record is selected and a token has no value for it. -/
def needsFetch (r : Resolution) : Bool :=
  r.record.getD "" ≠ "" && r.tokens.any fun t => !r.values.has t

/-- Take the tokens of a query. -/
def withQuery (r : Resolution) (query : String) : Resolution :=
  { r with tokens := Merge.tokens query }

/-- Forget values and error. -/
def cleared (r : Resolution) : Resolution :=
  { r with values := [], error := none }

/-- Select the context object; another object than before also drops the record. Specified in
`SPEC_FULL.md` 4.4. -/
def selectObject (r : Resolution) (object : Option String) : Resolution :=
  { r.cleared with
    record := if object = r.object then r.record else none
    object := given object }

/-- Select the context record. -/
def selectRecord (r : Resolution) (record : Option String) : Resolution :=
  { r.cleared with record := given record }

/-- Forget object and record. -/
def clearContext (r : Resolution) : Resolution :=
  { r.cleared with object := none, record := none }

/-- Start a fetch of the values of all tokens. An error of an earlier fetch is forgotten. -/
def begin? (r : Resolution) : Except Failure (Ticket × Resolution) :=
  match given r.record with
  | none => .error (.badState "Cannot fetch values without a context record")
  | some record => .ok (⟨r.object, record, r.tokens⟩, { r with error := none })

/-- Whether the outcome of a fetch is still wanted. Specified in `SPEC_FULL.md` 4.4. -/
def isCurrent (r : Resolution) (ticket : Ticket) : Bool :=
  ticket.object = r.object && some ticket.record = r.record &&
    r.tokens.all fun t => ticket.names.contains t

/-- Take over fetched values, unless the ticket is stale. A name without a value has null. -/
def applyValues (r : Resolution) (ticket : Ticket) (values : Entries Value) :
    Bool × Resolution :=
  if r.isCurrent ticket then
    (true, { r with
      values := Entries.ofList (ticket.names.map fun n => (n, (values.get? n).getD .null))
      error := none })
  else (false, r)

/-- Record that a fetch failed, unless the ticket is stale. -/
def applyFailure (r : Resolution) (ticket : Ticket) (message : String) : Bool × Resolution :=
  if r.isCurrent ticket then
    (true, { r with
      values := []
      error := some (if message = "" then "Failed to fetch context record values" else message) })
  else (false, r)

end Resolution

end TableView
