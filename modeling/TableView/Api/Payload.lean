import TableView.Api.Refusal
import TableView.Json.Reader
import TableView.Schema.Reader

/-!
# Reading the parts of a request

The body of a request is a JSON document; an empty body and null are no body. Numbers in a path or
a query are read from their texts, and may be limited to a range. Every fault names the part of
the request it is in.
-/

namespace TableView.Api

open Schema

/-- The document in a body, if there is one. -/
def bodyValue (body : String) : Except Refusal Value :=
  if body = "" then .ok .null
  else
    match Text.decodeBytes body.toUTF8.toList with
    | .error _ => .error (.unreadable "UnicodeDecodeError")
    | .ok text =>
      match Json.readChars text.toList with
      | .ok v => .ok v
      | .error f => match f.cause with
        | .digits _ => .error (.unreadable "ValueError")
        | _ =>
          let position := text.length - f.rest.length
          .error (.invalid [⟨[.key "body", .index position], .jsonInvalid⟩])

/-- Check the document in a body. -/
def readBody {α : Type} (check : Value → Check α) (body : String) : Except Refusal (Check α) :=
  (bodyValue body).map fun
    | .null => .under (.key "body") (.fault .missing)
    | v => .under (.key "body") (check v)

/-- Read a number of a path. -/
def pathInteger (name text : String) : Check Int :=
  .under (.key "path") (.under (.key name) (integer (.text text)))

/-- Check that a number is in a range. -/
def ranged (low high : Option Int) (n : Int) : Check Int :=
  if low.any (n < ·) then .fault .greaterThanEqual
  else if high.any (· < n) then .fault .lessThanEqual
  else .ok n

/-- Read a number of a query that may be missing. -/
def queryInteger? (query : Entries String) (name : String) (low high : Option Int) :
    Check (Option Int) :=
  match query.get? name with
  | none => .ok none
  | some text =>
    let read := match integer (.text text) with
      | .ok n => ranged low high n
      | other => other
    .under (.key "query") (.under (.key name) (read.map some))

/-- Read a number of a query, which has a default. -/
def queryInteger (query : Entries String) (name : String) (low high : Option Int)
    (fallback : Int) : Check Int :=
  (queryInteger? query name low high).map (·.getD fallback)

end TableView.Api
