import TableView.Api.Message
import TableView.Error
import TableView.Schema.Check

/-!
# Refusals

A refusal is the reason why a request is not answered with what it asks for. It fixes the status,
the detail that the response shows, and the kind of error that the log keeps. A breakdown is a
fault that no part of the service expects: its response says nothing about it, and it alone is
recorded for paths that are otherwise not.
-/

namespace TableView.Schema

/-- The literal of a step. -/
def Step.literal : Step → String
  | .key name => Text.quoted name
  | .index position => toString position

/-- The place of a fault as one text. -/
def Fault.place (f : Fault) : String :=
  match f.path.map Step.literal with
  | [step] => "(" ++ step ++ ",)"
  | steps => "(" ++ String.intercalate ", " steps ++ ")"

/-- The document of a fault in a request. -/
def Fault.toValue (f : Fault) : Value :=
  .object ([("type", .text f.kind.name), ("loc", .text f.place)] ++
    match f.kind.message? with
    | some message => [("msg", .text message)]
    | none => [])

/-- The order of the faults in a response: by place, then by kind. -/
def Fault.placedBefore (f g : Fault) : Bool :=
  f.place < g.place || (f.place == g.place && f.kind.name ≤ g.kind.name)

end TableView.Schema

namespace TableView.Api

/-- A fault that no part of the service expects. -/
inductive Breakdown
  | failure (f : Failure)
  | sheet (f : SheetFault)
  | headerText
  | undefinedNumber
  | bytesWithoutText
  deriving DecidableEq

namespace Breakdown

/-- The kind of error that the log keeps. -/
def kind : Breakdown → String
  | failure f => f.kind
  | sheet .title => "ValueError"
  | sheet .controlCharacter => "IllegalCharacterError"
  | sheet .numberTooLarge => "OverflowError"
  | headerText => "UnicodeEncodeError"
  | undefinedNumber => "ValueError"
  | bytesWithoutText => "PydanticSerializationError"

end Breakdown

/-- Why a request is not answered with what it asks for. An action may decline a request because of
an error, which is then known as the cause; an error that an action lets through refuses it too. -/
inductive Refusal
  | unknownPath
  | wrongMethod
  | invalid (faults : List Schema.Fault)
  | unreadable (kind : String)
  | declined (status : Nat) (detail : String) (cause : Option Error)
  | engine (e : Error)
  | breakdown (b : Breakdown)
  deriving DecidableEq

namespace Refusal

/-- The refusal with which an action translates an error. -/
def translated (e : Error) : Refusal := declined e.status e.message (some e)

/-- The refusal that a failed operation leads to where its errors are let through. -/
def ofFailure : Failure → Refusal
  | .engine e => engine e
  | f => breakdown (.failure f)

/-- The refusal that a failed operation leads to where its errors are translated. -/
def translating : Failure → Refusal
  | .engine e => translated e
  | f => breakdown (.failure f)

/-- The outcome of reading a part of a request. -/
def ofCheck {α : Type} : Schema.Check α → Except Refusal α
  | .ok a => .ok a
  | .rejected faults => .error (invalid faults)
  | .overflow message => .error (breakdown (.failure (.overflow message)))

/-- The status of the response. -/
def status : Refusal → Nat
  | unknownPath => 404
  | wrongMethod => 405
  | invalid _ => 422
  | unreadable _ => 400
  | declined status _ _ => status
  | engine e => e.status
  | breakdown _ => 500

/-- The detail that the response shows. -/
def detail : Refusal → Value
  | unknownPath => .text "Not Found"
  | wrongMethod => .text "Method Not Allowed"
  | invalid faults => .list ((faults.mergeSort Schema.Fault.placedBefore).map Schema.Fault.toValue)
  | unreadable _ => .text "There was an error parsing the body"
  | declined _ detail _ => .text detail
  | engine e => .text e.message
  | breakdown _ => .text "Internal Server Error"

/-- The kind of error that the log keeps. Of a request that was declined it is the kind of the
cause, if there is one. -/
def errorType : Refusal → Option String
  | unknownPath => none
  | wrongMethod => none
  | invalid _ => some "RequestValidationError"
  | unreadable kind => some kind
  | declined status _ cause =>
    if 400 ≤ status then some ((cause.map (·.family.name)).getD "HTTPException") else none
  | engine e => some e.family.name
  | breakdown b => some b.kind

/-- The response of a refusal. -/
def response (r : Refusal) : Response :=
  ⟨r.status, [], .document (.object [("detail", r.detail)])⟩

end Refusal

end TableView.Api
