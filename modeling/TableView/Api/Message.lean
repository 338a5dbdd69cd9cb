import TableView.Entries
import TableView.Export.Separated
import TableView.Export.Sheet
import TableView.Json.Printer
import TableView.Json.Quoted
import TableView.Text.Encoding

/-!
# Requests and responses

A request comes with the path of its URL, escapes and all, its query decoded and its body as text.
A response has a status, a few headers and a content. What the request log keeps of both is fixed
here too: the path as the URL spells it, the text of a document, and of a download only its size.
-/

namespace TableView.Api

/-- Replace the escapes in the bytes of a path by the bytes they stand for. -/
def unescape : List UInt8 → List UInt8
  | [] => []
  | 0x25 :: high :: low :: rest =>
    match Json.hexValue? (Char.ofNat high.toNat), Json.hexValue? (Char.ofNat low.toNat) with
    | some h, some l => UInt8.ofNat (16 * h + l) :: unescape rest
    | _, _ => 0x25 :: unescape (high :: low :: rest)
  | b :: rest => b :: unescape rest

/-- The path that an escaped path stands for. -/
def decodePath (path : String) : String :=
  let bytes := unescape path.toUTF8.toList
  String.ofList (Text.decodeUtf8Replacing bytes.length bytes)

/-- A request. Questions that browsers ask ahead of a request to another origin are answered before
they come to the service and are none. -/
structure Request where
  method : String
  urlPath : String
  query : Entries String
  body : String
  userAgent : Option String
  deriving DecidableEq

namespace Request

/-- The start of the paths whose requests are not recorded. -/
def unrecorded : List String :=
  ["/api/logs", "/api/docs", "/api/redoc", "/api/openapi.json"]

/-- The path without escapes, which decides where the request leads. -/
def path (r : Request) : String := decodePath r.urlPath

/-- Whether the request is recorded when it is answered. -/
def isRecorded (r : Request) : Bool :=
  !unrecorded.any fun start => start.toList.isPrefixOf r.urlPath.toList

end Request

/-- What a response carries. -/
inductive Content
  | nothing
  | document (v : Value)
  | separated (text : String)
  | sheet (s : Sheet)

/-- A response. -/
structure Response where
  status : Nat
  headers : Entries String
  content : Content

namespace Content

/-- The size of a content. A spreadsheet counts with the texts of its cells, since it is packed
only when it is sent. -/
def byteCount : Content → Nat
  | nothing => 0
  | document v => (Json.print .compact v).utf8ByteSize
  | separated text => text.utf8ByteSize
  | sheet s => s.lines.foldl (fun n line => line.foldl (fun n v => n + v.toText.utf8ByteSize) n) 0

/-- What is recorded of a content that is no download. -/
def recorded : Content → String
  | document v => Json.print .compact v
  | separated text => if text = "" then unavailable else text
  | nothing | sheet _ => unavailable
where
  /-- What is recorded where there is nothing to record. -/
  unavailable : String := "[Response body not available]"

end Content

namespace Response

/-- The header that makes a response a download. -/
def dispositionHeader : String := "content-disposition"

/-- A response with a document. -/
def document (v : Value) : Response := ⟨200, [], .document v⟩

/-- The response to a path that has moved. -/
def moved : Response := ⟨307, [], .nothing⟩

/-- The response as it is sent: a request for the head alone gets no content. -/
def sentTo (r : Response) (request : Request) : Response :=
  if request.method = "HEAD" then { r with content := .nothing } else r

/-- Whether the content is to be kept as a file. -/
def isDownload (r : Response) : Bool :=
  match r.headers.get? dispositionHeader with
  | some s => "attachment".toList.isPrefixOf s.toList
  | none => false

/-- What is recorded of the content. -/
def recordedBody (r : Response) : String :=
  if r.isDownload then "[File export, " ++ toString r.content.byteCount ++ " bytes]"
  else r.content.recorded

end Response

end TableView.Api
