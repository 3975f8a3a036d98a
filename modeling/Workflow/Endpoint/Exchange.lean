import Workflow.Endpoint.ContentType
import Workflow.Endpoint.Headers
import Workflow.Json

/-!
# Requests and responses

What is sent to an endpoint, what comes back, and how a response is read: the headers as texts and
as one map, the character set that the content type names, and the text of the body.

An `Answer` is all that can become of a request: a response, silence, or an error on the way.
-/

namespace Workflow

open Workflow.Text

/-- **A request.** The headers may repeat a name. -/
structure Request where
  /-- The method. -/
  method : String
  /-- The address. -/
  url : String
  /-- The headers, in order. -/
  headers : List (String × String)
  deriving DecidableEq, Inhabited

/-- **A response.** The headers may repeat a name. -/
structure Response where
  /-- The status code, as the endpoint gives it. -/
  status : Json := .int 200
  /-- The headers, in order. -/
  headers : Headers := []
  /-- The body. -/
  body : List UInt8 := []
  deriving Inhabited

/-- **A response as the endpoint gives it**, whose headers may be bytes. -/
structure RawResponse where
  /-- The status code. -/
  status : Json := .int 200
  /-- The headers, in order. -/
  headers : List (HeaderPart × HeaderPart) := []
  /-- The body. -/
  body : List UInt8 := []
  deriving Inhabited

/-- The response with its headers as texts. -/
def RawResponse.read (r : RawResponse) : Except String Response := do
  return { status := r.status, headers := ← Headers.ofParts r.headers, body := r.body }

/-- **What becomes of a request.** -/
inductive Answer where
  /-- A response. -/
  | response (r : RawResponse)
  /-- Nothing came in time. -/
  | timeout
  /-- The request got lost on the way. -/
  | lost (message : String)
  /-- Something else went wrong. -/
  | failed (message : String)
  deriving Inhabited

namespace Response

/-- The name of the header for the length of the body. -/
def lengthName : String := "content-length"

/-- The response with the length of its body among the headers, unless they tell it or the
body is empty. -/
def withLength (r : Response) : Response :=
  if r.body.isEmpty || Entries.has (Headers.join r.headers) lengthName then r
  else { r with headers := r.headers ++ [(lengthName, toString r.body.length)] }

/-- The headers as a map. -/
def header? (r : Response) (name : String) : Option String :=
  Entries.get? (Headers.join r.headers) name

/-- The content type, empty if none is told. -/
def contentType (r : Response) : String :=
  (r.header? "content-type").getD ""

/-- The character set of the body. One that is not named or not known is UTF-8. -/
def charset (r : Response) : Outcome Charset := do
  match ← ContentType.charsetName? r.contentType with
  | none => return Charset.utf8
  | some name => return (← (Charset.ofName? name).mapError .unreadableBytes).getD Charset.utf8

/-- **The text of the body.** The content type of an empty one is not looked at. -/
def text (r : Response) : Outcome String := do
  if r.body.isEmpty then return ""
  let cs ← ((← r.charset).decode r.body).mapError .unreadableBytes
  return String.ofList cs

/-- The status codes that redirect to another address. -/
def redirects : List Int := [301, 302, 303, 307, 308]

/-- Whether the response has a status code, whatever its number is written as. -/
def hasStatus (r : Response) (code : Int) : Bool :=
  Json.same r.status (.int code)

/-- The address that the response redirects to. -/
def location? (r : Response) : Option String :=
  if redirects.any r.hasStatus then r.header? "location" else none

/-- The standard phrases for status codes. -/
def phrases : List (Int × String) := [
  (100, "Continue"), (101, "Switching Protocols"), (102, "Processing"), (103, "Early Hints"),
  (200, "OK"), (201, "Created"), (202, "Accepted"), (203, "Non-Authoritative Information"),
  (204, "No Content"), (205, "Reset Content"), (206, "Partial Content"),
  (207, "Multi-Status"), (208, "Already Reported"), (226, "IM Used"),
  (300, "Multiple Choices"), (301, "Moved Permanently"), (302, "Found"), (303, "See Other"),
  (304, "Not Modified"), (305, "Use Proxy"), (307, "Temporary Redirect"),
  (308, "Permanent Redirect"), (400, "Bad Request"), (401, "Unauthorized"),
  (402, "Payment Required"), (403, "Forbidden"), (404, "Not Found"),
  (405, "Method Not Allowed"), (406, "Not Acceptable"),
  (407, "Proxy Authentication Required"), (408, "Request Timeout"), (409, "Conflict"),
  (410, "Gone"), (411, "Length Required"), (412, "Precondition Failed"),
  (413, "Request Entity Too Large"), (414, "Request-URI Too Long"),
  (415, "Unsupported Media Type"), (416, "Requested Range Not Satisfiable"),
  (417, "Expectation Failed"), (418, "I'm a teapot"), (421, "Misdirected Request"),
  (422, "Unprocessable Entity"), (423, "Locked"), (424, "Failed Dependency"),
  (425, "Too Early"), (426, "Upgrade Required"), (428, "Precondition Required"),
  (429, "Too Many Requests"), (431, "Request Header Fields Too Large"),
  (451, "Unavailable For Legal Reasons"), (500, "Internal Server Error"),
  (501, "Not Implemented"), (502, "Bad Gateway"), (503, "Service Unavailable"),
  (504, "Gateway Timeout"), (505, "HTTP Version Not Supported"),
  (506, "Variant Also Negotiates"), (507, "Insufficient Storage"), (508, "Loop Detected"),
  (510, "Not Extended"), (511, "Network Authentication Required")]

/-- The standard phrase for the status code, empty if there is none. -/
def phrase (r : Response) : String :=
  ((phrases.find? fun entry => r.hasStatus entry.1).map Prod.snd).getD ""

end Response

end Workflow
