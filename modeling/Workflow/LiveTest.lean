import Workflow.Endpoint.Coding
import Workflow.Endpoint.Credentials
import Workflow.Endpoint.Exchange
import Workflow.Endpoint.Redirect
import Workflow.Endpoint.Url
import Workflow.Json.Display
import Workflow.Json.Reader
import Workflow.Schema.Inference
import Workflow.Template

/-!
# Live tests

A live test carries out the request that an API call is configured for, with sample values
in the place of what other nodes would give, and learns a schema from the response. It is a
row of stages, each of which may end the test with a report: the address and the timeout are
there, all templates are resolved, the address is one that may be called, the request can be
sent, and the response comes in time.

What goes wrong is told in the report. Only parameters of a shape that the stages cannot
take apart, and values that have no text where one is needed, are failures.

The endpoint is a function from the request to what becomes of it. It is asked at most once.
-/

namespace Workflow

namespace LiveTest

open Workflow.Text

/-- How live tests are set up. -/
structure Options where
  /-- The timeout in milliseconds of nodes that have none. -/
  defaultTimeout : Json := .int 30000
  /-- Whether hosts inside the network may be called. -/
  allowInternal : Bool := false
  /-- What the client tells about itself. -/
  userAgent : String := "workflow"

/-- **The report of a live test.** -/
structure Report where
  /-- Whether a response came. -/
  success : Bool := false
  /-- What went wrong. -/
  error : Option String := none
  /-- The status code. -/
  status : Option Int := none
  /-- The standard phrase for the status code. -/
  statusText : Option String := none
  /-- The headers of the response. -/
  headers : Option (Entries String) := none
  /-- The body of the response, null if there is none. -/
  body : Json := .null
  /-- The schema of the headers and the body. -/
  outputSchema : Option Schema := none
  /-- Whether sending was attempted, so that there is a time to tell. -/
  isTimed : Bool := false
  /-- What to be careful about. -/
  warning : Option String := none
  /-- Whether the schema was kept. -/
  schemaSaved : Bool := false
  /-- The address after templates were resolved. -/
  requestUrl : Option String := none
  deriving Inhabited

/-- How the time that a request took is written. The time itself is not looked at. -/
def timeText : String := "ms"

/-- The written form of a report. -/
def Report.toJson (r : Report) : Json := .obj [
  ("success", .bool r.success), ("error", Json.ofText? r.error),
  ("status", (r.status.map Json.int).getD .null), ("status_text", Json.ofText? r.statusText),
  ("headers", (r.headers.map fun es => Json.obj (es.mapValues .str)).getD .null),
  ("body", r.body.written), ("output_schema", Schema.optionToJson r.outputSchema),
  ("execution_time_ms", if r.isTimed then .str timeText else .null),
  ("warning", Json.ofText? r.warning), ("schema_saved", .bool r.schemaSaved),
  ("request_url", Json.ofText? r.requestUrl)]

/-- How a stage ends the test: with a report, or as a failure. -/
inductive Halt where
  /-- The test ends with a report. -/
  | report (r : Report)
  /-- The test fails. -/
  | failure (f : Failure)

/-- What a stage comes to. -/
abbrev Stage (α : Type) := Except Halt α

/-- Ends the test with what went wrong. -/
def stop {α : Type} (message : String) : Stage α :=
  .error (.report { error := some message })

/-! ## The parameters -/

/-- The value of a parameter, if it is given. -/
def given? (parameters : Entries Json) (key : String) : Option Json :=
  (Entries.get? parameters key).filter Json.isTruthy

/-- The text of a parameter, or of what stands for it if it is not given. -/
def textOf (parameters : Entries Json) (key default : String) : Stage String :=
  ((given? parameters key).getD (.str default)).display.mapError .failure

/-- The method, in upper case. -/
def methodOf (parameters : Entries Json) : Stage String := do
  return String.ofList (upper (← textOf parameters "method" "GET").toList)

/-- The address before templates are resolved, without blanks around it. -/
def rawUrl (parameters : Entries Json) : Stage String := do
  match trim (← textOf parameters "url" "").toList with
  | [] => stop "URL is required. Configure the URL in the node settings."
  | cs => return String.ofList cs

/-- A number of milliseconds. A fraction is dropped, and a text is read as a number; none
where there is no number to be read. An infinity is a failure. -/
def milliseconds? : Json → Outcome (Option Int)
  | .int n => .ok (some n)
  | .bool b => .ok (some (if b then 1 else 0))
  | .str s => .ok (Numeral.int? s.toList)
  | .float (.infinity _) => .error .numberTooLarge
  | .float x => .ok x.truncate?
  | _ => .ok none

/-- The value of the timeout. -/
def rawTimeout (o : Options) (parameters : Entries Json) : Json :=
  (given? parameters "timeout").getD o.defaultTimeout

/-- The timeout in milliseconds, which must be positive. -/
def timeoutOf (o : Options) (parameters : Entries Json) : Stage Int := do
  let raw := rawTimeout o parameters
  match (← (milliseconds? raw).mapError .failure).filter (0 < ·) with
  | some n => return n
  | none => stop ("Invalid timeout: " ++ (← raw.literal.mapError .failure))

/-- The entries of a list of headers. A text and an object have no entries that are
objects. -/
def headerEntries (parameters : Entries Json) : Outcome (List (Entries Json)) :=
  match given? parameters "headers" with
  | none => .ok []
  | some (.arr items) => .ok (items.filterMap Json.members?)
  | some (.str _) | some (.obj _) => .ok []
  | some _ => .error .notIterable

/-- Headers by their names, which may be any values that can be compared. -/
abbrev NamedHeaders := List (Json × String)

/-- Puts a header in, in the place of the one with an equal name if there is one. -/
def putHeader (key : Json) (value : String) : NamedHeaders → NamedHeaders
  | [] => [(key, value)]
  | (k, old) :: rest =>
    if Json.same k key then (k, value) :: rest else (k, old) :: putHeader key value rest

/-- The headers with one entry more, and the paths of it that are unresolved. An entry counts
if it has both a name and a value. -/
def addEntry (mocks : Json) (acc : NamedHeaders × List String)
    (entry : Entries Json) : Outcome (NamedHeaders × List String) :=
  match given? entry "key", given? entry "value" with
  | some key, some value => do
    let resolved ← Template.resolveFrom (← value.display) mocks
    if !key.isKey then throw .unusableKey
    return (putHeader key resolved.text acc.1, acc.2 ++ resolved.unresolved)
  | _, _ => .ok acc

/-- The headers with their templates resolved, and the paths that are unresolved. -/
def headersOf (mocks : Json) (parameters : Entries Json) :
    Outcome (NamedHeaders × List String) := do
  (← headerEntries parameters).foldlM (addEntry mocks) ([], [])

/-! ## The request -/

/-- **What is to be sent**, with all templates resolved. -/
structure Draft where
  /-- The method. -/
  method : String
  /-- The address. -/
  url : String
  /-- The headers. -/
  headers : NamedHeaders
  /-- The timeout in milliseconds. -/
  timeout : Int

/-- The texts of a list, each at its first place alone. -/
def distinct (texts : List String) : List String :=
  texts.foldl (fun acc text => if acc.contains text then acc else acc ++ [text]) []

/-- **What the parameters ask to be sent.** -/
def draft (o : Options) (parameters : Entries Json) (mocks : Json) :
    Stage Draft := do
  let method ← methodOf parameters
  let raw ← rawUrl parameters
  let timeout ← timeoutOf o parameters
  let url ← (Template.resolveFrom raw mocks).mapError .failure
  let (headers, unresolved) ← (headersOf mocks parameters).mapError .failure
  match url.unresolved ++ unresolved with
  | [] => return { method, url := url.text, headers, timeout }
  | names =>
    stop ("Unresolved template variables: " ++ ", ".intercalate (distinct names) ++
      ". Provide mock values or configure upstream nodes.")

/-- **The check that an address may be called.** -/
def checkAddress (o : Options) (url : String) : Stage Unit := do
  let refuse (message : String) : Stage Unit :=
    .error (.report { error := some message, requestUrl := some url })
  let parts ← (Url.split url).mapError fun fault => .failure (.malformedAddress fault)
  match parts.host? with
  | some host =>
    if !parts.isWeb then refuse ("Invalid URL: " ++ url)
    else if !o.allowInternal && Host.isInternal host then
      refuse ("Requests to internal or private hosts are not allowed: " ++ host)
    else return ()
  | none => refuse ("Invalid URL: " ++ url)

/-- The methods of requests that may change something. -/
def mutating : List String := ["POST", "PUT", "PATCH", "DELETE"]

/-- What to be careful about. -/
def warningOf (method : String) : Option String :=
  if mutating.contains method then
    some ("This is a " ++ method ++ " request and may modify data on the external server.")
  else none

/-- A report on a request that sending was attempted of. -/
def Draft.report (d : Draft) : Report where
  isTimed := true
  warning := warningOf d.method
  requestUrl := some d.url

/-- Ends the test with what went wrong when sending was attempted. -/
def Draft.stop {α : Type} (d : Draft) (message : String) : Stage α :=
  .error (.report { d.report with error := some message })

/-- The name of the type of a value that is neither a list nor an object. -/
def typeWord : Json → String
  | .bool _ => "bool"
  | .int _ => "int"
  | .float _ => "float"
  | .str _ => "str"
  | _ => "object"

/-- A header as it is sent: both its name and its value must be ASCII texts. -/
def wireHeader : Json × String → Except String (String × String)
  | (.str name, value) =>
    match (notAscii? name).or (notAscii? value) with
    | some fault => .error fault
    | none => .ok (name, value)
  | (key, _) => .error ("'" ++ typeWord key ++ "' object has no attribute 'encode'")

/-- Whether a timeout can be told in seconds. -/
def fitsSeconds (timeout : Int) : Bool :=
  (Double.ofRatio (timeout < 0) timeout.natAbs 1000).isFinite

/-- The host of an address as it is told in a header, none if the address has no host. -/
def hostHeader? (target : Target) : Except String (Option String) := do
  let host ← target.shownHost.mapError LabelFault.message
  let place := String.ofList target.place
  if host.isEmpty then return none
  match notAscii? place with
  | some fault => throw fault
  | none => return some place

/-- **The request that is sent.** What the client tells of itself comes first, unless the draft
tells it, then what the draft tells, and the credentials at last. -/
def Draft.request (o : Options) (d : Draft) : Except String (Target × Request) := do
  if !fitsSeconds d.timeout then throw "integer division result too large for a float"
  let target ← ((Target.read d.url).bind Target.rooted).mapError TargetFault.message
  let own ← d.headers.mapM wireHeader
  let host ← if Headers.has own Headers.host then pure none else hostHeader? target
  let headers :=
    Headers.automatic d.method host own ++ Headers.merge (Headers.usual o.userAgent) own
  let headers := match Credentials.ofTarget? target with
    | some value => Headers.set headers Headers.authorization value
    | none => headers
  return (target, { method := d.method, url := d.url, headers })

/-! ## The response -/

/-- A response with its headers as texts. -/
def Draft.accept (d : Draft) (given : RawResponse) : Stage Response :=
  match given.read with
  | .ok r => .ok r
  | .error fault => d.stop ("Request failed: " ++ fault)

/-- A response with its body as it was before any coding. -/
def Draft.unpack (d : Draft) (r : Response) : Stage Response :=
  match r.withLength.decoded with
  | .ok r => .ok r
  | .error fault => d.stop ("Network error: " ++ fault.message)

/-- The check of the address of the request, which must have a scheme for a response to be
accepted. -/
def checkScheme (d : Draft) (target : Target) : Stage Unit :=
  if target.scheme.isEmpty then
    d.stop ("Request failed: unknown url type: " ++ quoted (String.ofList target.toText))
  else .ok ()

/-- Where the response redirects to, the check of it. The test does not follow. -/
def checkLocation (d : Draft) (target : Target) (r : Response) : Stage Unit :=
  match r.location? with
  | none => .ok ()
  | some location =>
    match Redirect.check target location with
    | .error (.location fault) =>
      d.stop ("Network error: " ++ (RedirectFault.location fault).message)
    | .error fault => d.stop ("Request failed: " ++ fault.message)
    | .ok () => .ok ()

/-- The body of a response: a value if the content type says so and the text is JSON, the
text otherwise. -/
def bodyOf (r : Response) (text : String) : Stage Json :=
  if Template.occurs "application/json".toList r.contentType.toList && text != "" then
    match Json.read text with
    | .ok v => .ok v
    | .error .tooDeep => .error (.failure .nestedText)
    | .error _ => .ok (.str text)
  else .ok (.str text)

/-- The status code of a response as a number, none for null. -/
def statusOf (r : Response) : Stage (Option Int) :=
  let read := (Checked.nullable Checked.whole r.status).under (.key "status")
  read.orFail.mapError .failure

/-- **What a response comes to.** -/
def conclude (d : Draft) (r : Response) (text : String) : Stage Report := do
  let headers := Headers.join r.headers
  let body ← bodyOf r text
  return { d.report with
    success := true
    status := ← statusOf r
    statusText := some r.phrase
    headers := some headers
    body
    outputSchema := some (Schema.infer
      (.obj [("headers", .obj (headers.mapValues .str)), ("body", body)]) Schema.defaultDepth) }

/-- Reads an answer. -/
def receive (d : Draft) (target : Target) : Answer → Stage Report
  | .timeout => d.stop ("Request timed out after " ++ toString d.timeout ++ "ms")
  | .lost message => d.stop ("Network error: " ++ message)
  | .failed message => d.stop ("Request failed: " ++ message)
  | .response given => do
    let r ← d.unpack (← d.accept given)
    checkScheme d target
    checkLocation d target r
    conclude d r (← r.text.mapError .failure)

/-! ## The test -/

/-- A finished test: the report, and the request if one was sent. -/
structure Run where
  /-- The report. -/
  report : Report
  /-- The request that the endpoint was asked. -/
  sent : Option Request := none
  deriving Inhabited

/-- A test that ended with or without a request. -/
def finish (sent : Option Request) : Stage Report → Outcome Run
  | .ok report => .ok { report, sent }
  | .error (.report report) => .ok { report, sent }
  | .error (.failure f) => .error f

/-- What is to be sent, if it may be sent. -/
def prepare (o : Options) (parameters : Entries Json) (mocks : Json) :
    Stage (Draft × Target × Request) := do
  let d ← draft o parameters mocks
  checkAddress o d.url
  match d.request o with
  | .error message => d.stop ("Request failed: " ++ message)
  | .ok (target, request) => return (d, target, request)

/-- **Carries out a live test.** -/
def run (o : Options) (endpoint : Request → Answer) (parameters : Entries Json)
    (mocks : Json) : Outcome Run :=
  match prepare o parameters mocks with
  | .error halt => finish none (.error halt)
  | .ok (d, target, request) => finish (some request) (receive d target (endpoint request))

end LiveTest

end Workflow
