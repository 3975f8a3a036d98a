import Workflow.Http.Route
import Workflow.Http.Body

/-!
# The HTTP interface

A request names an operation by its method and its path and gives what else is needed in its
body. The answer is a status code with a JSON value, with the defects of the body, or with a
plain text.

A refusal is answered with the status code of its sort, its wording and its name; any other
failure is an internal error. An answer that cannot be written is an internal error too, even
though the operation took effect. Numbers that are not finite are written as null.
-/

namespace Workflow

namespace Http

/-- **A request to the API.** -/
structure Call where
  /-- The method. -/
  method : String
  /-- The address, without the host. -/
  address : String
  /-- What follows the question mark, decoded. -/
  query : List (String × String) := []
  /-- The body; empty if there is none. -/
  body : String := ""
  deriving Inhabited

/-- **What a request is answered with.** -/
inductive Answer where
  /-- A JSON value. -/
  | json (status : Nat) (value : Json)
  /-- The defects of the body. -/
  | defects (ds : List Defect)
  /-- A plain text. -/
  | text (status : Nat) (text : String)
  deriving Inhabited

/-- The status code of an answer. -/
def Answer.status : Answer → Nat
  | .json status _ => status
  | .defects _ => 422
  | .text status _ => status

/-- What a method does at a route. -/
inductive Action where
  /-- It tells something that does not depend on the flows. -/
  | tell (value : Outcome Json)
  /-- It shows a page. -/
  | present (name : String)
  /-- It carries out an operation, if the body is what it should be. -/
  | carryOut (op : Body.Reading Operation)
  /-- It deletes what has an id. -/
  | delete (op : Operation) (id : String)

/-- The last value of a name in a query. -/
def queried? (query : List (String × String)) (name : String) : Option String :=
  (query.reverse.find? fun entry => entry.1 == name).map Prod.snd

/-- The version of the API. -/
def version : String := "0.1.0"

/-- What stands for the place of the database, which is not told. -/
def databasePlace : String := "<path>"

/-- What the API tells about itself. -/
def about : Json := .obj [
  ("status", .str "ok"), ("version", .str version), ("flow_db", .str databasePlace),
  ("endpoints", .obj [("flows", .str "/api/flows"), ("node_types", .str "/api/node-types")])]

/-- What there is to tell about all node types. -/
def shownTypes (r : Registry) : Outcome Json := do
  return .arr (← r.shown.mapM NodeType.toJson)

/-- **What a method does at a route**; none if it is not allowed there. -/
def action? (r : Registry) (call : Call) : Route → Option Action
  | .root => if call.method = "GET" then some (.tell (.ok about)) else none
  | .flows =>
    match call.method with
    | "GET" => some (.carryOut (.ok (.listFlows (queried? call.query "app_id"))))
    | "POST" => some (.carryOut (Body.read call.body Body.newFlow))
    | _ => none
  | .flow flow =>
    match call.method with
    | "GET" => some (.carryOut (.ok (.onFlow flow .tell)))
    | "DELETE" => some (.delete (.deleteFlow flow) flow)
    | _ => none
  | .nodes flow =>
    match call.method with
    | "GET" => some (.carryOut (.ok (.onFlow flow .listNodes)))
    | "POST" => some (.carryOut (Body.read call.body (Body.newNode flow)))
    | _ => none
  | .node flow node =>
    match call.method with
    | "PATCH" => some (.carryOut (Body.read call.body (Body.nodeUpdate flow node)))
    | "DELETE" => some (.delete (.onFlow flow (.edit (.deleteNode node))) node)
    | _ => none
  | .position flow node =>
    if call.method = "PATCH" then
      some (.carryOut (Body.read call.body (Body.newPosition flow node)))
    else none
  | .nodeSchema flow node =>
    if call.method = "GET" then some (.carryOut (.ok (.onFlow flow (.nodeSchemas node)))) else none
  | .resolution flow node =>
    if call.method = "POST" then some (.carryOut (Body.read call.body (Body.sample flow node)))
    else none
  | .test flow node =>
    if call.method = "POST" then some (.carryOut (Body.read call.body (Body.test flow node)))
    else none
  | .connections flow =>
    match call.method with
    | "GET" => some (.carryOut (.ok (.onFlow flow .listConnections)))
    | "POST" => some (.carryOut (Body.read call.body (Body.newConnection flow)))
    | _ => none
  | .connection flow connection =>
    if call.method = "DELETE" then
      some (.delete (.onFlow flow (.edit (.disconnect connection))) connection)
    else if call.method = "POST" ∧ (connection = "validate" ∨ connection = "validate\n") then
      some (.carryOut (Body.read call.body (Body.pair flow)))
    else none
  | .transformers flow =>
    if call.method = "POST" then
      some (.carryOut (Body.read call.body (Body.newTransformer flow)))
    else none
  | .schemas flow =>
    if call.method = "GET" then some (.carryOut (.ok (.onFlow flow .flowSchemas))) else none
  | .validation flow =>
    if call.method = "GET" then some (.carryOut (.ok (.onFlow flow .validate))) else none
  | .nodeTypes =>
    if call.method = "GET" then some (.tell (shownTypes r)) else none
  | .typeSchema type =>
    if call.method = "GET" then some (.carryOut (.ok (.typeSchemas type))) else none
  | .page name => if call.method = "GET" ∨ call.method = "HEAD" then some (.present name) else none

/-- The answer to what should not happen. -/
def broken : Answer := .text 500 "Internal Server Error"

/-- The answer to a failure. -/
def refusal (f : Failure) : Answer :=
  match f.family?, f.label? with
  | some family, some label =>
    .json family.status (.obj [("detail", .str f.message), ("error", .str label)])
  | _, _ => broken

/-- The answer that tells what an operation replied. -/
def told (reply : Reply) : Answer :=
  match reply.written with
  | .ok v => .json 200 v.written
  | .error f => refusal f

/-- A plain explanation. -/
def detail (status : Nat) (text : String) : Answer :=
  .json status (.obj [("detail", .str text)])

variable {σ : Type} [FlowStore σ]

/-- Does what a method does at a route. -/
def perform (w : Surroundings) (s : σ) : Action → σ × Answer
  | .tell (.ok value) => (s, .json 200 value)
  | .tell (.error f) => (s, refusal f)
  | .present name => (s, .text 200 name)
  | .carryOut (.bad ds) => (s, .defects ds)
  | .carryOut .unreadable => (s, detail 400 "There was an error parsing the body")
  | .carryOut .unreportable => (s, broken)
  | .carryOut (.ok op) =>
    match op.step w s with
    | (s', .ok reply) => (s', told reply)
    | (s', .error f) => (s', refusal f)
  | .delete op id =>
    match op.step w s with
    | (s', .ok _) => (s', .json 200 (.obj [("deleted", .str id)]))
    | (s', .error f) => (s', refusal f)

/-- Answers a request, the body of the answer included. -/
def answer (w : Surroundings) (s : σ) (call : Call) : σ × Answer :=
  let path := Route.pathOf call.address
  match Route.ofPath? path with
  | some route =>
    match action? w.registry call route with
    | some action => perform w s action
    | none => (s, detail 405 "Method Not Allowed")
  | none =>
    if Route.redirects path then (s, .text 307 "") else (s, detail 404 "Not Found")

/-- **Answers a request.** If only the head of the answer was asked for, there is no body. -/
def respond (w : Surroundings) (s : σ) (call : Call) : σ × Answer :=
  let (s', answer) := answer w s call
  if call.method = "HEAD" then (s', .text answer.status "") else (s', answer)

end Http

end Workflow
