import Workflow.Endpoint.Percent
import Workflow.Endpoint.Target

/-!
# Routes

The paths at which the API answers. A path is cut at its slashes after escapes were
resolved; its segments are fixed words and ids, and an id is never empty.
-/

namespace Workflow

/-- **What a path leads to.** -/
inductive Route where
  /-- The API itself. -/
  | root
  /-- All flows. -/
  | flows
  /-- One flow. -/
  | flow (flow : String)
  /-- The nodes of a flow. -/
  | nodes (flow : String)
  /-- One node. -/
  | node (flow node : String)
  /-- The position of a node. -/
  | position (flow node : String)
  /-- What a node takes and gives. -/
  | nodeSchema (flow node : String)
  /-- The learning of what a node gives. -/
  | resolution (flow node : String)
  /-- The live test of a node. -/
  | test (flow node : String)
  /-- The connections of a flow. -/
  | connections (flow : String)
  /-- One connection, or the check of two nodes. -/
  | connection (flow connection : String)
  /-- The transforms between nodes. -/
  | transformers (flow : String)
  /-- What the nodes of a flow take and give. -/
  | schemas (flow : String)
  /-- The validation of a flow. -/
  | validation (flow : String)
  /-- All node types. -/
  | nodeTypes
  /-- What new nodes of a type take and give. -/
  | typeSchema (type : String)
  /-- A page that describes the API. -/
  | page (name : String)
  deriving DecidableEq, Inhabited

namespace Route

open Workflow.Text

/-- The segments of a path without those that lead nowhere: a point stays, and two points go
back. -/
def withoutDots (segments : List (List Char)) : List (List Char) :=
  segments.foldl (fun acc segment =>
    if segment = ['.'] then acc
    else if segment = ['.', '.'] then (if acc = [] ∨ acc = [[]] then acc else acc.dropLast)
    else acc ++ [segment]) []

/-- The path of an address as the API sees it. Slashes in front count as one, and escapes are
resolved twice, by the client and by the server. -/
def pathOf (address : String) : List Char :=
  let path := (Pieces.ofText address.toList).path.dropWhile (· == '/')
  let segments := withoutDots (cutAt '/' ('/' :: path))
  Percent.decode (Percent.decode (List.intercalate ['/'] segments))

/-- The segments of a path, which begins with a slash. -/
def segmentsOf (path : List Char) : List String :=
  (cutAt '/' (path.drop 1)).map String.ofList

/-- What the segments below a flow lead to. -/
def below (flow : String) : List String → Option Route
  | [] => some (.flow flow)
  | ["nodes"] => some (.nodes flow)
  | ["nodes", id] => some (.node flow id)
  | ["nodes", id, "position"] => some (.position flow id)
  | ["nodes", id, "schema"] => some (.nodeSchema flow id)
  | ["nodes", id, "schema", "resolve"] => some (.resolution flow id)
  | ["nodes", id, "test"] => some (.test flow id)
  | ["connections"] => some (.connections flow)
  | ["connections", id] => some (.connection flow id)
  | ["transformers"] => some (.transformers flow)
  | ["schemas"] => some (.schemas flow)
  | ["validation"] => some (.validation flow)
  | _ => none

/-- The pages that describe the API. -/
def pages : List String := ["docs", "redoc", "openapi.json"]

/-- What segments lead to. -/
def ofSegments? (segments : List String) : Option Route :=
  if segments = [""] then some .root
  else if segments.contains "" then none
  else
    match segments with
    | ["api", "flows"] => some .flows
    | "api" :: "flows" :: id :: rest => below id rest
    | ["api", "node-types"] => some .nodeTypes
    | ["api", "node-types", type, "schema"] => some (.typeSchema type)
    | [name] => if pages.contains name then some (.page name) else none
    | ["docs", "oauth2-redirect"] => some (.page "oauth2-redirect")
    | _ => none

/-- The segments without a line feed at their end. -/
def withoutLineFeed? (segments : List String) : Option (List String) :=
  match segments.getLast?.map fun s => s.toList.reverse with
  | some ('\n' :: rest) => some (segments.dropLast ++ [String.ofList rest.reverse])
  | _ => none

/-- **What a path leads to.** A line feed may follow a fixed word at the end. -/
def ofPath? (path : List Char) : Option Route :=
  (ofSegments? (segmentsOf path)).or ((withoutLineFeed? (segmentsOf path)).bind ofSegments?)

/-- A path without slashes at its end. -/
def withoutEndSlashes (path : List Char) : List Char :=
  (path.reverse.dropWhile (· == '/')).reverse

/-- Whether a path leads somewhere once slashes at its end are dropped. -/
def redirects (path : List Char) : Bool :=
  path.getLast? == some '/' && path != ['/'] && path.any (· != '/')
    && (ofPath? (withoutEndSlashes path)).isSome

end Route

end Workflow
