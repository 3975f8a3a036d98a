import Workflow.Json.Map
import Workflow.Registry
import Workflow.Schema.Document
import Workflow.Schema.Declared

/-!
# Schemas computed from parameters

The rules that come with the program, and what the sides of a node type come to for given
parameters. A cached schema that does not have the form of a schema is ignored; declared
parameters of the wrong form are a failure.
-/

namespace Workflow

namespace SchemaRule

/-- What is known about a request that was made. -/
def executionSchema : Schema :=
  .object (some "Execution metadata") [
    ("success", .boolean (some "Whether the request succeeded")),
    ("error", .string (some "Error message if request failed") none),
    ("duration_ms", .number (some "Request duration in milliseconds")),
    ("http_status", .number (some "HTTP status code")),
    ("http_status_text", .string (some "HTTP status text") none),
    ("request_url", .string (some "The URL that was called") none)]
    ["success", "duration_ms"] false

/-- **The fields that every API call gives**, whatever the endpoint returns. -/
def apiCallBase : Schema :=
  .object none [
    ("type", .string (some "Always 'api_call'") none),
    ("status", .number (some "HTTP status code")),
    ("status_text", .string (some "HTTP status text") none),
    ("headers", .openObject (some "Response headers")),
    ("body", .unknown (some "Response body, JSON parsed when possible")),
    ("_execution", executionSchema)]
    ["type", "_execution"] false

/-- The schema that is cached under a key, if there is one and it has the form of a
schema. -/
def cached (parameters : Entries Json) (key : String) : Option Schema :=
  match Entries.get? parameters key with
  | some v => if v.isTruthy then (Schema.ofJson v).toOption else none
  | none => none

/-- The key under which the schema of what a node gives is cached. -/
def outputKey : String := "resolved_output_schema"

/-- **The schema that is cached** in the parameters, if there is one. -/
def stored : SchemaRule := fun parameters =>
  .ok (cached parameters outputKey)

/-- **The output of a trigger** with the declared parameters. -/
def trigger : SchemaRule := fun parameters => do
  return some (← Schema.ofTrigger (Entries.get? parameters "parameters"))

/-- **The output of an API call** of which no response is known. -/
def apiCall : SchemaRule := fun _ =>
  .ok (some apiCallBase)

/-- No schema. -/
def nothing : SchemaRule := fun _ =>
  .ok none

/-- **One side of a node type**: what its rule comes to, if it has one, and otherwise the fixed
schema. -/
def side (rule : Option SchemaRule) (fixed : Option Schema) (parameters : Entries Json) :
    Outcome (Option Schema) :=
  match rule with
  | some rule => rule parameters
  | none => .ok fixed

end SchemaRule

/-- What is known about a node type without looking at a node. -/
structure TypeSchemas where
  /-- The name of the type. -/
  type : String
  /-- What a new node takes. -/
  input : Option Schema
  /-- What a new node gives. -/
  output : Option Schema
  /-- Whether what a node takes depends on its parameters. -/
  inputVaries : Bool
  /-- Whether what a node gives depends on its parameters. -/
  outputVaries : Bool

/-- The written form of the schemas of a node type. -/
def TypeSchemas.toJson (s : TypeSchemas) : Json := .obj [
  ("node_type", .str s.type), ("input_schema", Schema.optionToJson s.input),
  ("output_schema", Schema.optionToJson s.output), ("has_dynamic_input", .bool s.inputVaries),
  ("has_dynamic_output", .bool s.outputVaries)]

/-- **The schemas of a node type** as it is configured to begin with. -/
def NodeType.schemas (t : NodeType) : Outcome TypeSchemas := do
  let defaults := (← t.defaults.toMap).written
  let input ← SchemaRule.side t.inputRule t.input defaults
  let output ← SchemaRule.side t.outputRule t.output defaults
  return ⟨t.name, input, output, t.inputRule.isSome, t.outputRule.isSome⟩

/-- The schemas of the node type of a name, which must be registered. -/
def Registry.schemasOf (r : Registry) (name : String) : Outcome TypeSchemas := do
  (← r.require name).schemas

/-- The written form of a node type, whose parameters must be a map. -/
def NodeType.toJson (t : NodeType) : Outcome Json := do
  let defaults := (← t.defaults.toMap).written
  return .obj [
    ("name", .str t.name), ("display_name", t.title), ("category", .str t.category.name),
    ("description", t.description), ("input_schema", Schema.optionToJson t.input),
    ("output_schema", Schema.optionToJson t.output),
    ("has_dynamic_input", .bool t.inputRule.isSome),
    ("has_dynamic_output", .bool t.outputRule.isSome), ("default_parameters", .obj defaults)]

end Workflow
