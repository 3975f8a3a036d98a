import Workflow.Flow.Resolution
import Workflow.Schema.Compatibility

/-!
# Validation

A flow may be in a state that is legal but will not work: a node is fed with data that it
cannot use, a link follows something that is no interface node, or a transform has no input.
Validation finds such problems and reports them; it refuses only what it cannot find.

`Flow.validate` looks at all connections and all transforms. `Flow.validateConnection` looks
at two nodes that may or may not be connected yet, and suggests node types that could stand
between them.
-/

namespace Workflow

/-- How sure it is that a transform helps. -/
inductive Confidence where
  | high
  | medium
  deriving DecidableEq, Inhabited

/-- The written name of a degree of confidence. -/
def Confidence.name : Confidence → String
  | .high => "high"
  | .medium => "medium"

/-- A node type that may repair a connection. -/
structure Suggestion where
  /-- The name of the type. -/
  type : String
  /-- The name under which it is shown. -/
  title : String
  /-- What it is for. -/
  description : String
  /-- How sure it is that it helps. -/
  confidence : Confidence
  deriving DecidableEq, Inhabited

/-- The written form of a suggestion. -/
def Suggestion.toJson (s : Suggestion) : Json := .obj [
  ("node_type", .str s.type), ("display_name", .str s.title),
  ("description", .str s.description), ("confidence", .str s.confidence.name)]

/-- How sure it is that a transform helps. Code can reshape anything. -/
def Confidence.ofType (t : NodeType) : Confidence :=
  if t.name = Builtin.codeTransformName then .high else .medium

/-- The suggestion of a transform, whose title and description must be texts. -/
def Suggestion.ofType (t : NodeType) : Outcome Suggestion :=
  let read : Checked Suggestion :=
    (fun title description => ⟨t.name, title, description, .ofType t⟩)
      <$> (Checked.text t.title).under (.key "display_name")
      <*> (Checked.text t.description).under (.key "description")
  read.orFail

/-- **The transforms that may repair a connection**, the surest first. Only a connection with
issues needs one. -/
def Registry.suggest (r : Registry) (status : Status) : Outcome (List Suggestion) :=
  match status with
  | .warning | .error => do
    let all ← (r.ofCategory .transform).mapM Suggestion.ofType
    return (all.filter fun s => s.confidence == .high) ++
      all.filter fun s => s.confidence != .high
  | _ => .ok []

/-- The outcome for one connection of a flow. -/
structure ConnectionReport where
  /-- The id of the connection. -/
  connection : String
  /-- The node whose output is used. -/
  source : String
  /-- The node whose input is fed. -/
  target : String
  /-- What the comparison comes to. -/
  status : Status
  /-- What is wrong. -/
  issues : List Issue
  deriving DecidableEq, Inhabited

/-- The written form of the outcome for a connection. -/
def ConnectionReport.toJson (c : ConnectionReport) : Json := .obj [
  ("connection_id", .str c.connection), ("source_node_id", .str c.source),
  ("target_node_id", .str c.target), ("status", .str c.status.name),
  ("issues", .arr (c.issues.map Issue.toJson))]

/-- A transform that is not fed. -/
structure NodeProblem where
  /-- The id of the node. -/
  node : String
  /-- The name of its type. -/
  type : String
  /-- The name under which it is shown. -/
  name : String
  deriving DecidableEq, Inhabited

/-- The written form of a problem of a node. -/
def NodeProblem.toJson (p : NodeProblem) : Json := .obj [
  ("node_id", .str p.node), ("node_type", .str p.type),
  ("error_code", .str "TRANSFORM_NO_INPUT"),
  ("message", .str ("Transform node \"" ++ p.name ++ "\" has no input connection. " ++
    "Transform nodes require an input to process."))]

/-- What the validation of a flow comes to. -/
inductive FlowStatus where
  | valid
  | warnings
  | errors
  deriving DecidableEq, Inhabited

/-- The written name of the status of a flow. -/
def FlowStatus.name : FlowStatus → String
  | .valid => "valid"
  | .warnings => "warnings"
  | .errors => "errors"

/-- **How many connections come to what.** -/
structure Summary where
  /-- The number of all connections. -/
  total : Nat
  /-- The number of those that fit. -/
  compatible : Nat
  /-- The number of those with a warning. -/
  warnings : Nat
  /-- The number of those with an error. -/
  errors : Nat
  /-- The number of those of which nothing is known. -/
  unknown : Nat
  deriving DecidableEq, Inhabited

namespace Summary

/-- The summary of outcomes. -/
def ofOutcomes (connections : List ConnectionReport) : Summary :=
  let count (status : Status) := connections.countP fun c => c.status == status
  ⟨connections.length, count .compatible, count .warning, count .error, count .unknown⟩

/-- The written form of a summary. -/
def toJson (s : Summary) : Json := .obj [
  ("total", .int s.total), ("compatible", .int s.compatible), ("warnings", .int s.warnings),
  ("errors", .int s.errors), ("unknown", .int s.unknown)]

end Summary

/-- What a flow comes to, by the summary of its connections and the problems of its nodes. -/
def FlowStatus.ofSummary (summary : Summary) (problems : List NodeProblem) : FlowStatus :=
  if summary.errors ≠ 0 ∨ problems ≠ [] then .errors
  else if summary.warnings ≠ 0 then .warnings
  else .valid

/-- **The report on a flow.** -/
structure FlowReport where
  /-- The id of the flow. -/
  flow : String
  /-- What the report comes to. -/
  status : FlowStatus
  /-- How many connections come to what. -/
  summary : Summary
  /-- The outcomes for the connections, in their order. -/
  connections : List ConnectionReport
  /-- The transforms that are not fed, in the order of the nodes. -/
  problems : List NodeProblem
  deriving Inhabited

/-- The written form of a report. -/
def FlowReport.toJson (r : FlowReport) : Json := .obj [
  ("flow_id", .str r.flow), ("status", .str r.status.name), ("summary", r.summary.toJson),
  ("connections", .arr (r.connections.map ConnectionReport.toJson)),
  ("node_errors", .arr (r.problems.map NodeProblem.toJson))]

namespace Flow

/-- The issue of a link that follows something that is no interface node. -/
def linkIssue (category : Option Category) : Issue where
  type := .linkConstraint
  severity := .error
  path := ""
  message := "Link nodes can only be connected after UI nodes (interface category)"
  sourceValue := category.map Category.name
  targetValue := some Category.interface.name

/-- **The check of a pair of nodes**, of which each may be absent. The rule for links comes
before the schemas. -/
def checkPair (r : Registry) (source target : Option Node) (producer consumer : Option Schema) :
    Schema.Verdict :=
  let category := source.bind fun n => r.categoryOf n.type
  if (target.any fun n => n.type == Builtin.linkName) && category != some .interface then
    ⟨.error, [linkIssue category], producer, consumer⟩
  else Schema.check producer consumer

/-- The last node with an id. -/
def lastNode? (f : Flow) (id : String) : Option Node :=
  f.nodes.reverse.find? fun n => n.id == id

/-- The last schemas of a node with an id. -/
def lastSchemas? (schemas : List NodeSchemas) (id : String) : Option NodeSchemas :=
  schemas.reverse.find? fun s => s.node == id

/-- The outcome for one connection, given the schemas of all nodes. -/
def reportOn (f : Flow) (r : Registry) (schemas : List NodeSchemas) (c : Connection) :
    ConnectionReport :=
  let verdict := checkPair r (f.lastNode? c.source) (f.lastNode? c.target)
    ((lastSchemas? schemas c.source).bind NodeSchemas.output)
    ((lastSchemas? schemas c.target).bind NodeSchemas.input)
  ⟨c.id, c.source, c.target, verdict.status, verdict.issues⟩

/-- Whether a node is a transform that no connection leads to. -/
def isUnfed (f : Flow) (r : Registry) (n : Node) : Bool :=
  r.categoryOf n.type == some .transform && !f.connections.any fun c => c.target == n.id

/-- The transforms that are not fed. -/
def problems (f : Flow) (r : Registry) : List NodeProblem :=
  (f.nodes.filter (f.isUnfed r)).map fun n => ⟨n.id, n.type, n.name⟩

/-- **The validation of a flow.** Every node is resolved once. -/
def validate (f : Flow) (r : Registry) : Outcome FlowReport := do
  let schemas ← f.nodes.mapM fun n => n.schemas r
  let connections := f.connections.map (f.reportOn r schemas)
  let problems := f.problems r
  let summary := Summary.ofOutcomes connections
  return ⟨f.id, .ofSummary summary problems, summary, connections, problems⟩

/-- The node at one end of a connection. -/
def endNode (f : Flow) (role : End) (id : String) : Outcome Node :=
  match f.findNode? id with
  | some n => .ok n
  | none => .error (.nodeNotFound (some role) id f.id)

/-- The check of a pair of nodes and what may repair it. -/
structure PairReport where
  /-- What the check comes to. -/
  verdict : Schema.Verdict
  /-- The node types that may stand between the two nodes. -/
  suggestions : List Suggestion

/-- The written form of the check of a pair. -/
def PairReport.toJson (p : PairReport) : Json := .obj [
  ("status", .str p.verdict.status.name),
  ("issues", .arr (p.verdict.issues.map Issue.toJson)),
  ("source_schema", Schema.optionToJson p.verdict.source),
  ("target_schema", Schema.optionToJson p.verdict.target),
  ("suggested_transformers", .arr (p.suggestions.map Suggestion.toJson))]

/-- **The check of two nodes** that may be connected. -/
def validateConnection (f : Flow) (r : Registry) (source target : String) :
    Outcome PairReport := do
  let s ← f.endNode .source source
  let t ← f.endNode .target target
  let produced ← s.schemas r
  let consumed ← t.schemas r
  let verdict := checkPair r (some s) (some t) produced.output consumed.input
  return ⟨verdict, ← r.suggest verdict.status⟩

end Flow

end Workflow
