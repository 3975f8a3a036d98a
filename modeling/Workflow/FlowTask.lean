import Workflow.Flow.Edit
import Workflow.LiveTest
import Workflow.Sample

/-!
# Tasks on a flow

All that can be asked of one flow. A task works on the flow as it was loaded and comes to an
`Effect`: the answer, and the flow as it is to be saved if the task changes it. So a task
that is refused, or one that only tells something, has nothing to be saved.

What comes from outside in the course of a task is its `Surroundings`: the node types, fresh
ids, the time, and the endpoints that live tests call. A task that names a trigger also looks
at the other flows of the app.
-/

namespace Workflow

/-- **What an operation draws on** besides the store. -/
structure Surroundings where
  /-- The node types. -/
  registry : Registry
  /-- The ids for what is created, numbered from one on. -/
  freshId : Nat → String
  /-- The time. -/
  now : String
  /-- What becomes of a request. -/
  endpoint : Request → Answer
  /-- How live tests are set up. -/
  liveTests : LiveTest.Options := {}

/-- **What can be asked of a flow.** -/
inductive FlowTask where
  /-- Tells the flow. -/
  | tell
  /-- Tells the nodes. -/
  | listNodes
  /-- Tells the connections. -/
  | listConnections
  /-- Edits the flow. -/
  | edit (edit : Edit)
  /-- Tells what a node takes and gives. -/
  | nodeSchemas (node : String)
  /-- Tells what all nodes take and give. -/
  | flowSchemas
  /-- Learns what a node gives, from a sample where that is needed. -/
  | resolveSchema (node : String) (sample : Json)
  /-- Validates the flow. -/
  | validate
  /-- Validates two nodes that may be connected. -/
  | validateConnection (source target : String)
  /-- Carries out the request of an API call, and learns from the response if asked to. -/
  | testApiCall (node : String) (mocks : Json) (save : Bool)

/-- What was learned about what a node gives. -/
structure Resolution where
  /-- The id of the node. -/
  node : String
  /-- Whether all is known. -/
  isResolved : Bool
  /-- What it gives. -/
  output : Option Schema
  deriving Inhabited

/-- The written form of what was learned. -/
def Resolution.toJson (r : Resolution) : Json := .obj [
  ("node_id", .str r.node), ("resolved", .bool r.isResolved),
  ("output_schema", Schema.optionToJson r.output), ("error", .null)]

/-- **The answer to an operation.** -/
inductive Reply where
  /-- There is nothing to tell. -/
  | done
  /-- A flow. -/
  | flow (f : Flow)
  /-- Flows. -/
  | flows (fs : List Flow)
  /-- Nodes. -/
  | nodes (ns : List Node)
  /-- Connections. -/
  | connections (cs : List Connection)
  /-- What there is to tell about an edit. -/
  | edited (result : Edit.Result)
  /-- What a node takes and gives. -/
  | nodeSchemas (s : NodeSchemas)
  /-- What nodes take and give. -/
  | flowSchemas (ss : List NodeSchemas)
  /-- What new nodes of a type take and give. -/
  | typeSchemas (s : TypeSchemas)
  /-- What was learned about what a node gives. -/
  | resolution (r : Resolution)
  /-- The report on a flow. -/
  | flowReport (r : FlowReport)
  /-- The report on a pair of nodes. -/
  | pairReport (r : Flow.PairReport)
  /-- The report of a live test, and the request if one was sent. -/
  | testReport (r : LiveTest.Report) (sent : Option Request)

/-- The written form of an answer. -/
def Reply.toJson : Reply → Json
  | .done => .null
  | .flow f => f.toJson
  | .flows fs => .arr (fs.map Flow.toJson)
  | .nodes ns => .arr (ns.map Node.toJson)
  | .connections cs => .arr (cs.map Connection.toJson)
  | .edited result => result.toJson
  | .nodeSchemas s => s.toJson
  | .flowSchemas ss => .arr (ss.map NodeSchemas.toJson)
  | .typeSchemas s => s.toJson
  | .resolution r => r.toJson
  | .flowReport r => r.toJson
  | .pairReport r => r.toJson
  | .testReport r _ => r.toJson

/-- Whether the values in an answer are flat enough to be written. -/
def Reply.isWritable : Reply → Bool
  | .flow f => f.isWritable
  | .flows fs => fs.all Flow.isWritable
  | .nodes ns => ns.all Node.isWritable
  | .edited result => result.isWritable
  | .testReport r _ => r.body.isWritable
  | _ => true

/-- The written form of an answer, which must be flat enough. -/
def Reply.written (r : Reply) : Outcome Json :=
  if r.isWritable then .ok r.toJson else .error .tooDeep

/-- **What a task comes to.** -/
structure Effect where
  /-- The answer. -/
  reply : Reply
  /-- The flow to be saved, if the task changes it. -/
  changed : Option Flow := none

namespace FlowTask

/-- Learns what a node gives: an API call from a sample, which it keeps, and any other node
from its parameters. -/
def resolve (w : Surroundings) (f : Flow) (node : String) (sample : Json) : Outcome Effect := do
  let n ← f.needNode node
  if n.type = Builtin.apiCallName then
    let value ← Sample.read sample
    let schema := Schema.infer value Schema.defaultDepth
    let (g, _) ← f.keepSchema node schema
    return { reply := .resolution ⟨node, true, some schema⟩, changed := some g }
  else if n.type = Builtin.triggerName then
    let schema ← Schema.ofTrigger (Entries.get? n.parameters "parameters")
    return { reply := .resolution ⟨node, true, some schema⟩ }
  else
    let known ← n.schemas w.registry
    return { reply := .resolution ⟨node, known.outputKnowledge == .defined, known.output⟩ }

/-- Carries out the request of an API call. What was learned is kept if that was asked for and
a response came. -/
def test (w : Surroundings) (f : Flow) (node : String) (mocks : Json)
    (save : Bool) : Outcome Effect := do
  let n ← f.needNode node
  if n.type ≠ Builtin.apiCallName then throw (.notApiCall node n.type)
  let run ← LiveTest.run w.liveTests w.endpoint n.parameters mocks
  match run.report.success && save, run.report.outputSchema with
  | true, some schema =>
    let (g, _) ← f.keepSchema node schema
    return { reply := .testReport { run.report with schemaSaved := true } run.sent,
             changed := some g }
  | _, _ => return { reply := .testReport run.report run.sent }

/-- **Carries out a task** on a flow as it was loaded, given the other flows of its app. -/
def run (w : Surroundings) (siblings : Outcome (List Flow)) (f : Flow) :
    FlowTask → Outcome Effect
  | .tell => .ok { reply := .flow f }
  | .listNodes => .ok { reply := .nodes f.nodes }
  | .listConnections => .ok { reply := .connections f.connections }
  | .edit e => do
    let (g, result) ← e.apply f ⟨w.registry, w.freshId, siblings⟩
    return { reply := .edited result, changed := some g }
  | .nodeSchemas node => do
    let n ← f.needNode node
    return { reply := .nodeSchemas (← n.schemas w.registry) }
  | .flowSchemas => do
    return { reply := .flowSchemas (← f.nodes.mapM fun n => n.schemas w.registry) }
  | .resolveSchema node sample => resolve w f node sample
  | .validate => do return { reply := .flowReport (← f.validate w.registry) }
  | .validateConnection source target => do
    return { reply := .pairReport (← f.validateConnection w.registry source target) }
  | .testApiCall node mocks save => test w f node mocks save

end FlowTask

end Workflow
