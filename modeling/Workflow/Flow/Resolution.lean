import Workflow.Flow
import Workflow.Registry.Rules
import Workflow.Registry.Builtin
import Workflow.Schema.Layering

/-!
# What a node takes and gives

The schemas of a node follow from its type and its parameters. For most types the registry
says all there is to say. Three types have rules of their own: a trigger gives its declared
parameters, an API call gives the fixed fields with the sample laid over them, and a
component takes what its input schema says.

Of each side it is also said how much is known: nothing, everything, or that it could be
known once a sample is there.
-/

namespace Workflow

/-- How much is known about one side of a node. -/
inductive Knowledge where
  /-- Nothing. -/
  | unknown
  /-- Not yet what a sample would show. -/
  | pending
  /-- All there is to know. -/
  | defined
  deriving DecidableEq, Inhabited

/-- The written name of a degree of knowledge. -/
def Knowledge.name : Knowledge → String
  | .unknown => "unknown"
  | .pending => "pending"
  | .defined => "defined"

/-- A side is known if it has a schema. -/
def Knowledge.of (schema : Option Schema) : Knowledge :=
  if schema.isSome then .defined else .unknown

/-- **What a node takes and gives.** -/
structure NodeSchemas where
  /-- The id of the node. -/
  node : String
  /-- The name of its type. -/
  type : String
  /-- How much is known about what it takes. -/
  inputKnowledge : Knowledge
  /-- What it takes. -/
  input : Option Schema
  /-- How much is known about what it gives. -/
  outputKnowledge : Knowledge
  /-- What it gives. -/
  output : Option Schema
  deriving Inhabited

/-- The written form of the schemas of a node. -/
def NodeSchemas.toJson (s : NodeSchemas) : Json := .obj [
  ("node_id", .str s.node), ("node_type", .str s.type),
  ("input_state", .str s.inputKnowledge.name), ("input_schema", Schema.optionToJson s.input),
  ("output_state", .str s.outputKnowledge.name), ("output_schema", Schema.optionToJson s.output)]

namespace Node

/-- A node whose sides are given. -/
def withSides (n : Node) (input output : Option Schema) : NodeSchemas :=
  ⟨n.id, n.type, .of input, input, .of output, output⟩

/-- The schemas of a trigger. It takes nothing. -/
def triggerSchemas (n : Node) : Outcome NodeSchemas := do
  let output ← Schema.ofTrigger (Entries.get? n.parameters "parameters")
  return n.withSides none (some output)

/-- The schemas of an API call. What it gives is known once a sample was resolved. -/
def apiCallSchemas (n : Node) (type : NodeType) : Outcome NodeSchemas := do
  let base := SchemaRule.apiCallBase
  match SchemaRule.cached n.parameters SchemaRule.outputKey with
  | none => return ⟨n.id, n.type, .of type.input, type.input, .pending, some base⟩
  | some stored => return n.withSides type.input (some (← Schema.layerOver base stored))

/-- The schemas of a component. It gives anything. -/
def componentSchemas (n : Node) : NodeSchemas :=
  n.withSides (SchemaRule.cached n.parameters "input_schema") (some (.openObject none))

/-- The schemas of a node whose type has no rule of its own. -/
def typeSchemas (n : Node) (type : NodeType) : Outcome NodeSchemas := do
  let input ← SchemaRule.side type.inputRule type.input n.parameters
  let output ← SchemaRule.side type.outputRule type.output n.parameters
  return n.withSides input output

/-- **What a node takes and gives.** Nothing is known about a node whose type is not
registered. -/
def schemas (n : Node) (r : Registry) : Outcome NodeSchemas :=
  match r.get? n.type with
  | none => .ok (n.withSides none none)
  | some type =>
    if n.type = Builtin.triggerName then n.triggerSchemas
    else if n.type = Builtin.apiCallName then n.apiCallSchemas type
    else if n.type = Builtin.componentName then .ok n.componentSchemas
    else n.typeSchemas type

end Node

end Workflow
