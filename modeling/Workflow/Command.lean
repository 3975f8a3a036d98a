import Workflow.Operation

/-!
# Commands

An operation can also be asked for by its name, with named arguments of any form. The names of
the arguments must fit the operation. An argument of a wrong form does not stop it at once: it is
refused where it is used, after all that is checked before, so that what is told is what is wrong
first.

`Command.task` reads the arguments of a task on a flow, in view of the flow. It refuses them or
comes to a task whose arguments all have the right form.
-/

namespace Workflow

/-- **A command.** -/
structure Command where
  /-- The name of the operation. -/
  name : String
  /-- The arguments by their names. -/
  arguments : Entries Json
  deriving Inhabited

namespace Command

open Checked

/-! ## Arguments -/

/-- The names of the arguments of an operation. -/
structure Signature where
  /-- The operation. -/
  name : String
  /-- The arguments that must be given. -/
  required : List String
  /-- The arguments that may be given. -/
  optional : List String := []

/-- The operations and their arguments. -/
def signatures : List Signature := [
  ⟨"create_flow", ["name"], ["app_id", "description"]⟩,
  ⟨"get_flow", ["flow_id"], []⟩,
  ⟨"list_flows", [], ["app_id"]⟩,
  ⟨"delete_flow", ["flow_id"], []⟩,
  ⟨"list_nodes", ["flow_id"], []⟩,
  ⟨"list_connections", ["flow_id"], []⟩,
  ⟨"add_node", ["flow_id", "node_type", "name"], ["position", "parameters"]⟩,
  ⟨"update_node", ["flow_id", "node_id"], ["name", "position", "parameters"]⟩,
  ⟨"update_node_position", ["flow_id", "node_id", "position"], []⟩,
  ⟨"delete_node", ["flow_id", "node_id"], []⟩,
  ⟨"add_connection", ["flow_id", "source_node_id", "target_node_id"],
    ["source_handle", "target_handle"]⟩,
  ⟨"delete_connection", ["flow_id", "connection_id"], []⟩,
  ⟨"insert_transformer", ["flow_id", "source_node_id", "target_node_id"],
    ["transformer_type", "position"]⟩,
  ⟨"get_node_schema", ["flow_id", "node_id"], []⟩,
  ⟨"get_flow_schemas", ["flow_id"], []⟩,
  ⟨"get_node_type_schema", ["node_type"], []⟩,
  ⟨"resolve_schema", ["flow_id", "node_id"], ["sample_response"]⟩,
  ⟨"validate_flow", ["flow_id"], []⟩,
  ⟨"validate_connection", ["flow_id", "source_node_id", "target_node_id"], []⟩,
  ⟨"test_api_call", ["flow_id", "node_id"], ["mock_values", "save_schema"]⟩]

/-- The signature of an operation. -/
def signature? (name : String) : Option Signature :=
  signatures.find? fun signature => signature.name == name

/-- Whether arguments fit a signature. -/
def Signature.fits (signature : Signature) (arguments : Entries Json) : Bool :=
  signature.required.all (Entries.has arguments) &&
    arguments.all fun a => (signature.required ++ signature.optional).contains a.1

/-- An argument, null if it is not given. -/
def argument (c : Command) (key : String) : Json :=
  (Entries.get? c.arguments key).getD .null

/-- The argument for the position; null is none. -/
def position? (c : Command) : Option (Checked Position) :=
  match c.argument "position" with
  | .null => none
  | v => some (Position.ofJson v)

/-- An argument that is the id of a node. -/
def nodeIn (f : Flow) (v : Json) : Outcome String :=
  match v with
  | .str id => .ok id
  | v => do throw (.nodeNotFound none (← v.display) f.id)

/-- The argument for the node. -/
def node (c : Command) (f : Flow) : Outcome String :=
  nodeIn f (c.argument "node_id")

/-- An argument that is the id of a node at one end of a connection. -/
def endIn (f : Flow) (role : End) (v : Json) : Outcome Node :=
  match v with
  | .str id => f.endNode role id
  | v => do throw (.nodeNotFound (some role) (← v.display) f.id)

/-- The arguments for the nodes at both ends. -/
def ends (c : Command) (f : Flow) : Outcome (Node × Node) := do
  let source ← endIn f .source (c.argument "source_node_id")
  let target ← endIn f .target (c.argument "target_node_id")
  return (source, target)

/-! ## Tasks -/

/-- Adds a node. -/
def addNode (c : Command) (r : Registry) (f : Flow) : Outcome Edit := do
  let name := c.argument "name"
  let type := c.argument "node_type"
  if f.nodes.any fun n => name.text? == some n.name then throw (.nameConflict (← name.display))
  if !type.isKey then throw .unusableKey
  let defaults ← (((type.text?.bind r.get?).map NodeType.defaults).getD (.obj [])).toMap
  let parameters := c.argument "parameters"
  let own ← if parameters.isTruthy then parameters.toMap else pure []
  match name, type, own.checked with
  | .str name, .str type, .ok own => return .addNode type name c.position? own
  | .str _, type, _ =>
    let _ ← Position.orElse {} c.position?
    let refused := both ((text type).under (.key "type"))
      ((defaults.merge own).checked.under (.key "parameters"))
    let _ ← refused.orFail
    throw .notText
  | _, _, _ => throw .notText

/-- Renames, moves and configures a node. -/
def updateNode (c : Command) (f : Flow) : Outcome Edit := do
  let id ← c.node f
  let _ ← f.needNode id
  let parameters ← match c.argument "parameters" with
    | .null => pure none
    | .obj es => pure (some es)
    | _ => throw .notMap
  match c.argument "name" with
  | .null => return .updateNode id ⟨none, c.position?, parameters⟩
  | .str name => return .updateNode id ⟨some name, c.position?, parameters⟩
  | _ => throw .notText

/-- Connects two nodes. Handles that are no texts are told if nothing is wrong with the nodes. -/
def connect (c : Command) (w : Surroundings) (f : Flow) : Outcome Edit := do
  let (source, target) ← c.ends f
  let handles := both
    ((nullable text (c.argument "source_handle")).under (.key "source_handle"))
    ((nullable text (c.argument "target_handle")).under (.key "target_handle"))
  match handles with
  | .ok (sourceHandle, targetHandle) =>
    return .connect source.id sourceHandle target.id targetHandle
  | .bad defects =>
    match f.connect ⟨w.registry, w.freshId, .ok []⟩ source.id none target.id none with
    | .ok _ | .error .duplicateConnection => throw (.invalidDocument defects)
    | .error fault => throw fault

/-- Refuses a value that is no text where the name of a node type is asked for. -/
def unknownType {α : Type} (v : Json) : Outcome α := do
  if v.isKey then throw (.nodeTypeNotFound (← v.display)) else throw .unusableKey

/-- Puts a transform between two nodes. -/
def splice (c : Command) (f : Flow) : Outcome Edit := do
  let (source, target) ← c.ends f
  match (Entries.get? c.arguments "transformer_type").getD (.str Builtin.codeTransformName) with
  | .str type => return .splice source.id target.id type c.position?
  | v => unknownType v

/-- Deletes a connection. -/
def disconnect (c : Command) (f : Flow) : Outcome Edit :=
  match c.argument "connection_id" with
  | .str id => .ok (.disconnect id)
  | v => do throw (.connectionNotFound (← v.display) f.id)

/-- **The task on a flow** that a command asks for. -/
def task (c : Command) (w : Surroundings) (f : Flow) : Outcome FlowTask :=
  match c.name with
  | "get_flow" => .ok .tell
  | "list_nodes" => .ok .listNodes
  | "list_connections" => .ok .listConnections
  | "add_node" => do return .edit (← c.addNode w.registry f)
  | "update_node" => do return .edit (← c.updateNode f)
  | "update_node_position" => do
    return .edit (.moveNode (← c.node f) (c.position?.getD (.ok {})))
  | "delete_node" => do return .edit (.deleteNode (← c.node f))
  | "add_connection" => do return .edit (← c.connect w f)
  | "delete_connection" => do return .edit (← c.disconnect f)
  | "insert_transformer" => do return .edit (← c.splice f)
  | "get_node_schema" => do return .nodeSchemas (← c.node f)
  | "get_flow_schemas" => .ok .flowSchemas
  | "resolve_schema" => do return .resolveSchema (← c.node f) (c.argument "sample_response")
  | "validate_flow" => .ok .validate
  | "validate_connection" => do
    let (source, target) ← c.ends f
    return .validateConnection source.id target.id
  | "test_api_call" => do
    return .testApiCall (← c.node f) (c.argument "mock_values") (c.argument "save_schema").isTruthy
  | _ => .error .notText

/-! ## Commands as a whole -/

/-- The operation that creates a flow. -/
def createFlow (c : Command) : Outcome Operation :=
  let read : Checked Operation :=
    (fun app name description => .createFlow name app description)
      <$> (nullable text (c.argument "app_id")).under (.key "app_id")
      <*> (text (c.argument "name")).under (.key "name")
      <*> (nullable text (c.argument "description")).under (.key "description")
  read.orFail

/-- The operation that tells what new nodes of a type take and give. -/
def typeSchemas (c : Command) : Outcome Operation :=
  match c.argument "node_type" with
  | .str type => .ok (.typeSchemas type)
  | v => unknownType v

variable {σ : Type} [FlowStore σ]

/-- **Carries out a command**: the store as it is then, and the answer. -/
def run (w : Surroundings) (s : σ) (c : Command) : Outcome (σ × Reply) := do
  if !(signature? c.name).any fun signature => signature.fits c.arguments then
    throw .badArguments
  match c.name with
  | "create_flow" => (← c.createFlow).run w s
  | "list_flows" => return (s, .flows (← FlowStore.listBy s (c.argument "app_id")))
  | "get_node_type_schema" => (← c.typeSchemas).run w s
  | "delete_flow" =>
    let f ← FlowStore.needBy s (c.argument "flow_id")
    (Operation.deleteFlow f.id).run w s
  | _ =>
    let f ← FlowStore.needBy s (c.argument "flow_id")
    (Operation.onFlow f.id (← c.task w f)).run w s

/-- **One step**: a command that is refused leaves the store as it was. -/
def step (w : Surroundings) (s : σ) (c : Command) : σ × Outcome Reply :=
  match c.run w s with
  | .ok (s', reply) => (s', .ok reply)
  | .error failure => (s, .error failure)

end Command

end Workflow
