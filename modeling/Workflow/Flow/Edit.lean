import Workflow.Flow.Cycle
import Workflow.Flow.ToolName
import Workflow.Flow.Validation
import Workflow.Reference
import Workflow.Flow.Document

/-!
# Edits

The changes that can be made to a flow. An edit is a function from the flow as it was to the
flow as it is then and what there is to tell about the change. All conditions are checked
first, so an edit that is refused has no flow to show for it.

What a legal flow is:

* names and slugs of nodes are unique;
* no connection leads to a trigger, and only interface nodes lead to a link;
* the graph has no cycle, and no two connections have the same ends;
* both ends of every connection are there.

The edits keep these conditions; they do not establish them for a flow that came from
elsewhere.

An edit draws on three things outside the flow (`Setting`): the node types, ids that are not
in use, and the other flows of the app, among whose triggers tool names are unique.
-/

namespace Workflow

/-- **What an edit draws on** besides the flow itself. -/
structure Setting where
  /-- The node types. -/
  registry : Registry
  /-- The ids for what is created, numbered from one on. -/
  freshId : Nat → String
  /-- The other flows of the app that owns the flow. -/
  siblings : Outcome (List Flow)

/-- What an update of a node asks for. What is absent stays as it is. -/
structure NodeUpdate where
  /-- The new name. -/
  name : Option String := none
  /-- The new position. -/
  position : Option (Checked Position) := none
  /-- The parameters to lay over those that the node has. -/
  parameters : Option (Entries Json) := none

/-- **An edit of a flow.** A position may turn out to be malformed, which is told only when the
edit is fine otherwise. -/
inductive Edit where
  /-- Adds a node. -/
  | addNode (type name : String) (position : Option (Checked Position))
      (parameters : Entries Json)
  /-- Renames, moves and configures a node. -/
  | updateNode (node : String) (update : NodeUpdate)
  /-- Moves a node. -/
  | moveNode (node : String) (position : Checked Position)
  /-- Deletes a node and the connections at it. -/
  | deleteNode (node : String)
  /-- Connects two nodes. -/
  | connect (source : String) (sourceHandle : Option String) (target : String)
      (targetHandle : Option String)
  /-- Deletes a connection. -/
  | disconnect (connection : String)
  /-- Puts a transform between two nodes. -/
  | splice (source target type : String) (position : Option (Checked Position))

/-- What there is to tell about an edit. -/
inductive Edit.Result where
  /-- A node as it is now. -/
  | node (n : Node)
  /-- A connection as it is now. -/
  | connection (c : Connection)
  /-- A transform and the connections to and from it. -/
  | splice (node : Node) (before after : Connection)
  /-- Nothing. -/
  | nothing
  deriving Inhabited

/-! ## Nodes -/

namespace Node

/-- The parameters that say where the request of an API call goes. -/
def requestKeys : List String := ["url", "method"]

/-- Whether a parameter would get another value. -/
def changes (n : Node) (updates : Entries Json) (key : String) : Bool :=
  match Entries.get? updates key with
  | some v => !Json.same v ((Entries.get? n.parameters key).getD .null)
  | none => false

/-- Whether the schema that an API call keeps would be about another request. -/
def outdates (n : Node) (updates : Entries Json) : Bool :=
  n.type == Builtin.apiCallName
    && !Entries.has updates SchemaRule.outputKey
    && (Entries.get? n.parameters SchemaRule.outputKey).any Json.isTruthy
    && requestKeys.any (n.changes updates)

/-- **The node with parameters laid over its own.** A schema about another request is
dropped. -/
def configured (n : Node) (updates : Entries Json) : Node :=
  let own :=
    if n.outdates updates then Entries.put n.parameters SchemaRule.outputKey .null
    else n.parameters
  { n with parameters := Entries.merge own updates }

/-- The node with the schema of what it gives. -/
def keeping (n : Node) (schema : Schema) : Node :=
  { n with parameters := Entries.put n.parameters SchemaRule.outputKey schema.toJson }

/-- The node with a tool name. -/
def withToolName (n : Node) (name : String) : Node :=
  { n with parameters := Entries.put n.parameters toolNameKey (.str name) }

/-- The trigger with the parameters that every trigger has. -/
def withTriggerDefaults (n : Node) : Node :=
  { n with
    parameters := Builtin.triggerDefaults.foldl (fun es d => Entries.putNew es d.1 d.2)
      n.parameters }

/-- A text with its references to a slug redirected, any other value as it is. -/
def redirectText (old new : String) : Json → Json
  | .str text => .str (Reference.redirect old new text)
  | v => v

/-- The map with the value at a key replaced, if there is one. -/
def adjust (f : Json → Json) (key : String) (es : Entries Json) : Entries Json :=
  match Entries.get? es key with
  | some v => Entries.put es key (f v)
  | none => es

/-- A header with the references in its value redirected. -/
def redirectHeader (old new : String) : Json → Json
  | .obj es => .obj (adjust (redirectText old new) "value" es)
  | v => v

/-- A list of headers with the references in their values redirected. -/
def redirectHeaders (old new : String) : Json → Json
  | .arr headers => .arr (headers.map (redirectHeader old new))
  | v => v

/-- **The node with its references to a slug redirected.** API calls refer to slugs in their
address and in the values of their headers. -/
def redirected (n : Node) (old new : String) : Node :=
  if n.type = Builtin.apiCallName then
    { n with
      parameters := adjust (redirectHeaders old new) "headers"
        (adjust (redirectText old new) "url" n.parameters) }
  else n

end Node

/-- A position that may be absent, in which case a default stands in for it. -/
def Position.orElse (default : Position) : Option (Checked Position) → Outcome Position
  | none => .ok default
  | some position => position.orFail

namespace Flow

/-- The node with an id, which must be there. -/
def needNode (f : Flow) (id : String) : Outcome Node :=
  match f.findNode? id with
  | some n => .ok n
  | none => .error (.nodeNotFound none id f.id)

/-- Puts a node in the place of the first one with its id. -/
def replaceIn (n : Node) : List Node → List Node
  | [] => []
  | m :: rest => if m.id = n.id then n :: rest else m :: replaceIn n rest

/-- The flow with a node in the place of the first one with its id. -/
def replaceNode (f : Flow) (n : Node) : Flow :=
  { f with nodes := replaceIn n f.nodes }

/-- The flow with the references to a slug redirected in all nodes but those with the given
id. -/
def redirect (f : Flow) (id old new : String) : Flow :=
  { f with nodes := f.nodes.map fun n => if n.id = id then n else n.redirected old new }

/-- The tool name for a trigger of this flow. -/
def toolNameFor (f : Flow) (s : Setting) (name : String) (except : Option String) :
    Outcome String := do
  let others ← s.siblings
  freshToolName (f :: others) name except

/-- The parameters of a new node, whose keys must be texts. -/
def ownParameters (m : KeyedValues Json) : Outcome (Entries Json) :=
  (m.checked.under (.key "parameters")).orFail

/-- Adds a node. -/
def addNode (f : Flow) (s : Setting) (type name : String) (position : Option (Checked Position))
    (parameters : Entries Json) : Outcome (Flow × Node) := do
  if f.nodes.any fun n => n.name == name then throw (.nameConflict name)
  let defaults ← (((s.registry.get? type).map NodeType.defaults).getD (.obj [])).toMap
  let place ← Position.orElse {} position
  let own ← ownParameters (defaults.merge (.ofEntries parameters))
  let node : Node := {
    id := s.freshId 1, type, name, slug := some (Naming.slug name f.slugs), position := place,
    parameters := own }
  if type = Builtin.triggerName then
    let tool ← f.toolNameFor s name none
    let node := (node.withToolName tool).withTriggerDefaults
    return ({ f with nodes := f.nodes ++ [node] }, node)
  else return ({ f with nodes := f.nodes ++ [node] }, node)

/-- Gives a node, which may just have been configured, another name. Its slug follows, the
references to the slug follow, and a trigger gets another tool name. -/
def rename (f : Flow) (s : Setting) (n : Node) (name : String) : Outcome (Flow × Node) := do
  if f.nodes.any fun m => m.id != n.id && m.name == name then throw (.nameConflict name)
  let slug := Naming.slug name (f.slugsExcept (some n.id))
  let old := n.slug.getD ""
  let g := if old ≠ "" ∧ old ≠ slug then f.redirect n.id old slug else f
  let renamed := { n with name, slug := some slug }
  if n.type = Builtin.triggerName then
    let tool ← f.toolNameFor s name (some n.id)
    return (g, renamed.withToolName tool)
  else return (g, renamed)

/-- Renames, moves and configures a node. -/
def updateNode (f : Flow) (s : Setting) (id : String) (update : NodeUpdate) :
    Outcome (Flow × Node) := do
  let n ← f.needNode id
  let configured := match update.parameters with
    | some parameters => n.configured parameters
    | none => n
  let (g, renamed) ← match update.name with
    | some name => if name = n.name then pure (f, configured) else f.rename s configured name
    | none => pure (f, configured)
  let place ← Position.orElse n.position update.position
  let updated := { renamed with position := place }
  return (g.replaceNode updated, updated)

/-- Moves a node. -/
def moveNode (f : Flow) (id : String) (position : Checked Position) :
    Outcome (Flow × Node) := do
  let n ← f.needNode id
  let place ← position.orFail
  let moved := { n with position := place }
  return (f.replaceNode moved, moved)

/-- Deletes a node and all connections at it. -/
def deleteNode (f : Flow) (id : String) : Outcome Flow := do
  let _ ← f.needNode id
  return { f with
    nodes := f.nodes.eraseP fun n => n.id == id
    connections := f.connections.filter fun c => !c.touches id }

/-- Keeps the schema of what a node gives. This is no edit that a user makes but what is left
of a sample or a live test. -/
def keepSchema (f : Flow) (id : String) (schema : Schema) : Outcome (Flow × Node) := do
  let n ← f.needNode id
  let kept := n.keeping schema
  return (f.replaceNode kept, kept)

/-! ## Connections -/

/-- The rules on the types of the two ends: no connection leads to a trigger, and only
interface nodes lead to a link. -/
def checkEnds (r : Registry) (source target : Node) : Outcome Unit :=
  if r.categoryOf target.type = some .trigger then .error .invalidTarget
  else if target.type = Builtin.linkName ∧ r.categoryOf source.type ≠ some .interface then
    .error .linkConstraint
  else .ok ()

/-- Connects two nodes. -/
def connect (f : Flow) (s : Setting) (source : String) (sourceHandle : Option String)
    (target : String) (targetHandle : Option String) : Outcome (Flow × Connection) := do
  let sourceNode ← f.endNode .source source
  let targetNode ← f.endNode .target target
  checkEnds s.registry sourceNode targetNode
  if source = target then throw .selfConnection
  if Cycle.closes f.edges source target then throw .cycleDetected
  let c : Connection := ⟨s.freshId 1, source, sourceHandle, target, targetHandle⟩
  if f.connections.any fun d => d.endpoints == c.endpoints then throw .duplicateConnection
  return ({ f with connections := f.connections ++ [c] }, c)

/-- Deletes a connection. -/
def disconnect (f : Flow) (id : String) : Outcome Flow :=
  if f.connections.any fun c => c.id == id then
    .ok { f with connections := f.connections.filter fun c => c.id != id }
  else .error (.connectionNotFound id f.id)

/-- Whether a connection leads from one node to another one. -/
def joins (source target : String) (c : Connection) : Bool :=
  c.source == source && c.target == target

/-- A name with the least number that makes it different from the names of all nodes. -/
def freeName (f : Flow) (title : String) : String :=
  let candidate (k : Nat) := title ++ " " ++ toString k
  candidate (Naming.firstFree (fun k => (f.nodes.map Node.name).contains (candidate k)) 1
    f.nodes.length)

/-- The conditions under which a node of a type may be put between two nodes. -/
def checkSplice (r : Registry) (type : NodeType) (source target : Node) : Outcome Unit :=
  if type.category ≠ .transform then .error (.notTransformer type.name)
  else if r.categoryOf target.type = some .trigger then .error .invalidTarget
  else if target.type = Builtin.linkName then .error .linkConstraint
  else if source.id = target.id then .error .selfConnection
  else .ok ()

/-- The handle of an output that a transform is connected by. -/
def outputHandle : String := "output"

/-- The handle of an input that a transform is connected by. -/
def inputHandle : String := "input"

/-- Puts a transform between two nodes. The connections from one to the other are replaced by
one to the transform and one from it. Unless told otherwise the transform is drawn half way
between the two. -/
def splice (f : Flow) (s : Setting) (source target type : String)
    (position : Option (Checked Position)) : Outcome (Flow × Node × Connection × Connection) := do
  let sourceNode ← f.endNode .source source
  let targetNode ← f.endNode .target target
  let nodeType ← s.registry.require type
  checkSplice s.registry nodeType sourceNode targetNode
  let kept := f.connections.filter fun c => !joins source target c
  if Cycle.closes (kept.map fun c => (c.source, c.target)) source target then
    throw .cycleDetected
  let halfway : Position := {
    x := Double.midpoint sourceNode.position.x targetNode.position.x
    y := Double.midpoint sourceNode.position.y targetNode.position.y }
  let place ← Position.orElse halfway position
  let name := f.freeName (← nodeType.title.display)
  let own ← ownParameters (← nodeType.defaults.toMap)
  let node : Node := {
    id := s.freshId 1, type, name, slug := some (Naming.slug name f.slugs), position := place,
    parameters := own }
  let before : Connection :=
    ⟨s.freshId 2, source, some outputHandle, node.id, some inputHandle⟩
  let after : Connection :=
    ⟨s.freshId 3, node.id, some outputHandle, target, some inputHandle⟩
  return ({ f with nodes := f.nodes ++ [node], connections := kept ++ [before, after] },
    node, before, after)

end Flow

/-! ## All edits -/

namespace Edit

/-- **Makes an edit**: the flow as it is then, and what there is to tell. -/
def apply (f : Flow) (s : Setting) : Edit → Outcome (Flow × Result)
  | .addNode type name position parameters => do
    let (g, n) ← f.addNode s type name position parameters
    return (g, .node n)
  | .updateNode node update => do
    let (g, n) ← f.updateNode s node update
    return (g, .node n)
  | .moveNode node position => do
    let (g, n) ← f.moveNode node position
    return (g, .node n)
  | .deleteNode node => do return (← f.deleteNode node, .nothing)
  | .connect source sourceHandle target targetHandle => do
    let (g, c) ← f.connect s source sourceHandle target targetHandle
    return (g, .connection c)
  | .disconnect connection => do return (← f.disconnect connection, .nothing)
  | .splice source target type position => do
    let (g, n, before, after) ← f.splice s source target type position
    return (g, .splice n before after)

end Edit

/-- Whether what there is to tell about an edit can be written. -/
def Edit.Result.isWritable : Edit.Result → Bool
  | .node n | .splice n _ _ => n.isWritable
  | _ => true

/-- The written form of what there is to tell about an edit. -/
def Edit.Result.toJson : Edit.Result → Json
  | .node n => n.toJson
  | .connection c => c.toJson
  | .splice n before after => .obj [
    ("transformer_node", n.toJson), ("source_connection", before.toJson),
    ("target_connection", after.toJson)]
  | .nothing => .null

end Workflow
