import Workflow.Json

/-!
# Flows

A flow is a graph of nodes. A node is one configured occurrence of a node type, with a name
that is unique in the flow, a slug by which templates refer to it, and parameters of any
form. A connection leads from the output of a node to the input of another one; handles tell
apart several outputs or inputs of a node. Nodes and connections are kept as two lists, in
the order in which they were added.

A flow is stored as one document, whose version counts how often it was saved.
-/

namespace Workflow

/-- Where a node is drawn. The coordinates mean nothing to the program. -/
structure Position where
  /-- The horizontal coordinate. -/
  x : Double := .zero false
  /-- The vertical coordinate. -/
  y : Double := .zero false
  deriving DecidableEq, Inhabited

/-- **A node of a flow.** -/
structure Node where
  /-- The id of the node. -/
  id : String
  /-- The name of its type. -/
  type : String
  /-- The name under which it is shown. -/
  name : String
  /-- The identifier by which templates refer to it. -/
  slug : Option String := none
  /-- Where it is drawn. -/
  position : Position := {}
  /-- How it is configured. -/
  parameters : Entries Json := []
  deriving Inhabited

/-- Whether the parameters of a node are flat enough to be written. -/
def Node.isWritable (n : Node) : Bool :=
  n.parameters.all fun entry => entry.2.isWritable

/-- **A connection between two nodes.** -/
structure Connection where
  /-- The id of the connection. -/
  id : String
  /-- The node whose output is used. -/
  source : String
  /-- Which output is used. -/
  sourceHandle : Option String := none
  /-- The node whose input is fed. -/
  target : String
  /-- Which input is fed. -/
  targetHandle : Option String := none
  deriving DecidableEq, Inhabited

/-- The two ends of a connection. -/
abbrev Endpoints := String × Option String × String × Option String

/-- What must be different in any two connections of a flow. -/
def Connection.endpoints (c : Connection) : Endpoints :=
  (c.source, c.sourceHandle, c.target, c.targetHandle)

/-- Whether a connection begins or ends at a node. -/
def Connection.touches (c : Connection) (node : String) : Bool :=
  c.source == node || c.target == node

/-- **A flow document.** -/
structure Flow where
  /-- The id of the flow. -/
  id : String
  /-- The app that owns the flow. Tool names are unique in an app. -/
  app : Option String := none
  /-- The name under which it is shown. -/
  name : String
  /-- What it is for. -/
  description : Option String := none
  /-- The nodes, in order of their creation. -/
  nodes : List Node := []
  /-- The connections, in order of their creation. -/
  connections : List Connection := []
  /-- How often the flow was saved. -/
  version : Int := 0
  /-- When it was created. -/
  createdAt : String
  /-- When it was last changed. -/
  updatedAt : String
  deriving Inhabited

namespace Flow

/-- Whether the nodes of a flow can be written. -/
def isWritable (f : Flow) : Bool :=
  f.nodes.all Node.isWritable

/-- The first node with an id. -/
def findNode? (f : Flow) (id : String) : Option Node :=
  f.nodes.find? fun n => n.id == id

/-- The position in the list of nodes of the first node with an id. -/
def nodeIndex? (f : Flow) (id : String) : Option Nat :=
  f.nodes.findIdx? fun n => n.id == id

/-- The slugs in use, those of the nodes with the given id left out. -/
def slugsExcept (f : Flow) (id : Option String) : List String :=
  (f.nodes.filter fun n => some n.id != id).filterMap fun n =>
    n.slug.filter (· != "")

/-- The slugs in use. -/
def slugs (f : Flow) : List String :=
  f.slugsExcept none

/-- The edges of the graph. -/
def edges (f : Flow) : List (String × String) :=
  f.connections.map fun c => (c.source, c.target)

end Flow

end Workflow
