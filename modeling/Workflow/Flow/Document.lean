import Workflow.Flow
import Workflow.Checked

/-!
# Flow documents

The written form of a flow and how it is read. Reading fills in the defaults of absent
fields and ignores fields that it does not know. `Flow.ofJson` and `Flow.toJson` are made
for each other: what was written is read back as it was.
-/

namespace Workflow

open Checked

/-- The written form of a position. -/
def Position.toJson (p : Position) : Json :=
  .obj [("x", .float p.x), ("y", .float p.y)]

/-- The fields of a position. -/
def Position.fields (es : Entries Json) : Checked Position :=
  Position.mk <$> field es "x" (.zero false) real <*> field es "y" (.zero false) real

/-- Reads a position. -/
def Position.ofJson : Json → Checked Position :=
  record .notRecord Position.fields

/-- The written form of a node. -/
def Node.toJson (n : Node) : Json := .obj [
  ("id", .str n.id), ("type", .str n.type), ("name", .str n.name),
  ("slug", Json.ofText? n.slug), ("position", n.position.toJson),
  ("parameters", .obj n.parameters)]

/-- Reads a node. -/
def Node.ofJson : Json → Checked Node :=
  record .notRecord fun es =>
    Node.mk <$> need es "id" text <*> need es "type" text <*> need es "name" text
      <*> optional es "slug" text <*> field es "position" {} Position.ofJson
      <*> field es "parameters" [] object

/-- The written form of a connection. -/
def Connection.toJson (c : Connection) : Json := .obj [
  ("id", .str c.id), ("source_node_id", .str c.source),
  ("source_handle", Json.ofText? c.sourceHandle), ("target_node_id", .str c.target),
  ("target_handle", Json.ofText? c.targetHandle)]

/-- Reads a connection. -/
def Connection.ofJson : Json → Checked Connection :=
  record .notRecord fun es =>
    Connection.mk <$> need es "id" text <*> need es "source_node_id" text
      <*> optional es "source_handle" text <*> need es "target_node_id" text
      <*> optional es "target_handle" text

/-- **The written form of a flow.** -/
def Flow.toJson (f : Flow) : Json := .obj [
  ("flow_id", .str f.id), ("app_id", Json.ofText? f.app), ("name", .str f.name),
  ("description", Json.ofText? f.description), ("nodes", .arr (f.nodes.map Node.toJson)),
  ("connections", .arr (f.connections.map Connection.toJson)), ("version", .int f.version),
  ("created_at", .str f.createdAt), ("updated_at", .str f.updatedAt)]

/-- **Reads a flow document.** -/
def Flow.ofJson : Json → Checked Flow :=
  record .notRecord fun es =>
    Flow.mk <$> need es "flow_id" text <*> optional es "app_id" text <*> need es "name" text
      <*> optional es "description" text <*> field es "nodes" [] (list Node.ofJson)
      <*> field es "connections" [] (list Connection.ofJson) <*> field es "version" 0 whole
      <*> need es "created_at" text <*> need es "updated_at" text

end Workflow
