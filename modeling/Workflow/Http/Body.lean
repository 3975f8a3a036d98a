import Workflow.Charset.Unicode
import Workflow.Flow.Document
import Workflow.Operation

/-!
# Bodies of requests

What the body of a request has to look like. A body is a JSON object; its fields are read
one by one, and those that are not known are ignored. The defects of a body are reported
with paths that begin at the body.

The bytes of a body tell by their zeros how many of them make up a character. Beside a defect the
value that is wrong is reported, or what lacks a field, and a number that is not finite cannot be
reported.
-/

namespace Workflow

namespace Body

open Checked

/-- **What becomes of a body.** -/
inductive Reading (α : Type) where
  /-- It is read. -/
  | ok (value : α)
  /-- It has defects. -/
  | bad (ds : List Defect)
  /-- It cannot be taken apart. -/
  | unreadable
  /-- It has defects that cannot be reported. -/
  | unreportable

/-! ## The text of a body -/

/-- The characters of bytes, by the number of bytes that make up one. The zeros among the first
bytes tell; none if some bytes make up no character. -/
def characters? (bytes : List UInt8) : Option (List Char) :=
  match bytes with
  | 0 :: 0 :: _ :: _ :: _ => Charset.whole32? true bytes
  | 0 :: _ :: _ :: _ :: _ => Charset.whole16? true bytes
  | _ :: 0 :: 0 :: 0 :: _ => Charset.whole32? false bytes
  | _ :: 0 :: _ :: _ :: _ => Charset.whole16? false bytes
  | [0, _] => Charset.whole16? true bytes
  | [_, 0] => Charset.whole16? false bytes
  | _ => some (Charset.readMarkedUtf8 bytes).text

/-! ## Reporting defects -/

mutual

/-- Whether all numbers in a value are finite. -/
def isFinite : Json → Bool
  | .float x => x.isFinite
  | .arr items => areFinite items
  | .obj members => membersFinite members
  | _ => true

/-- Whether all numbers in the items of a list are finite. -/
def areFinite : List Json → Bool
  | [] => true
  | x :: xs => isFinite x && areFinite xs

/-- Whether all numbers in the members of an object are finite. -/
def membersFinite : List (String × Json) → Bool
  | [] => true
  | (_, x) :: xs => isFinite x && membersFinite xs

end

/-- The value at the end of a path, or the last one on the way to it. -/
def reported (v : Json) : List Step → Json
  | .key name :: path =>
    match v.members?.bind fun es => Entries.get? es name with
    | some w => reported w path
    | none => v
  | _ => v

/-- The first step of every path. -/
def root : Step := .key "body"

/-- Reads a value whose fields are read by the given function. -/
def readValue {α : Type} (v : Json) (fields : Entries Json → Checked α) : Reading α :=
  match record .notFields fields v with
  | .ok a => .ok a
  | .bad ds =>
    if ds.all fun d => isFinite (reported v d.path) then .bad (ds.map (Defect.under root))
    else .unreportable

/-- **Reads a body** whose fields are read by the given function. -/
def read {α : Type} (body : String) (fields : Entries Json → Checked α) : Reading α :=
  if body = "" then .bad [⟨[root], .missing⟩]
  else
    match (characters? (Text.bytes body)).map Json.readChars with
    | some (.ok v) => readValue v fields
    | some (.error (.malformed place)) => .bad [⟨[root, .index place], .notJson⟩]
    | _ => .unreadable

/-- A position inside a body. -/
def position? (es : Entries Json) : Checked (Option (Checked Position)) :=
  Checked.map (Option.map .ok)
    (optional es "position" (record .notFields Position.fields))

/-- The body that creates a flow. -/
def newFlow (es : Entries Json) : Checked Operation :=
  Operation.createFlow <$> need es "name" text <*> optional es "app_id" text
    <*> optional es "description" text

/-- The body that adds a node. -/
def newNode (flow : String) (es : Entries Json) : Checked Operation :=
  (fun type name position parameters =>
      .onFlow flow (.edit (.addNode type name position (parameters.getD []))))
    <$> need es "type" text <*> need es "name" text <*> position? es
    <*> optional es "parameters" object

/-- The body that updates a node. -/
def nodeUpdate (flow node : String) (es : Entries Json) : Checked Operation :=
  (fun name position parameters =>
      .onFlow flow (.edit (.updateNode node ⟨name, position, parameters⟩)))
    <$> optional es "name" text <*> position? es <*> optional es "parameters" object

/-- The body that moves a node. -/
def newPosition (flow node : String) (es : Entries Json) : Checked Operation :=
  (fun position => .onFlow flow (.edit (.moveNode node (.ok position)))) <$> Position.fields es

/-- The body that connects two nodes. -/
def newConnection (flow : String) (es : Entries Json) : Checked Operation :=
  (fun source sourceHandle target targetHandle =>
      .onFlow flow (.edit (.connect source sourceHandle target targetHandle)))
    <$> need es "source_node_id" text <*> optional es "source_handle" text
    <*> need es "target_node_id" text <*> optional es "target_handle" text

/-- The body that puts a transform between two nodes. -/
def newTransformer (flow : String) (es : Entries Json) : Checked Operation :=
  (fun source target type position =>
      .onFlow flow (.edit (.splice source target type position)))
    <$> need es "source_node_id" text <*> need es "target_node_id" text
    <*> field es "transformer_type" Builtin.codeTransformName text <*> position? es

/-- The body that gives a sample. -/
def sample (flow node : String) (es : Entries Json) : Checked Operation :=
  (fun sample => .onFlow flow (.resolveSchema node sample)) <$> field es "sample_response" .null .ok

/-- The body that asks for the check of two nodes. -/
def pair (flow : String) (es : Entries Json) : Checked Operation :=
  (fun source target => .onFlow flow (.validateConnection source target))
    <$> need es "source_node_id" text <*> need es "target_node_id" text

/-- The body that asks for a live test. -/
def test (flow node : String) (es : Entries Json) : Checked Operation :=
  (fun mocks save => .onFlow flow (.testApiCall node ((mocks.map .obj).getD .null) save))
    <$> optional es "mock_values" object <*> field es "save_schema" false flag

end Body

end Workflow
