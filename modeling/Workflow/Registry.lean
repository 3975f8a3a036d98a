import Workflow.Schema
import Workflow.Failure
import Workflow.Text.Quoted

/-!
# Node types and their registry

A node type says what nodes of that type take and give, and to which category they belong.
What a side takes or gives is either fixed or computed from the parameters of the node by a
rule, which may be any function; a rule takes precedence over a fixed schema.

A registry is a list of node types in which no name stands twice. It is built once and never
changed, and the condition on names is part of its type.
-/

namespace Workflow

/-- The categories of node types. -/
inductive Category where
  | trigger
  | interface
  | action
  | transform
  | returning
  deriving DecidableEq, Inhabited

/-- The written name of a category. -/
def Category.name : Category → String
  | .trigger => "trigger"
  | .interface => "interface"
  | .action => "action"
  | .transform => "transform"
  | .returning => "return"

/-- The name under which a category is shown. -/
def Category.title : Category → String
  | .trigger => "Triggers"
  | .interface => "UI Components"
  | .action => "Actions"
  | .transform => "Transform"
  | .returning => "Return Values"

/-- The place of a category among the others when they are shown. -/
def Category.order : Category → Nat
  | .trigger => 1
  | .interface => 2
  | .action => 3
  | .transform => 4
  | .returning => 5

/-- All categories, in the order in which they are shown. -/
def Category.all : List Category :=
  [.trigger, .interface, .action, .transform, .returning]

/-- The category with a written name. -/
def Category.ofName? (name : String) : Option Category :=
  Category.all.find? fun c => c.name == name

/-- How a schema is computed from the parameters of a node. There may be none, and a rule may
fail. -/
abbrev SchemaRule := Entries Json → Outcome (Option Schema)

/-- **A node type.** -/
structure NodeType where
  /-- The name by which nodes refer to the type. -/
  name : String
  /-- The name under which it is shown, a text as a rule. -/
  title : Json
  /-- Its category. -/
  category : Category
  /-- What it is for. -/
  description : Json := .str ""
  /-- What its nodes take, where that is fixed. -/
  input : Option Schema := none
  /-- What its nodes give, where that is fixed. -/
  output : Option Schema := none
  /-- How what its nodes take is computed. -/
  inputRule : Option SchemaRule := none
  /-- How what its nodes give is computed. -/
  outputRule : Option SchemaRule := none
  /-- The parameters that a new node has, a map as a rule. -/
  defaults : Json := .obj []
  deriving Inhabited

/-- **A registry of node types.** -/
structure Registry where
  /-- The node types, in order of registration. -/
  types : List NodeType
  /-- No name stands twice. -/
  distinct : (types.map NodeType.name).Nodup

namespace Registry

/-- The first name that stands a second time. -/
def repeated? : List String → List String → Option String
  | _, [] => none
  | seen, name :: rest =>
    if seen.contains name then some name else repeated? (name :: seen) rest

/-- **The registry of a list of node types**, refused if a name stands twice. -/
def ofTypes (types : List NodeType) : Outcome Registry :=
  if h : (types.map NodeType.name).Nodup then .ok ⟨types, h⟩
  else .error (.duplicateNodeType ((repeated? [] (types.map NodeType.name)).getD ""))

/-- The node type of a name. -/
def get? (r : Registry) (name : String) : Option NodeType :=
  r.types.find? fun t => t.name == name

/-- The node type of a name, which must be registered. -/
def require (r : Registry) (name : String) : Outcome NodeType :=
  match r.get? name with
  | some t => .ok t
  | none => .error (.nodeTypeNotFound name)

/-- The category of a node type, none if it is not registered. -/
def categoryOf (r : Registry) (name : String) : Option Category :=
  (r.get? name).map NodeType.category

/-- The node types of a category. -/
def ofCategory (r : Registry) (c : Category) : List NodeType :=
  r.types.filter fun t => t.category == c

/-- The registered names. -/
def names (r : Registry) : List String :=
  r.types.map NodeType.name

/-- Inserts a node type into a list in the order of a library of node types: by category, then
by name. -/
def insertShown (t : NodeType) : List NodeType → List NodeType
  | [] => [t]
  | u :: rest =>
    if t.category.order < u.category.order ∨
        (t.category.order = u.category.order ∧ t.name < u.name) then t :: u :: rest
    else u :: insertShown t rest

/-- The node types as they are shown: by category, then by name. -/
def shown (r : Registry) : List NodeType :=
  r.types.foldl (fun acc t => insertShown t acc) []

/-- A line that lists the registered names in alphabetical order. -/
def describe (r : Registry) : String :=
  let sorted := r.names.mergeSort fun a b => !(b < a)
  "NodeTypeRegistry(types=[" ++ ", ".intercalate (sorted.map Text.quoted) ++ "])"

end Registry

end Workflow
