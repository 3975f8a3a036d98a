import Workflow.Registry.Rules
import Workflow.Json.Display

/-!
# Registry documents

The written form of a registry: a list of node types, each with its name, its category, its
fixed schemas, the names of its rules and the parameters of new nodes.
-/

namespace Workflow

/-- The rule with a written name. -/
def SchemaRule.ofName? (name : String) : Option SchemaRule :=
  match name with
  | "stored_output" => some stored
  | "trigger_output" => some trigger
  | "api_base_output" => some apiCall
  | "none" => some nothing
  | _ => none

namespace NodeType

/-- The category of a node type, which must be a known one. -/
def categoryIn (es : Entries Json) : Outcome Category :=
  let name := (Entries.get? es "category").getD .null
  match name.text?.bind Category.ofName? with
  | some c => .ok c
  | none => do throw (.unknownCategory (← name.literal))

/-- The fixed schema under a key; null is none. -/
def schemaIn (es : Entries Json) (key : String) : Outcome (Option Schema) :=
  match (Entries.get? es key).getD .null with
  | .null => .ok none
  | v => do return some (← (Schema.ofJson v).orFail)

/-- The rule under a key. -/
def ruleIn (es : Entries Json) (key : String) : Option SchemaRule :=
  (Entries.get? es key).bind fun v => v.text?.bind SchemaRule.ofName?

/-- Reads a node type. -/
def ofMembers (es : Entries Json) : Outcome NodeType := do
  let name := ((Entries.get? es "name").bind Json.text?).getD ""
  let category ← categoryIn es
  let input ← schemaIn es "input_schema"
  let output ← schemaIn es "output_schema"
  return {
    name
    title := (Entries.get? es "display_name").getD (.str name)
    category
    description := (Entries.get? es "description").getD (.str "")
    input
    output
    inputRule := ruleIn es "get_input"
    outputRule := ruleIn es "get_output"
    defaults := (Entries.get? es "default_parameters").getD (.obj []) }

end NodeType

namespace Registry

/-- Reads node types up to the first one that cannot be read. -/
def readTypes : List (Entries Json) → List NodeType × Outcome Unit
  | [] => ([], .ok ())
  | es :: rest =>
    match NodeType.ofMembers es with
    | .ok t => ((t :: (readTypes rest).1), (readTypes rest).2)
    | .error f => ([], .error f)

/-- **Reads a registry.** A name that stands twice is told before what is wrong further down. -/
def ofJson (v : Json) : Outcome Registry := do
  let items := match v with
    | .arr items => items
    | _ => []
  let (types, rest) := readTypes (items.filterMap Json.members?)
  let r ← ofTypes types
  rest
  return r

end Registry

end Workflow
