import Workflow.Registry.Rules

/-!
# The built-in node types

The catalog that is used unless another registry is given. Five names have a meaning of
their own for the program: triggers, links, API calls, components of the component registry
and code transforms are told apart by them.
-/

namespace Workflow

namespace Builtin

/-- The type of triggers. -/
def triggerName : String := "UserIntent"

/-- The type of links. -/
def linkName : String := "Link"

/-- The type of API calls. -/
def apiCallName : String := "ApiCall"

/-- The type of components of the component registry. -/
def componentName : String := "RegistryComponent"

/-- The type of transforms by code. -/
def codeTransformName : String := "CodeTransform"

/-- The parameters that every trigger has. -/
def triggerDefaults : Entries Json := [
  ("is_active", .bool true), ("tool_description", .str ""), ("parameters", .arr [])]

/-- Starts a flow. -/
def trigger : NodeType where
  name := triggerName
  title := .str "User Intent"
  category := .trigger
  description := .str "Starts the flow when the user's intent matches the tool description"
  outputRule := some SchemaRule.trigger
  defaults := .obj triggerDefaults

/-- A component of the component registry. -/
def component : NodeType where
  name := componentName
  title := .str "Registry Component"
  category := .interface
  description := .str "Render a UI component from the component registry"
  output := some (.openObject none)
  defaults := .obj [("component_name", .str ""), ("input_schema", .null)]

/-- A component made by the user. -/
def blankComponent : NodeType where
  name := "BlankComponent"
  title := .str "Blank Component"
  category := .interface
  description := .str "Render a custom UI component"
  input := some (.openObject none)
  output := some (.openObject none)
  defaults := .obj [("code", .str "")]

/-- A request to an endpoint. -/
def apiCall : NodeType where
  name := apiCallName
  title := .str "API Call"
  category := .action
  description := .str "Make HTTP requests to external APIs"
  input := some (.openObject
    (some "Data available for template variable resolution in URL and headers"))
  outputRule := some SchemaRule.apiCall
  defaults := .obj [
    ("method", .str "GET"), ("url", .str ""), ("headers", .arr []), ("timeout", .int 30000)]

/-- A transform by code. -/
def codeTransform : NodeType where
  name := codeTransformName
  title := .str "Code Transform"
  category := .transform
  description := .str "Reshape data with a user-written code snippet"
  input := some (.openObject none)
  outputRule := some SchemaRule.stored
  defaults := .obj [("code", .str "return input"), ("resolved_output_schema", .null)]

/-- An answer to the caller. -/
def returnValue : NodeType where
  name := "Return"
  title := .str "Return Value"
  category := .returning
  description := .str "Return text to the caller"
  input := some (.openObject none)
  defaults := .obj [("text", .str "")]

/-- A link to follow. -/
def link : NodeType where
  name := linkName
  title := .str "Link"
  category := .returning
  description := .str "Open a link from a UI component"
  input := some (.openObject none)
  defaults := .obj [("href", .str "")]

/-- **The registry of built-in node types.** -/
def registry : Registry where
  types := [trigger, component, blankComponent, apiCall, codeTransform, returnValue, link]
  distinct := by decide

end Builtin

end Workflow
