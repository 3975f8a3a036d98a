import Workflow.Flow
import Workflow.Naming
import Workflow.Failure
import Workflow.Registry.Builtin

/-!
# Tool names

A trigger is offered to the outside world as a tool, under a name that no other trigger of
the same app has, in whichever flow of the app it stands. The name is kept in the parameters
of the trigger, where anything may have been stored: a value that does not count as given takes
no name, but a list or an object, which has no place in a set of names, is refused.
-/

namespace Workflow

/-- The parameter that holds the tool name of a trigger. -/
def Node.toolNameKey : String := "tool_name"

/-- The tool name that a trigger takes. -/
def Node.toolName? (n : Node) : Outcome (Option Json) :=
  match (Entries.get? n.parameters Node.toolNameKey).filter Json.isTruthy with
  | some name => if name.isKey then .ok (some name) else .error .unusableKey
  | none => .ok none

namespace Flow

/-- The triggers of some flows, those with the given id left out. -/
def triggers (flows : List Flow) (except : Option String) : List Node :=
  (flows.flatMap Flow.nodes).filter fun n =>
    n.type == Builtin.triggerName && some n.id != except

/-- The tool names that the triggers of some flows take. -/
def toolNames (flows : List Flow) (except : Option String) : Outcome (List Json) := do
  return (← (triggers flows except).mapM Node.toolName?).filterMap fun name => name

/-- Whether a trigger of some flows takes a tool name. -/
def hasToolName (flows : List Flow) (name : Json) (except : Option String) : Outcome Bool := do
  let names ← toolNames flows except
  if name.isKey then return names.any (Json.same name) else throw .unusableKey

/-- **A tool name for a trigger of the given name** that no trigger of some flows takes. -/
def freshToolName (flows : List Flow) (name : String) (except : Option String) :
    Outcome String := do
  return Naming.toolName name ((← toolNames flows except).filterMap Json.text?)

end Flow

end Workflow
