import Workflow.FlowStore
import Workflow.FlowTask

/-!
# Operations

All that can be asked of a store of flows. Most operations are tasks on one flow: the flow is
loaded, the task works on the copy, and if the copy was changed it is saved in one write. So
an operation changes nothing if it is refused, and it is refused if somebody else has saved
the flow in between. The other operations create, list and delete flows, or tell about a
node type.
-/

namespace Workflow

/-- **An operation.** -/
inductive Operation where
  /-- Creates a flow without nodes. -/
  | createFlow (name : String) (app description : Option String)
  /-- Tells all flows, or those of an app. -/
  | listFlows (app : Option String)
  /-- Deletes a flow. -/
  | deleteFlow (flow : String)
  /-- Tells what new nodes of a type take and give. -/
  | typeSchemas (type : String)
  /-- Carries out a task on a flow. -/
  | onFlow (flow : String) (task : FlowTask)

namespace Operation

variable {σ : Type} [FlowStore σ]

/-- A new flow. -/
def newFlow (w : Surroundings) (name : String) (app description : Option String) : Flow where
  id := w.freshId 1
  app
  name
  description
  createdAt := w.now
  updatedAt := w.now

/-- Saves what a task has changed. -/
def conclude (w : Surroundings) (s : σ) (effect : Effect) : Outcome (σ × Reply) :=
  match effect.changed with
  | none => .ok (s, effect.reply)
  | some g => do
    let (s', _) ← FlowStore.save s g w.now
    return (s', effect.reply)

/-- **Carries out an operation**: the store as it is then, and the answer. -/
def run (w : Surroundings) (s : σ) : Operation → Outcome (σ × Reply)
  | .createFlow name app description => do
    let f := newFlow w name app description
    return (← FlowStore.create s f, .flow f)
  | .listFlows app => do return (s, .flows (← FlowStore.list s app))
  | .deleteFlow flow => do
    let _ ← FlowStore.need s flow
    return (FlowStore.delete s flow, .done)
  | .typeSchemas type => do return (s, .typeSchemas (← w.registry.schemasOf type))
  | .onFlow flow task => do
    let f ← FlowStore.need s flow
    conclude w s (← task.run w (FlowStore.siblings s f) f)

/-- **One step**: an operation that is refused leaves the store as it was. -/
def step (w : Surroundings) (s : σ) (op : Operation) : σ × Outcome Reply :=
  match op.run w s with
  | .ok (s', reply) => (s', .ok reply)
  | .error failure => (s, .error failure)

end Operation

end Workflow
