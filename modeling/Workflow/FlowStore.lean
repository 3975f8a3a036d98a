import Workflow.Flow
import Workflow.Failure
import Workflow.Json.Display

/-!
# Stores of flows

A store keeps whole flow documents. Whoever changes a flow loads it, works on a copy, and
saves the copy. Saving is guarded by the version of the document: it succeeds only if the
stored version is still the one that was loaded, and then counts it up. So of two changes
that began with the same document one is refused.

There are two stores, which answer alike: one keeps documents as they are, the other one
keeps them in written form. A refused write has no new store to show for it; the old one
stays in use.
-/

namespace Workflow

/-- **A store of flows.** -/
class FlowStore (σ : Type) where
  /-- A store without flows. -/
  empty : σ
  /-- The text that a value is taken for when flows are looked up by it, none if it is no text's
  equal. -/
  keyOf : σ → Json → Outcome (Option String)
  /-- The flow with an id, none if there is none. -/
  load : σ → String → Outcome (Option Flow)
  /-- Saves a changed flow at a time. The answer is the flow as it was saved. -/
  save : σ → Flow → String → Outcome (σ × Flow)
  /-- Stores a new flow. -/
  create : σ → Flow → Outcome σ
  /-- The flows, or those of one app. -/
  list : σ → Option String → Outcome (List Flow)
  /-- Deletes the flow with an id, if there is one. -/
  delete : σ → String → σ

namespace FlowStore

variable {σ : Type} [FlowStore σ]

/-- The flow with an id, which must be there. -/
def need (s : σ) (id : String) : Outcome Flow := do
  match ← load s id with
  | some f => return f
  | none => throw (.flowNotFound id)

/-- The flow whose id a value is, none if there is none. -/
def loadBy (s : σ) (id : Json) : Outcome (Option Flow) := do
  match ← keyOf s id with
  | some key => load s key
  | none => return none

/-- The flow whose id a value is, which must be there. -/
def needBy (s : σ) (id : Json) : Outcome Flow := do
  match ← loadBy s id with
  | some f => return f
  | none => throw (.flowNotFound (← id.display))

/-- The flows of the app whose id a value is; null is no app but stands for all flows. -/
def listBy (s : σ) (app : Json) : Outcome (List Flow) := do
  match app with
  | .null => list s none
  | app =>
    match ← keyOf s app with
    | some key => list s (some key)
    | none => return []

/-- The other flows of the app that owns a flow. A flow without an app stands alone. -/
def siblings (s : σ) (f : Flow) : Outcome (List Flow) :=
  match f.app with
  | none => .ok []
  | some app => do return (← list s (some app)).filter fun g => g.id != f.id

/-- A store with some flows, created one after the other. -/
def ofFlows (flows : List Flow) : Outcome σ :=
  flows.foldlM create empty

end FlowStore

/-- The flow as it is saved at a time. -/
def Flow.saved (f : Flow) (now : String) : Flow :=
  { f with version := f.version + 1, updatedAt := now }

/-- Whether a flow is among those that are asked for. -/
def Flow.isOf (f : Flow) (app : Option String) : Bool :=
  app.isNone || f.app == app

end Workflow
