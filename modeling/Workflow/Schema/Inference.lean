import Workflow.Failure
import Workflow.Schema.Merge
import Workflow.Schema.Format

/-!
# Inferring schemas from samples

A sample of a response shows the shape of what an endpoint returns. `Schema.infer` takes
the sample as the exact contract: inferred objects are closed, and every key that is seen
is required. The items of a list share one schema, the merge of what the single items show.

Inference stops at a nesting depth, below which everything is unknown.
-/

namespace Workflow

namespace Schema

mutual

/-- The schema of a value when `room` more levels of nesting are looked at. -/
def inferWithin : Nat → Json → Schema
  | 0, _ => .unknown none
  | _ + 1, .null => .null none
  | _ + 1, .bool _ => .boolean none
  | _ + 1, .int _ => .number none
  | _ + 1, .float _ => .number none
  | _ + 1, .str s => .string none (Format.detect s)
  | room + 1, .arr items => .array none (mergeAll (inferItems room items))
  | room + 1, .obj members =>
    .object none (inferMembers room members) (Entries.keys members) false

/-- The schemas of the items of a list. -/
def inferItems (room : Nat) : List Json → List Schema
  | [] => []
  | v :: vs => inferWithin room v :: inferItems room vs

/-- The properties that the members of an object show. -/
def inferMembers (room : Nat) : List (String × Json) → List (String × Schema)
  | [] => []
  | (key, v) :: rest => (key, inferWithin room v) :: inferMembers room rest

end

/-- The nesting depth at which inference stops unless another is given. -/
def defaultDepth : Int := 5

/-- **The schema that a sample shows**, down to a nesting depth. -/
def infer (sample : Json) (maxDepth : Int) : Schema :=
  inferWithin maxDepth.toNat sample

/-- The depth that a limit of any form leaves for a sample. What is above no number does not
limit, so that the whole sample is looked at. -/
def depthOf (sample : Json) : Json → Outcome Int
  | .int n => .ok n
  | .bool b => .ok (if b then 1 else 0)
  | .float (.infinity true) => .ok 0
  | .float x => .ok (x.ceiling?.getD sample.height)
  | _ => .error .notNumber

/-- **The schema that a sample shows**, down to a limit of any form. -/
def inferLimited (sample limit : Json) : Outcome Schema := do
  return infer sample (← depthOf sample limit)

end Schema

end Workflow
