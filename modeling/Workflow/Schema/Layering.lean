import Workflow.Schema
import Workflow.Failure

/-!
# Layering a sample over a base

Every API call gives some fields whatever the endpoint returns. What a sample shows is laid
over this base: its properties come in the place of those of the base, and what either
requires is required. A sample that is no object is the body of the response.
-/

namespace Workflow

namespace Schema

/-- The names of the first list, then those of the second that were not there before. -/
def union (xs ys : List String) : List String :=
  ys.foldl (fun acc name => if acc.contains name then acc else acc ++ [name]) xs

/-- **The base with a stored schema laid over it.** The base must be an object. -/
def layerOver (base stored : Schema) : Outcome Schema :=
  match base, stored with
  | .object d ps req o, .object _ ps' req' o' =>
    .ok (.object d (Entries.merge ps ps') (union req req') (o || o'))
  | .object d ps req o, body => .ok (.object d (Entries.put ps "body" body) req o)
  | _, _ => .error .notObject

end Schema

end Workflow
