import Workflow.Schema

/-!
# Merging schemas

The items of a list may have different shapes, while an array schema has one schema for all
of them. `Schema.merge` is the loosest schema that the data of both sides fit: an object
keeps all properties of both and requires what both require, an array merges its items, a
text keeps a format both have, and two different kinds have nothing in common but being
unknown. Two schemas that are already equal are left alone, descriptions included; apart
from that a merged object, array or text has no description.
-/

namespace Workflow

namespace Schema

mutual

/-- **The loosest schema that data of both shapes fit.** -/
def merge (a b : Schema) : Schema :=
  if same a b then a
  else
    match a, b with
    | .object _ ps req o, .object _ ps' req' o' =>
      .object none (mergeProperties ps ps' ++ ps'.filter fun e => !Entries.has ps e.1)
        (req.filter req'.contains) (o || o')
    | .array _ items, .array _ items' => .array none (merge items items')
    | .string _ f, .string _ f' => .string none (if f = f' then f else none)
    | .number d, .number _ => .number d
    | .boolean d, .boolean _ => .boolean d
    | .null d, .null _ => .null d
    | .unknown d, .unknown _ => .unknown d
    | _, _ => .unknown none
termination_by structural a

/-- The properties of the first list, each merged with its counterpart in the second where
there is one. -/
def mergeProperties : List (String × Schema) → List (String × Schema) → List (String × Schema)
  | [], _ => []
  | (name, s) :: rest, ps =>
    (name, match Entries.get? ps name with
      | some t => merge s t
      | none => s) :: mergeProperties rest ps

end

/-- The merge of a list of schemas from left to right; nothing is known about the items of
an empty list. -/
def mergeAll : List Schema → Schema
  | [] => .unknown none
  | s :: rest => rest.foldl merge s

end Schema

end Workflow
