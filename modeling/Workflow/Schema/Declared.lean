import Workflow.Schema
import Workflow.Failure

/-!
# Schemas of declared parameters

A trigger lists the parameters of the tool it stands for. Each is an object with a name, a
type, perhaps a description and a mark that it is optional. The list is part of a node's
parameters and may hold anything: what is no object, or has no name, is skipped.

The output of a trigger has three fields of its own besides the declared ones.
-/

namespace Workflow

namespace Schema

/-- The items of a value that is gone through. The items of a text and of an object are
texts. -/
def itemsOf : Json → Outcome (List Json)
  | .arr items => .ok items
  | .str s => .ok (s.toList.map fun c => .str (String.ofList [c]))
  | .obj members => .ok (members.map fun e => .str e.1)
  | _ => .error .notIterable

/-- A description, which must be a text or null. -/
def descriptionOf (v : Json) : Outcome (Option String) :=
  (Checked.under (.key "description") (Checked.nullable Checked.text v)).orFail

/-- The schema of a declared type. Types that are not known are texts. -/
def ofDeclaredType (type description : Json) : Outcome Schema := do
  let d ← descriptionOf description
  return match type with
    | .str "number" | .str "integer" => .number d
    | .str "boolean" => .boolean d
    | _ => .string d none

/-- The properties and the required names found so far. -/
structure Declared where
  /-- The properties, in the order in which their names were first declared. -/
  properties : Entries Schema
  /-- The names that were declared without being optional. -/
  required : List String

/-- Takes one more entry of the list into account. -/
def Declared.add (d : Declared) (entry : Json) : Outcome Declared :=
  match entry with
  | .obj es =>
    match Entries.get? es "name" with
    | some (.str name) =>
      if name = "" then .ok d
      else do
        let s ← ofDeclaredType ((Entries.get? es "type").getD .null)
          ((Entries.get? es "description").getD .null)
        let isOptional := ((Entries.get? es "optional").getD (.bool false)).isTruthy
        return {
          properties := Entries.put d.properties name s
          required :=
            if isOptional || d.required.contains name then d.required else d.required ++ [name] }
    | _ => .ok d
  | _ => .ok d

/-- What a list of declared parameters comes to. -/
def declared (parameters : Json) : Outcome Declared := do
  let items ← itemsOf parameters
  items.foldlM Declared.add ⟨[], []⟩

/-- **The object with the declared parameters as its properties.** -/
def ofParameters (parameters : Json) : Outcome Schema := do
  let d ← declared parameters
  return .object none d.properties d.required false

/-- The fields that every trigger gives. -/
def triggerFields : Entries Schema := [
  ("type", .string (some "Always 'trigger'") none), ("triggered", .boolean none),
  ("tool_name", .string none none)]

/-- A value, or the empty list in the place of one that does not count as given. -/
def orEmpty (v : Option Json) : Json :=
  match v with
  | some v => if v.isTruthy then v else .arr []
  | none => .arr []

/-- **The output of a trigger**: its own fields and the declared parameters. -/
def ofTrigger (parameters : Option Json) : Outcome Schema := do
  let d ← declared (orEmpty parameters)
  let own := Entries.keys triggerFields
  return .object none (Entries.merge triggerFields d.properties)
    (own ++ d.required.filter fun name => !own.contains name) false

end Schema

end Workflow
