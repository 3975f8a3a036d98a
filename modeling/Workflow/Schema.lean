import Workflow.Json

/-!
# Schemas

A schema describes the shape of the data that one side of a node takes or gives: an object
with named properties, an array, a text, a number, a truth value, null, or nothing known.
The seven variants are closed, and each may carry a description that no check looks at.

`Schema.toJson` is the written form, which is also the form in which a schema is cached
among the parameters of a node. `Schema.same` is equality up to the order of properties.
-/

namespace Workflow

/-- The kinds of schema. -/
inductive Kind where
  | object
  | array
  | string
  | number
  | boolean
  | null
  | unknown
  deriving DecidableEq, Inhabited

/-- The written name of a kind. -/
def Kind.name : Kind → String
  | .object => "object"
  | .array => "array"
  | .string => "string"
  | .number => "number"
  | .boolean => "boolean"
  | .null => "null"
  | .unknown => "unknown"

/-- **A schema.** -/
inductive Schema where
  /-- An object. `required` lists the properties that must be present; an open object
  tolerates properties that are not listed. -/
  | object (description : Option String) (properties : List (String × Schema))
      (required : List String) (isOpen : Bool)
  /-- A list whose items all have the same shape. -/
  | array (description : Option String) (items : Schema)
  /-- A text, possibly of a known format. -/
  | string (description : Option String) (format : Option String)
  /-- A number. -/
  | number (description : Option String)
  /-- A truth value. -/
  | boolean (description : Option String)
  /-- Nothing but null. -/
  | null (description : Option String)
  /-- Anything; nothing is known about the shape. -/
  | unknown (description : Option String)
  deriving Inhabited

namespace Schema

/-- The kind of a schema. -/
def kind : Schema → Kind
  | .object .. => .object
  | .array .. => .array
  | .string .. => .string
  | .number .. => .number
  | .boolean .. => .boolean
  | .null .. => .null
  | .unknown .. => .unknown

/-- The description of a schema. -/
def description : Schema → Option String
  | .object d .. => d
  | .array d _ => d
  | .string d _ => d
  | .number d => d
  | .boolean d => d
  | .null d => d
  | .unknown d => d

/-- An object that takes any properties. -/
def openObject (description : Option String) : Schema :=
  .object description [] [] true

mutual

/-- **The written form of a schema.** -/
def toJson : Schema → Json
  | .object d ps req o => .obj [
      ("description", Json.ofText? d), ("kind", .str Kind.object.name),
      ("properties", .obj (propertiesToJson ps)), ("required", Json.ofTexts req),
      ("open", .bool o)]
  | .array d items => .obj [
      ("description", Json.ofText? d), ("kind", .str Kind.array.name), ("items", toJson items)]
  | .string d f => .obj [
      ("description", Json.ofText? d), ("kind", .str Kind.string.name),
      ("format", Json.ofText? f)]
  | .number d => .obj [("description", Json.ofText? d), ("kind", .str Kind.number.name)]
  | .boolean d => .obj [("description", Json.ofText? d), ("kind", .str Kind.boolean.name)]
  | .null d => .obj [("description", Json.ofText? d), ("kind", .str Kind.null.name)]
  | .unknown d => .obj [("description", Json.ofText? d), ("kind", .str Kind.unknown.name)]

/-- The written forms of properties. -/
def propertiesToJson : List (String × Schema) → List (String × Json)
  | [] => []
  | (name, s) :: rest => (name, toJson s) :: propertiesToJson rest

end

/-- The written form of a schema that may be absent. -/
def optionToJson : Option Schema → Json
  | some s => s.toJson
  | none => .null

mutual

/-- How many schemas stand inside one another. -/
def depth : Schema → Nat
  | .object _ ps _ _ => propertiesDepth ps + 1
  | .array _ items => depth items + 1
  | _ => 1

/-- The greatest depth of properties. -/
def propertiesDepth : List (String × Schema) → Nat
  | [] => 0
  | (_, s) :: rest => max (depth s) (propertiesDepth rest)

end

mutual

/-- **Equality up to the order of properties**, descriptions included. -/
def same : Schema → Schema → Bool
  | .object d ps req o, .object d' ps' req' o' =>
    d == d' && req == req' && o == o' && ps.length == ps'.length && sameProperties ps ps'
  | .array d items, .array d' items' => d == d' && same items items'
  | .string d f, .string d' f' => d == d' && f == f'
  | .number d, .number d' => d == d'
  | .boolean d, .boolean d' => d == d'
  | .null d, .null d' => d == d'
  | .unknown d, .unknown d' => d == d'
  | _, _ => false

/-- Whether every property of the first list has an equal counterpart in the second. -/
def sameProperties : List (String × Schema) → List (String × Schema) → Bool
  | [], _ => true
  | (name, s) :: rest, ps =>
    (match Entries.get? ps name with
      | some t => same s t
      | none => false) && sameProperties rest ps

end

end Schema

end Workflow
