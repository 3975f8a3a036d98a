import Workflow.Checked
import Workflow.Schema.Guard

/-!
# Reading schemas

`Schema.ofJson` reads a written schema. The kind decides which fields there may be; every
field but the kind may be left out, and no other field is allowed. In a path the kind of a
schema stands as a step of its own before the fields of that schema.

A schema that stands inside too many others is not looked at, and a `Guard` says how many those are.

The fields of a schema are the description, then the fields of its kind, and this is the
order in which defects are listed, followed by the fields that are not allowed.
-/

namespace Workflow

/-- The kind with a written name. -/
def Kind.ofName? (name : String) : Option Kind :=
  match name with
  | "object" => some .object
  | "array" => some .array
  | "string" => some .string
  | "number" => some .number
  | "boolean" => some .boolean
  | "null" => some .null
  | "unknown" => some .unknown
  | _ => none

/-- The fields that a schema of a kind may have. -/
def Kind.fields : Kind → List String
  | .object => ["description", "kind", "properties", "required", "open"]
  | .array => ["description", "kind", "items"]
  | .string => ["description", "kind", "format"]
  | _ => ["description", "kind"]

namespace Schema

open Checked

/-- Refuses, one by one, the fields that a kind does not have. -/
def checkFields (k : Kind) (es : Entries Json) : Checked Unit :=
  match es.filter fun e => !k.fields.contains e.1 with
  | [] => .ok ()
  | extra => .bad (extra.map fun e => ⟨[.key e.1], .unexpected⟩)

/-- A field that has already been read, or its default. -/
def orDefault {α : Type} (key : String) (default : α) : Option (Checked α) → Checked α
  | some outcome => under (.key key) outcome
  | none => .ok default

/-- A schema of a given kind. The properties and the items come already read, where the
document has them. -/
def assemble (k : Kind) (es : Entries Json)
    (properties : Option (Checked (List (String × Schema)))) (items : Option (Checked Schema)) :
    Checked Schema :=
  let description := optional es "description" text
  let schema : Checked Schema :=
    match k with
    | .object => .object <$> description <*> orDefault "properties" [] properties
        <*> field es "required" [] (list text) <*> field es "open" false flag
    | .array => .array <$> description <*> orDefault "items" (.unknown none) items
    | .string => .string <$> description <*> optional es "format" text
    | .number => .number <$> description
    | .boolean => .boolean <$> description
    | .null => .null <$> description
    | .unknown => .unknown <$> description
  under (.key k.name) (map Prod.fst (both schema (checkFields k es)))

mutual

/-- Reads a written schema inside schemas of some kinds, as far as the guard lets it. -/
def readInside (g : Guard) (around : List Kind) : Json → Checked Schema
  | .obj es =>
    match Entries.get? es "kind" with
    | none => fail .noKind
    | some (.str name) =>
      match Kind.ofName? name with
      | some k =>
        if g.count (k :: around) ≤ g.readingLimit then
          assemble k es (propertiesIn g (k :: around) es) (itemsIn g (k :: around) es)
        else under (.key k.name) (fail .tooDeep)
      | none => fail .unknownKind
    | some _ => fail .unknownKind
  | _ => fail .notFields

/-- The field with the properties of an object, if there is one. -/
def propertiesIn (g : Guard) (around : List Kind) :
    List (String × Json) → Option (Checked (List (String × Schema)))
  | [] => none
  | (key, v) :: rest =>
    if key = "properties" then some (readProperties g around v) else propertiesIn g around rest

/-- The field with the items of an array, if there is one. -/
def itemsIn (g : Guard) (around : List Kind) : List (String × Json) → Option (Checked Schema)
  | [] => none
  | (key, v) :: rest =>
    if key = "items" then some (readInside g around v) else itemsIn g around rest

/-- Reads the properties of an object. -/
def readProperties (g : Guard) (around : List Kind) : Json → Checked (List (String × Schema))
  | .obj es => readMembers g around es
  | _ => fail .notMap

/-- Reads properties one by one. -/
def readMembers (g : Guard) (around : List Kind) :
    List (String × Json) → Checked (List (String × Schema))
  | [] => .ok []
  | (name, v) :: rest =>
    apply (map (fun s ps => (name, s) :: ps) (under (.key name) (readInside g around v)))
      (readMembers g around rest)

end

/-- **Reads a written schema** under a guard. -/
def read (g : Guard) (v : Json) : Checked Schema :=
  readInside g [] v

/-- Reads a written schema under the guard of the program. -/
def ofJson (v : Json) : Checked Schema :=
  read .standard v

end Schema

end Workflow
