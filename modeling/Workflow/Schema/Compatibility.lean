import Workflow.Schema
import Workflow.Checked

/-!
# Compatibility of two sides

Whether data of the shape that a producer gives can be consumed by a side that expects
another shape. `Schema.check` compares the two schemas and lists what is wrong:

* what the consumer requires must be among the properties of the producer;
* the kinds of shared properties must be equal, except that numbers and truth values may be
  consumed as texts;
* further properties of the producer do no harm;
* where the producer is imprecise – unknown or null – nothing is known to be wrong, and the
  issue is a warning;
* what lies beneath a property that the consumer does not require is a warning as well.

Where one of the two sides is not known at all, so is the answer.
-/

namespace Workflow

/-- How bad an issue is. -/
inductive Severity where
  | error
  | warning
  deriving DecidableEq, Inhabited

/-- The written name of a severity. -/
def Severity.name : Severity → String
  | .error => "error"
  | .warning => "warning"

/-- All severities. -/
def Severity.all : List Severity := [.error, .warning]

/-- The sorts of issue. -/
inductive IssueType where
  /-- A required property is absent. -/
  | missingField
  /-- The kinds differ. -/
  | typeMismatch
  /-- The formats of two texts differ. -/
  | formatMismatch
  /-- The shape of the producer is not known precisely. -/
  | impreciseType
  /-- A link is fed by something that is no interface node. -/
  | linkConstraint
  deriving DecidableEq, Inhabited

/-- The written name of a sort of issue. -/
def IssueType.name : IssueType → String
  | .missingField => "missing-field"
  | .typeMismatch => "type-mismatch"
  | .formatMismatch => "format-mismatch"
  | .impreciseType => "imprecise-type"
  | .linkConstraint => "link-constraint"

/-- All sorts of issue. -/
def IssueType.all : List IssueType :=
  [.missingField, .typeMismatch, .formatMismatch, .impreciseType, .linkConstraint]

/-- **A problem found on a connection.** -/
structure Issue where
  /-- The sort of problem. -/
  type : IssueType
  /-- How bad it is. -/
  severity : Severity
  /-- Where it is: property names separated by points, with brackets for the items of an
  array; empty for the data as a whole. -/
  path : String
  /-- The wording. -/
  message : String
  /-- What the producer has there. -/
  sourceValue : Option String
  /-- What the consumer expects there. -/
  targetValue : Option String
  deriving DecidableEq, Inhabited

/-- The written form of an issue. -/
def Issue.toJson (i : Issue) : Json := .obj [
  ("type", .str i.type.name), ("severity", .str i.severity.name), ("path", .str i.path),
  ("message", .str i.message), ("source_value", Json.ofText? i.sourceValue),
  ("target_value", Json.ofText? i.targetValue)]

/-- Reads a name that must be one of those in a list. -/
def Checked.name {α : Type} (all : List α) (nameOf : α → String) (v : Json) : Checked α :=
  match v.text?.bind fun s => all.find? fun a => nameOf a == s with
  | some a => .ok a
  | none => Checked.fail .notName

/-- Reads an issue. -/
def Issue.ofJson : Json → Checked Issue :=
  Checked.record .notRecord fun es =>
    Issue.mk <$> Checked.need es "type" (Checked.name IssueType.all IssueType.name)
      <*> Checked.need es "severity" (Checked.name Severity.all Severity.name)
      <*> Checked.need es "path" Checked.text <*> Checked.need es "message" Checked.text
      <*> Checked.optional es "source_value" Checked.text
      <*> Checked.optional es "target_value" Checked.text

/-- What a comparison comes to. -/
inductive Status where
  /-- Nothing is wrong. -/
  | compatible
  /-- There are warnings and no errors. -/
  | warning
  /-- There is an error. -/
  | error
  /-- One of the two sides is not known. -/
  | unknown
  deriving DecidableEq, Inhabited

/-- The written name of a status. -/
def Status.name : Status → String
  | .compatible => "compatible"
  | .warning => "warning"
  | .error => "error"
  | .unknown => "unknown"

/-- The status with a written name. -/
def Status.ofName? (name : String) : Option Status :=
  match name with
  | "compatible" => some .compatible
  | "warning" => some .warning
  | "error" => some .error
  | "unknown" => some .unknown
  | _ => none

/-- The worst that a list of issues comes to. -/
def Status.ofIssues (issues : List Issue) : Status :=
  if issues.any fun i => i.severity == .error then .error
  else if issues.isEmpty then .compatible
  else .warning

namespace Issue

/-- A problem is an error where it breaks something that is required. -/
def severityOf (strict : Bool) : Severity :=
  if strict then .error else .warning

/-- The path one property further down. -/
def join (path name : String) : String :=
  if path = "" then name else path ++ "." ++ name

/-- The path as the subject of a sentence. -/
def label (path : String) : String :=
  if path = "" then "output" else "'" ++ path ++ "'"

/-- A required property that the producer does not have. -/
def missing (strict : Bool) (path : String) : Issue where
  type := .missingField
  severity := severityOf strict
  path := path
  message := "Required field '" ++ path ++ "' is missing from source output"
  sourceValue := none
  targetValue := none

/-- Two kinds that do not go together. -/
def mismatch (strict : Bool) (path : String) (source target : Kind) : Issue where
  type := .typeMismatch
  severity := severityOf strict
  path := path
  message :=
    "Type mismatch: " ++ label path ++ " is " ++ source.name ++ " in source, expected " ++
      target.name
  sourceValue := some source.name
  targetValue := some target.name

/-- A producer about which nothing is known. -/
def unknownSource (path : String) (target : Kind) : Issue where
  type := .impreciseType
  severity := .warning
  path := path
  message := label path ++ " has an unknown type in source, expected " ++ target.name
  sourceValue := some Kind.unknown.name
  targetValue := some target.name

/-- A producer that may give null. -/
def nullSource (path : String) (target : Kind) : Issue where
  type := .impreciseType
  severity := .warning
  path := path
  message := label path ++ " may be null in source, expected " ++ target.name
  sourceValue := some Kind.null.name
  targetValue := some target.name

/-- Two texts of different formats. -/
def formats (path source target : String) : Issue where
  type := .formatMismatch
  severity := .warning
  path := path
  message := "Format mismatch: " ++ label path ++ " has format '" ++ source ++
    "' in source, expected '" ++ target ++ "'"
  sourceValue := some source
  targetValue := some target

end Issue

namespace Schema

/-- Whether data of one kind may be consumed as another without loss. -/
def coerces (source target : Kind) : Bool :=
  match source, target with
  | .number, .string | .boolean, .string => true
  | _, _ => false

/-- The issues of two formats: one if both are known and they differ. -/
def compareFormats (path : String) (source target : Option String) : List Issue :=
  match source, target with
  | some f, some g => if f ≠ "" ∧ g ≠ "" ∧ f ≠ g then [Issue.formats path f g] else []
  | _, _ => []

/-- The issues of a consumer that is neither unknown nor an object nor an array. -/
def compareSimple (producer consumer : Schema) (path : String) (strict : Bool) : List Issue :=
  match producer, consumer with
  | .string _ f, .string _ g => compareFormats path f g
  | _, _ =>
    if producer.kind = consumer.kind ∨ coerces producer.kind consumer.kind then []
    else [Issue.mismatch strict path producer.kind consumer.kind]

/-- The issues of an imprecise producer, where it is one. -/
def imprecise? (producer : Schema) (path : String) (target : Kind) : Option Issue :=
  match producer with
  | .unknown _ => some (Issue.unknownSource path target)
  | .null _ => if target = .null then none else some (Issue.nullSource path target)
  | _ => none

/-- The properties that are required and absent. -/
def missingFields (required : List String) (properties : List (String × Schema))
    (path : String) (strict : Bool) : List Issue :=
  (required.filter fun name => !Entries.has properties name).map fun name =>
    Issue.missing strict (Issue.join path name)

mutual

/-- **What is wrong** when data of the shape `producer` are consumed as `consumer`. -/
def compare (producer consumer : Schema) (path : String) (strict : Bool) : List Issue :=
  match consumer with
  | .unknown _ => []
  | .object _ fields required _ =>
    match imprecise? producer path .object with
    | some issue => [issue]
    | none =>
      match producer with
      | .object _ properties _ _ =>
        missingFields required properties path strict ++
          compareFields properties required path strict fields
      | _ => [Issue.mismatch (strict && !required.isEmpty) path producer.kind .object]
  | .array _ target =>
    match imprecise? producer path .array with
    | some issue => [issue]
    | none =>
      match producer with
      | .array _ source => compare source target (path ++ "[]") strict
      | _ => [Issue.mismatch strict path producer.kind .array]
  | simple =>
    match imprecise? producer path simple.kind with
    | some issue => [issue]
    | none => compareSimple producer simple path strict
termination_by structural consumer

/-- What is wrong with the properties that both sides have. -/
def compareFields (properties : List (String × Schema)) (required : List String)
    (path : String) (strict : Bool) : List (String × Schema) → List Issue
  | [] => []
  | (name, target) :: rest =>
    (match Entries.get? properties name with
      | some source =>
        compare source target (Issue.join path name) (strict && required.contains name)
      | none => []) ++ compareFields properties required path strict rest

end

/-- The outcome of a comparison, with the two sides that were compared. -/
structure Verdict where
  /-- What it comes to. -/
  status : Status
  /-- What is wrong. -/
  issues : List Issue
  /-- What the producer gives, if known. -/
  source : Option Schema
  /-- What the consumer expects, if known. -/
  target : Option Schema

/-- The written form of a verdict. -/
def Verdict.toJson (v : Verdict) : Json := .obj [
  ("status", .str v.status.name), ("issues", .arr (v.issues.map Issue.toJson)),
  ("source_schema", optionToJson v.source), ("target_schema", optionToJson v.target)]

/-- **Whether what a producer gives can be consumed.** -/
def check (producer consumer : Option Schema) : Verdict :=
  match producer, consumer with
  | some p, some c =>
    let issues := compare p c "" true
    ⟨Status.ofIssues issues, issues, producer, consumer⟩
  | _, _ => ⟨.unknown, [], producer, consumer⟩

end Schema

end Workflow
