import Workflow.Json
import Workflow.Text.Numeral

/-!
# Checked reading of documents

A document that comes from outside is read field by field. A value that does not fit its
field is a **defect**: what is wrong, and the path to the place where it is wrong. Reading
does not stop at the first defect; the fields of a record are independent, and the answer
lists the defects of all of them in the order of the fields.

`Checked α` is the outcome: a value, or the list of defects. Its sequencing keeps the
defects of both sides, so that a record is read as `R.mk <$> field₁ <*> field₂ <*> …`.

A few conversions are made on the way. A truth value may be written as a number or a word,
a number as a text, and an integer where a real number is expected. A text is never made
out of anything else.
-/

namespace Workflow

/-- One step of a path into a document. -/
inductive Step where
  /-- To the value at a key, or to the variant of a schema with this tag. -/
  | key (name : String)
  /-- To the item of a list at this position. -/
  | index (i : Nat)
  deriving DecidableEq, Inhabited

/-- **What is wrong with a value.** -/
inductive Fault where
  /-- A field that must be there is absent. -/
  | missing
  /-- Not a text. -/
  | notText
  /-- Not a list. -/
  | notList
  /-- Not an object, where a map was expected. -/
  | notMap
  /-- Not an object, where a record was expected. -/
  | notRecord
  /-- Not an object, where the fields of a record were to be read off. -/
  | notFields
  /-- Not one of the names allowed here. -/
  | notName
  /-- A schema without a kind. -/
  | noKind
  /-- A schema of an unknown kind. -/
  | unknownKind
  /-- A field that the record does not have. -/
  | unexpected
  /-- Neither a truth value nor a number nor a text. -/
  | notFlag
  /-- A number or a text that stands for no truth value. -/
  | unknownFlag
  /-- Neither a number nor a text. -/
  | notReal
  /-- A text that writes no real number. -/
  | malformedReal
  /-- Neither a number nor a text, where an integer was expected. -/
  | notInteger
  /-- A text that writes no integer. -/
  | malformedInteger
  /-- A text or number too large to be read as an integer. -/
  | oversizedInteger
  /-- A number with a fraction, where an integer was expected. -/
  | fractional
  /-- A number that is not finite, where an integer was expected. -/
  | notFinite
  /-- A text that is not JSON. -/
  | notJson
  /-- A schema inside too many others. -/
  | tooDeep
  deriving DecidableEq, Inhabited

/-- The word by which a fault is reported. -/
def Fault.word : Fault → String
  | .missing => "missing"
  | .notText => "string_type"
  | .notList => "list_type"
  | .notMap => "dict_type"
  | .notRecord => "model_type"
  | .notFields => "model_attributes_type"
  | .notName => "enum"
  | .noKind => "union_tag_not_found"
  | .unknownKind => "union_tag_invalid"
  | .unexpected => "extra_forbidden"
  | .notFlag => "bool_type"
  | .unknownFlag => "bool_parsing"
  | .notReal => "float_type"
  | .malformedReal => "float_parsing"
  | .notInteger => "int_type"
  | .malformedInteger => "int_parsing"
  | .oversizedInteger => "int_parsing_size"
  | .fractional => "int_from_float"
  | .notFinite => "finite_number"
  | .notJson => "json_invalid"
  | .tooDeep => "recursion_depth_exceeded"

/-- A fault and the path to it. -/
structure Defect where
  /-- The path from the document to the value that is wrong. -/
  path : List Step
  /-- What is wrong there. -/
  fault : Fault
  deriving DecidableEq, Inhabited

/-- The defect one level further down. -/
def Defect.under (step : Step) (d : Defect) : Defect :=
  { d with path := step :: d.path }

/-- **The outcome of a checked reading**: a value, or all that is wrong. -/
inductive Checked (α : Type) where
  /-- The document was accepted. -/
  | ok (value : α)
  /-- The document was refused. -/
  | bad (defects : List Defect)
  deriving Inhabited

namespace Checked

variable {α β : Type}

/-- Refused for one reason, at the place itself. -/
def fail (fault : Fault) : Checked α :=
  .bad [⟨[], fault⟩]

/-- The outcome with its value replaced. -/
def map (f : α → β) : Checked α → Checked β
  | .ok a => .ok (f a)
  | .bad ds => .bad ds

/-- A function and its argument, with the defects of both. -/
def apply : Checked (α → β) → Checked α → Checked β
  | .ok f, .ok a => .ok (f a)
  | .ok _, .bad ds => .bad ds
  | .bad ds, .ok _ => .bad ds
  | .bad ds, .bad ds' => .bad (ds ++ ds')

instance : Applicative Checked where
  pure := .ok
  map := Checked.map
  seq f a := apply f (a ())

/-- The outcome of reading the value one step down. -/
def under (step : Step) : Checked α → Checked α
  | .ok a => .ok a
  | .bad ds => .bad (ds.map (Defect.under step))

/-- The value, if the document was accepted. -/
def toOption : Checked α → Option α
  | .ok a => some a
  | .bad _ => none

/-- Both outcomes as a pair, with the defects of both. -/
def both (a : Checked α) (b : Checked β) : Checked (α × β) :=
  apply (map Prod.mk a) b

/-! ## Single values -/

/-- A text. -/
def text : Json → Checked String
  | .str s => .ok s
  | _ => fail .notText

/-- A value or null. -/
def nullable (read : Json → Checked α) : Json → Checked (Option α)
  | .null => .ok none
  | v => map some (read v)

/-- The words for true. -/
def trueWords : List String := ["1", "on", "t", "true", "y", "yes"]

/-- The words for false. -/
def falseWords : List String := ["0", "off", "f", "false", "n", "no"]

/-- The truth value that a number stands for. -/
def flagOfInt (n : Int) : Checked Bool :=
  if n = 0 then .ok false else if n = 1 then .ok true else fail .unknownFlag

/-- The least integer that does not fit into 64 bits with a sign. -/
def wordBound : Int := 0x8000000000000000

/-- The integers that fit into 64 bits with a sign. -/
def fitsWord (n : Int) : Bool :=
  -wordBound ≤ n && n < wordBound

/-- The integers that are safely told from their neighbours when they come as a real number:
those strictly between the bounds of 64 bits. -/
def isSmall (n : Int) : Bool :=
  -wordBound < n && n < wordBound

/-- A truth value: itself, one of the numbers 0 and 1, or one of its words. -/
def flag : Json → Checked Bool
  | .bool b => .ok b
  | .str s =>
    let word := String.ofList (s.toList.map Char.toLower)
    if trueWords.contains word then .ok true
    else if falseWords.contains word then .ok false
    else fail .unknownFlag
  | .int n => if fitsWord n then flagOfInt n else fail .notFlag
  | .float x =>
    match x.toInt? with
    | some n => if isSmall n then flagOfInt n else fail .notFlag
    | none => fail .notFlag
  | _ => fail .notFlag

/-- A real number: a number of either kind, a truth value, or a text that writes one. -/
def real : Json → Checked Double
  | .float x => .ok x
  | .int n =>
    let x := Double.ofInt n
    if x.isFinite then .ok x else fail .notReal
  | .bool b => .ok (Double.ofInt (if b then 1 else 0))
  | .str s =>
    match Numeral.real? s.toList with
    | some x => .ok x
    | none => fail .malformedReal
  | _ => fail .notReal

/-- An integer: itself, a number without a fraction, a truth value, or a text that writes
one. -/
def whole : Json → Checked Int
  | .int n => .ok n
  | .bool b => .ok (if b then 1 else 0)
  | .float x =>
    if !x.isFinite then fail .notFinite
    else
      match x.toInt? with
      | some n => if isSmall n then .ok n else fail .oversizedInteger
      | none => fail .fractional
  | .str s =>
    match Numeral.whole s.toList with
    | .number n => .ok n
    | .tooLong => fail .oversizedInteger
    | .malformed => fail .malformedInteger
  | _ => fail .notInteger

/-! ## Lists, maps and records -/

/-- The items of a list, the first of them at a given position. -/
def itemsFrom (read : Json → Checked α) (i : Nat) : List Json → Checked (List α)
  | [] => .ok []
  | v :: vs => apply (map List.cons (under (.index i) (read v))) (itemsFrom read (i + 1) vs)

/-- A list of values of one form. -/
def list (read : Json → Checked α) : Json → Checked (List α)
  | .arr vs => itemsFrom read 0 vs
  | _ => fail .notList

/-- A map with values of any form. -/
def object : Json → Checked (Entries Json)
  | .obj es => .ok es
  | _ => fail .notMap

/-- A record, whose fields are read by the given function; `fault` is reported for what is
no object. -/
def record (fault : Fault) (fields : Entries Json → Checked α) : Json → Checked α
  | .obj es => fields es
  | _ => fail fault

/-- A field that must be there. -/
def need (es : Entries Json) (key : String) (read : Json → Checked α) : Checked α :=
  match Entries.get? es key with
  | some v => under (.key key) (read v)
  | none => .bad [⟨[.key key], .missing⟩]

/-- A field with a default. -/
def field (es : Entries Json) (key : String) (default : α) (read : Json → Checked α) :
    Checked α :=
  match Entries.get? es key with
  | some v => under (.key key) (read v)
  | none => .ok default

/-- A field that may be absent or null. -/
def optional (es : Entries Json) (key : String) (read : Json → Checked α) :
    Checked (Option α) :=
  field es key none (nullable read)

end Checked

end Workflow
