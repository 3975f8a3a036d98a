import Workflow.Failure
import Workflow.Json.Display
import Workflow.Json.Printer

/-!
# Maps out of values

Where a map is expected an object is taken as it is, and so is a list of pairs, of which the
last one of a key counts. A pair may also be a text of two characters or an object of two
keys. A key is any value but a list or an object, and keys are equal if their values are.
-/

namespace Workflow

/-- **A map whose keys are values**, in order of insertion. -/
abbrev KeyedValues (α : Type) := List (Json × α)

namespace KeyedValues

variable {α : Type}

/-- Puts a value at a key: in the place of the value at an equal key if there is one, otherwise at
the end. -/
def put : KeyedValues α → Json → α → KeyedValues α
  | [], key, v => [(key, v)]
  | (k, old) :: rest, key, v =>
    if Json.same k key then (k, v) :: rest else (k, old) :: put rest key v

/-- The entries of a map whose keys are texts. -/
def ofEntries (es : Entries α) : KeyedValues α :=
  es.map fun entry => (.str entry.1, entry.2)

/-- The map with the pairs of another one put in. -/
def merge (m more : KeyedValues α) : KeyedValues α :=
  more.foldl (fun acc entry => put acc entry.1 entry.2) m

/-- The defect of a key that is no text. -/
def keyDefect (key : Json) : Defect :=
  let step : Step := match key with
    | .int (.ofNat n) => .index n
    | .bool b => .index (if b then 1 else 0)
    | v => .key (v.display.toOption.getD "<unprintable int object>")
  ⟨[step, .key "[key]"], .notText⟩

/-- The map if all its keys are texts. -/
def checked (m : KeyedValues α) : Checked (Entries α) :=
  match m.filter fun entry => entry.1.text?.isNone with
  | [] => .ok (Entries.ofList (m.filterMap fun entry => entry.1.text?.map fun k => (k, entry.2)))
  | stray => .bad (stray.map fun entry => keyDefect entry.1)

/-- The map with its keys written as texts. -/
def written (m : KeyedValues α) : Entries α :=
  Entries.ofList (m.map fun entry => (entry.1.text?.getD entry.1.print, entry.2))

end KeyedValues

namespace Json

/-- The items of a value that is gone through, none if that cannot be done. -/
def iterated? : Json → Option (List Json)
  | .arr items => some items
  | .str s => some (s.toList.map fun c => .str (String.singleton c))
  | .obj es => some (es.map fun entry => .str entry.1)
  | _ => none

/-- The pair that a value is, at a position in a list. -/
def pairAt (index : Nat) (v : Json) : Outcome (Json × Json) :=
  match v.iterated? with
  | some [key, v] => if key.isKey then .ok (key, v) else .error .unusableKey
  | some items => .error (.notPair index items.length)
  | none => .error .notIterable

/-- The pairs that values are, the first of them at a given position. -/
def pairsFrom (index : Nat) : List Json → Outcome (List (Json × Json))
  | [] => .ok []
  | v :: rest => do return (← pairAt index v) :: (← pairsFrom (index + 1) rest)

/-- **The map that a value is.** -/
def toMap : Json → Outcome (KeyedValues Json)
  | .obj es => .ok (KeyedValues.ofEntries es)
  | v =>
    match v.iterated? with
    | some items => do return KeyedValues.merge [] (← pairsFrom 0 items)
    | none => .error .notIterable

end Json

end Workflow
