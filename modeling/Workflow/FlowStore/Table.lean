import Workflow.FlowStore
import Workflow.Flow.Document
import Workflow.Double.Shortest

/-!
# A store in a table

Each flow is one row, which holds the written form of the document and, beside it, the
columns by which rows are found and sorted. A number that is not finite has no written form,
so a document with one at a place where a number is needed can be saved but not be read
back. Nor can a document that is too deep, or one with too long an integer in it.

A save overwrites the row that has both the id and the version, so it finds no row if the
flow was changed in the meantime. The column for the version holds 64 bits.
-/

namespace Workflow

/-- **The row of a flow.** -/
structure Row where
  /-- The id, the key of the table. -/
  id : String
  /-- The app that owns the flow. -/
  app : Option String
  /-- The version. -/
  version : Int
  /-- The written document. -/
  document : Json
  /-- When the flow was last changed. -/
  updatedAt : String
  deriving Inhabited

/-- The row of a flow. -/
def Row.ofFlow (f : Flow) : Row :=
  ⟨f.id, f.app, f.version, f.toJson.written, f.updatedAt⟩

/-- The flow of a row, read from its document. -/
def Row.flow (r : Row) : Outcome Flow :=
  if r.document.isReadable then (Flow.ofJson r.document).orFail
  else (Checked.fail .notJson).orFail

/-- **The table of flows.** -/
structure Table where
  /-- The rows, in order of insertion. -/
  rows : List Row := []
  /-- No id stands twice. -/
  distinct : (rows.map Row.id).Nodup := by simp

namespace Table

/-- The row with an id. -/
def find? (t : Table) (id : String) : Option Row :=
  t.rows.find? fun r => r.id == id

/-- The rows with one in the place of that with its id and the given version. -/
def overwrite (row : Row) (version : Int) (rows : List Row) : List Row :=
  rows.map fun r => if r.id = row.id ∧ r.version = version then row else r

theorem map_id_overwrite (row : Row) (version : Int) (rows : List Row) :
    (overwrite row version rows).map Row.id = rows.map Row.id := by
  simp only [overwrite, List.map_map]
  refine List.map_congr_left fun r _ => ?_
  by_cases h : r.id = row.id ∧ r.version = version
  · simp [h]
  · simp [h]

/-- The table after a row was overwritten. -/
def put (t : Table) (row : Row) (version : Int) : Table where
  rows := overwrite row version t.rows
  distinct := by rw [map_id_overwrite]; exact t.distinct

/-- Refuses a version that does not fit its column. -/
def checkVersion (version : Int) : Outcome Unit :=
  if Checked.fitsWord version then .ok () else .error .numberTooLarge

/-- Refuses a flow that has no written form. -/
def checkWritable (f : Flow) : Outcome Unit :=
  if f.isWritable then .ok () else .error .unwritable

/-- **Saves a flow** whose version is the stored one. -/
def save (t : Table) (f : Flow) (now : String) : Outcome (Table × Flow) := do
  checkWritable f
  checkVersion (f.version + 1)
  checkVersion f.version
  match t.find? f.id with
  | none => throw (.flowNotFound f.id)
  | some row =>
    if row.version = f.version then
      return (t.put (Row.ofFlow (f.saved now)) f.version, f.saved now)
    else throw (.versionConflict f.id f.version row.version)

/-- **Stores a new flow.** -/
def create (t : Table) (f : Flow) : Outcome Table := do
  checkWritable f
  checkVersion f.version
  if h : f.id ∈ t.rows.map Row.id then throw .rowExists
  else return {
    rows := t.rows ++ [Row.ofFlow f]
    distinct := by
      rw [List.map_append, List.nodup_append]
      exact ⟨t.distinct, by simp, fun a ha b hb => by
        simp only [Row.ofFlow, List.map_cons, List.map_nil, List.mem_singleton] at hb
        exact fun he => h (hb ▸ he ▸ ha)⟩ }

/-- The text that a value is taken for when it is compared with a column of texts: a number is
taken as it is written. -/
def keyOf : Json → Outcome (Option String)
  | .str s => .ok (some s)
  | .int n => if Checked.fitsWord n then .ok (some (toString n)) else .error .numberTooLarge
  | .bool b => .ok (some (if b then "1" else "0"))
  | .float (.infinity negative) => .ok (some (if negative then "-Inf" else "Inf"))
  | .float .nan | .null => .ok none
  | .float x => .ok (some x.text)
  | _ => .error .unboundValue

/-- **Deletes a flow.** -/
def delete (t : Table) (id : String) : Table where
  rows := t.rows.filter fun r => r.id != id
  distinct := t.distinct.sublist (List.Sublist.map _ List.filter_sublist)

/-- The rows that are asked for, those that were changed last first. -/
def select (t : Table) (app : Option String) : List Row :=
  (t.rows.filter fun r => app.isNone || r.app == app).mergeSort fun a b =>
    !(a.updatedAt < b.updatedAt)

end Table

instance : FlowStore Table where
  empty := {}
  keyOf _ := Table.keyOf
  load t id :=
    match t.find? id with
    | none => .ok none
    | some row => do return some (← row.flow)
  save := Table.save
  create := Table.create
  list t app := (t.select app).mapM Row.flow
  delete := Table.delete

end Workflow
