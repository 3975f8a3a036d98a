import Workflow.FlowStore

/-!
# A store in memory

Flows stand in the order in which they were created, and a save leaves a flow in its place.
No id stands twice.
-/

namespace Workflow

/-- **Flows in memory.** -/
structure Memory where
  /-- The flows, in order of creation. -/
  flows : List Flow := []
  /-- No id stands twice. -/
  distinct : (flows.map Flow.id).Nodup := by simp

namespace Memory

/-- The flow with an id. -/
def find? (m : Memory) (id : String) : Option Flow :=
  m.flows.find? fun f => f.id == id

/-- A flow in the place of the one with its id. -/
def replace (f : Flow) (flows : List Flow) : List Flow :=
  flows.map fun g => if g.id = f.id then f else g

theorem map_id_replace (f : Flow) (flows : List Flow) :
    (replace f flows).map Flow.id = flows.map Flow.id := by
  simp only [replace, List.map_map]
  refine List.map_congr_left fun g _ => ?_
  by_cases h : g.id = f.id
  · simp [h]
  · simp [h]

/-- The store with a flow in the place of the one with its id. -/
def put (m : Memory) (f : Flow) : Memory where
  flows := replace f m.flows
  distinct := by rw [map_id_replace]; exact m.distinct

/-- **Saves a flow** whose version is the stored one. -/
def save (m : Memory) (f : Flow) (now : String) : Outcome (Memory × Flow) :=
  match m.find? f.id with
  | none => .error (.flowNotFound f.id)
  | some stored =>
    if stored.version = f.version then .ok (m.put (f.saved now), f.saved now)
    else .error (.versionConflict f.id f.version stored.version)

/-- **Stores a new flow.** -/
def create (m : Memory) (f : Flow) : Outcome Memory :=
  if h : f.id ∈ m.flows.map Flow.id then .error (.flowExists f.id)
  else .ok {
    flows := m.flows ++ [f]
    distinct := by
      rw [List.map_append, List.nodup_append]
      exact ⟨m.distinct, by simp, fun a ha b hb => by
        simp only [List.map_cons, List.map_nil, List.mem_singleton] at hb
        exact fun he => h (hb ▸ he ▸ ha)⟩ }

/-- The text that a value is taken for: only texts equal texts, and a list or an object cannot be
looked up. -/
def keyOf : Json → Outcome (Option String)
  | .str s => .ok (some s)
  | v => if v.isKey then .ok none else .error .unusableKey

/-- **Deletes a flow.** -/
def delete (m : Memory) (id : String) : Memory where
  flows := m.flows.filter fun f => f.id != id
  distinct := m.distinct.sublist (List.Sublist.map _ List.filter_sublist)

end Memory

instance : FlowStore Memory where
  empty := {}
  keyOf _ := Memory.keyOf
  load m id := .ok (m.find? id)
  save := Memory.save
  create := Memory.create
  list m app := .ok (m.flows.filter fun f => f.isOf app)
  delete := Memory.delete

end Workflow
