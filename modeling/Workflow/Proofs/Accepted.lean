import Workflow.Http
import Workflow.Proofs.Document

/-!
# What can be asked for

An operation can be given a position that is none, and it is told where the position is used. Names,
ids, handles and parameters are texts and maps by their types, so a position is all that could be
wrong with the arguments of an operation (`Operation.isAccepted`).

Who asks over HTTP cannot get that far. The body of a request is read before anything is done, and
`Http.isAccepted_of_action?` goes through the routes: whatever operation a request leads to, there
is nothing wrong with its arguments.
-/

namespace Workflow

/-! ## Arguments -/

/-- The position that an edit is given, perhaps a malformed one. -/
def Edit.position? : Edit → Option (Checked Position)
  | .addNode _ _ position _ | .splice _ _ _ position => position
  | .updateNode _ update => update.position
  | .moveNode _ position => some position
  | _ => none

/-- **Whether an edit can be asked for**: a position that it is given is one. Names, ids, handles
and parameters are what they have to be already. -/
def Edit.isAccepted (e : Edit) : Bool :=
  e.position?.all fun position => position.toOption.isSome

namespace Operation

/-- The flow that an operation edits, by its id, and the edit. -/
def edit? : Operation → Option (String × Edit)
  | .onFlow flow (.edit e) => some (flow, e)
  | _ => none

theorem eq_onFlow_of_edit? {op : Operation} {flow : String} {e : Edit}
    (h : op.edit? = some (flow, e)) : op = .onFlow flow (.edit e) := by
  unfold edit? at h
  split at h
  · cases h
    rfl
  · cases h

/-- **Whether an operation can be asked for**: an edit of a flow must be one that can. -/
def isAccepted (op : Operation) : Bool :=
  op.edit?.all fun p => p.2.isAccepted

end Operation

/-! ## Bodies and routes -/

namespace Http

/-- The operation that a method carries out at a route. -/
def Action.operation? : Action → Option Operation
  | .carryOut (.ok op) | .delete op _ => some op
  | _ => none

theorem exists_of_read {α : Type} {body : String} {fields : Entries Json → Checked α} {a : α}
    (h : Body.read body fields = .ok a) : ∃ es, fields es = .ok a := by
  have hvalue {v : Json} (h : Body.readValue v fields = .ok a) : ∃ es, fields es = .ok a := by
    unfold Body.readValue at h
    split at h
    · next b hb =>
      cases h
      cases v with
      | obj es => exact ⟨es, hb⟩
      | _ => cases hb
    · split at h <;> cases h
  unfold Body.read at h
  split at h
  · cases h
  · split at h
    · exact hvalue h
    · cases h
    · cases h

/-- A position inside a body is one. -/
theorem isSome_of_position? {es : Entries Json} {position : Option (Checked Position)}
    (h : Body.position? es = .ok position) :
    (position.all fun p => p.toOption.isSome) = true := by
  obtain ⟨place, -, rfl⟩ := Checked.map_eq_ok.1 h
  cases place <;> rfl

/-- Whether all operations that a body can give can be asked for. -/
def Vouches (fields : Entries Json → Checked Operation) : Prop :=
  ∀ es op, fields es = .ok op → op.isAccepted = true

theorem vouches_newFlow : Vouches Body.newFlow := by
  intro es op h
  simp only [Body.newFlow, Checked.seq_eq_ok, Checked.map_eq_ok] at h
  obtain ⟨_, _, ⟨_, _, ⟨_, -, rfl⟩, -, rfl⟩, -, rfl⟩ := h
  rfl

theorem vouches_newNode (flow : String) : Vouches (Body.newNode flow) := by
  intro es op h
  simp only [Body.newNode, Checked.seq_eq_ok, Checked.map_eq_ok] at h
  obtain ⟨_, _, ⟨_, position, ⟨_, _, ⟨_, -, rfl⟩, -, rfl⟩, hposition, rfl⟩, -, rfl⟩ := h
  exact isSome_of_position? hposition

theorem vouches_nodeUpdate (flow node : String) : Vouches (Body.nodeUpdate flow node) := by
  intro es op h
  simp only [Body.nodeUpdate, Checked.seq_eq_ok, Checked.map_eq_ok] at h
  obtain ⟨_, _, ⟨_, position, ⟨_, -, rfl⟩, hposition, rfl⟩, -, rfl⟩ := h
  exact isSome_of_position? hposition

theorem vouches_newPosition (flow node : String) : Vouches (Body.newPosition flow node) := by
  intro es op h
  obtain ⟨_, -, rfl⟩ := Checked.map_eq_ok.1 h
  rfl

theorem vouches_newConnection (flow : String) : Vouches (Body.newConnection flow) := by
  intro es op h
  simp only [Body.newConnection, Checked.seq_eq_ok, Checked.map_eq_ok] at h
  obtain ⟨_, _, ⟨_, _, ⟨_, _, ⟨_, -, rfl⟩, -, rfl⟩, -, rfl⟩, -, rfl⟩ := h
  rfl

theorem vouches_newTransformer (flow : String) : Vouches (Body.newTransformer flow) := by
  intro es op h
  simp only [Body.newTransformer, Checked.seq_eq_ok, Checked.map_eq_ok] at h
  obtain ⟨_, position, ⟨_, _, ⟨_, _, ⟨_, -, rfl⟩, -, rfl⟩, -, rfl⟩, hposition, rfl⟩ := h
  exact isSome_of_position? hposition

theorem vouches_sample (flow node : String) : Vouches (Body.sample flow node) := by
  intro es op h
  obtain ⟨_, -, rfl⟩ := Checked.map_eq_ok.1 h
  rfl

theorem vouches_pair (flow : String) : Vouches (Body.pair flow) := by
  intro es op h
  simp only [Body.pair, Checked.seq_eq_ok, Checked.map_eq_ok] at h
  obtain ⟨_, _, ⟨_, -, rfl⟩, -, rfl⟩ := h
  rfl

theorem vouches_test (flow node : String) : Vouches (Body.test flow node) := by
  intro es op h
  simp only [Body.test, Checked.seq_eq_ok, Checked.map_eq_ok] at h
  obtain ⟨_, _, ⟨_, -, rfl⟩, -, rfl⟩ := h
  rfl

theorem Vouches.isAccepted {fields : Entries Json → Checked Operation} {body : String}
    {op : Operation} (h : Vouches fields)
    (hop : op ∈ (Action.carryOut (Body.read body fields)).operation?) : op.isAccepted = true := by
  unfold Action.operation? at hop
  split at hop
  · next op' hread =>
    cases hop
    obtain ⟨es, hes⟩ := exists_of_read (Action.carryOut.inj hread)
    exact h es op hes
  · next hread => cases hread
  · cases hop

/-- **What a request leads to can be asked for.** -/
theorem isAccepted_of_action? {r : Registry} {call : Call} {route : Route} {action : Action}
    {op : Operation} (h : action? r call route = some action) (hop : op ∈ action.operation?) :
    op.isAccepted = true := by
  -- A method that is not allowed leads to nothing, and one without a body to a fixed operation.
  have hfixed {a : Action} (ha : ∀ op ∈ a.operation?, op.isAccepted = true)
      (h : some a = some action) : op.isAccepted = true := by
    cases h
    exact ha op hop
  have hread {body : String} {fields : Entries Json → Checked Operation} (hfields : Vouches fields)
      (h : some (Action.carryOut (Body.read body fields)) = some action) :
      op.isAccepted = true := by
    cases h
    exact hfields.isAccepted hop
  cases route with
  | root | nodeTypes | nodeSchema | schemas | validation | typeSchema | page =>
    simp only [action?] at h
    split at h
    · exact hfixed (by rintro _ ⟨⟩; try rfl) h
    · cases h
  | flows =>
    simp only [action?] at h
    split at h
    · exact hfixed (by rintro _ ⟨⟩; rfl) h
    · exact hread vouches_newFlow h
    · cases h
  | flow flow =>
    simp only [action?] at h
    split at h
    · exact hfixed (by rintro _ ⟨⟩; rfl) h
    · exact hfixed (by rintro _ ⟨⟩; rfl) h
    · cases h
  | nodes flow =>
    simp only [action?] at h
    split at h
    · exact hfixed (by rintro _ ⟨⟩; rfl) h
    · exact hread (vouches_newNode flow) h
    · cases h
  | node flow node =>
    simp only [action?] at h
    split at h
    · exact hread (vouches_nodeUpdate flow node) h
    · exact hfixed (by rintro _ ⟨⟩; rfl) h
    · cases h
  | position flow node =>
    simp only [action?] at h
    split at h
    · exact hread (vouches_newPosition flow node) h
    · cases h
  | resolution flow node =>
    simp only [action?] at h
    split at h
    · exact hread (vouches_sample flow node) h
    · cases h
  | test flow node =>
    simp only [action?] at h
    split at h
    · exact hread (vouches_test flow node) h
    · cases h
  | connections flow =>
    simp only [action?] at h
    split at h
    · exact hfixed (by rintro _ ⟨⟩; rfl) h
    · exact hread (vouches_newConnection flow) h
    · cases h
  | connection flow connection =>
    simp only [action?] at h
    split at h
    · exact hfixed (by rintro _ ⟨⟩; rfl) h
    · split at h
      · exact hread (vouches_pair flow) h
      · cases h
  | transformers flow =>
    simp only [action?] at h
    split at h
    · exact hread (vouches_newTransformer flow) h
    · cases h

end Http

end Workflow
