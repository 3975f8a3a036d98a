import Workflow.Proofs.Recorded
import Workflow.Proofs.Schema.Depth

/-!
# Saved flows stay readable

A table writes documents down, and what was written can be read back as it was when all numbers
are finite, no integer is too long and nothing is nested too deeply (`Flow.Keepable`). Nothing in a
save checks that. So it is a matter of what edits bring into a flow: a position with a coordinate
that is not finite, or a parameter with such a number, with an integer of thousands of digits or
with too many lists inside one another, makes a document that is saved and can never be loaded
again, or is loaded with null in the place of the number.

As long as edits bring nothing of the sort (`Edit.BringsKeepable`), all that edits put into a flow
themselves can be kept: the defaults of node types, tool names, redirected references, the place
half way between two nodes, and the schemas that are learned from samples and responses.
-/

namespace Workflow

open Outcome

/-! ## Flows that can be kept -/

/-- How many lists and objects may stand inside one another in a parameter of a node. The
parameters, the node, the list of nodes and the flow are four more. -/
def Node.parameterRoom : Nat := Json.nestingBound - 4

/-- Whether a node can be kept: it stands at a finite place, and its parameters can be kept. -/
def Node.Keepable (n : Node) : Prop :=
  n.position.isFinite = true ∧ Entries.All (Json.Keepable Node.parameterRoom) n.parameters

/-- **A flow that can be kept.** -/
def Flow.Keepable (f : Flow) : Prop :=
  ∀ n ∈ f.nodes, n.Keepable

theorem Position.keepable_toJson {p : Position} (h : p.isFinite = true) {room : Nat} :
    p.toJson.Keepable (room + 1) := by
  obtain ⟨hx, hy⟩ := Bool.and_eq_true_iff.1 h
  refine Json.keepable_obj.2 ?_
  simp only [Entries.all_cons]
  exact ⟨Json.keepable_float hx, Json.keepable_float hy, Entries.all_nil⟩

theorem Node.Keepable.toJson {n : Node} (h : n.Keepable) :
    n.toJson.Keepable (Node.parameterRoom + 2) := by
  refine Json.keepable_obj.2 ?_
  simp only [Entries.all_cons]
  exact ⟨Json.keepable_str _, Json.keepable_str _, Json.keepable_str _, Json.keepable_ofText? _,
    Position.keepable_toJson h.1, Json.keepable_obj.2 h.2, Entries.all_nil⟩

theorem Connection.keepable_toJson (c : Connection) {room : Nat} :
    c.toJson.Keepable (room + 1) := by
  refine Json.keepable_obj.2 ?_
  simp only [Entries.all_cons]
  exact ⟨Json.keepable_str _, Json.keepable_str _, Json.keepable_ofText? _, Json.keepable_str _,
    Json.keepable_ofText? _, Entries.all_nil⟩

namespace Flow

variable {f g : Flow} {s : Setting}

theorem Keepable.toJson (h : f.Keepable) (hversion : Checked.fitsWord f.version = true) :
    f.toJson.Keepable Json.nestingBound := by
  have hnodes : (Json.arr (f.nodes.map Node.toJson)).Keepable (Node.parameterRoom + 3) := by
    refine Json.keepable_arr.2 fun v hv => ?_
    obtain ⟨n, hn, rfl⟩ := List.mem_map.1 hv
    exact (h n hn).toJson
  have hconnections :
      (Json.arr (f.connections.map Connection.toJson)).Keepable (Node.parameterRoom + 3) := by
    refine Json.keepable_arr.2 fun v hv => ?_
    obtain ⟨c, -, rfl⟩ := List.mem_map.1 hv
    exact c.keepable_toJson
  refine Json.keepable_obj.2 ?_
  simp only [Entries.all_cons]
  exact ⟨Json.keepable_str _, Json.keepable_ofText? _, Json.keepable_str _,
    Json.keepable_ofText? _, hnodes, hconnections,
    ⟨rfl, Json.isLegible_int hversion, Nat.zero_le _⟩, Json.keepable_str _, Json.keepable_str _,
    Entries.all_nil⟩

/-- The integers of a parameter stand in the document. -/
theorem isLegible_parameter {n : Node} (hn : n ∈ f.nodes) (h : f.toJson.isLegible = true) :
    Entries.All (fun v => v.isLegible = true) n.parameters := by
  have hmembers := Json.membersLegible_iff.1 h
  have hnodes : (Json.arr (f.nodes.map Node.toJson)).isLegible = true :=
    hmembers ("nodes", _) (by simp)
  have hnode := Json.membersLegible_iff.1
    (Json.itemsLegible_iff.1 hnodes _ (List.mem_map_of_mem hn))
  exact Json.membersLegible_iff.1 (hnode ("parameters", .obj n.parameters) (by simp))

theorem Keepable.isFinite (h : f.Keepable) : f.isFinite = true := by
  refine List.all_eq_true.2 fun n hn => Bool.and_eq_true_iff.2 ⟨(h n hn).1, ?_⟩
  exact Json.membersFinite_iff.2 fun e he => ((h n hn).2 e he).finite

/-- A flow that can be kept can be written. -/
theorem Keepable.isWritable (h : f.Keepable) : f.isWritable = true := by
  refine List.all_eq_true.2 fun n hn => List.all_eq_true.2 fun entry hentry => decide_eq_true ?_
  have hshallow : entry.2.nesting ≤ 196 := ((h n hn).2 entry hentry).shallow
  have hheight := entry.2.height_le_nesting
  show entry.2.height < 256
  omega

/-- **A flow that can be kept** is read from its row as it was. -/
theorem Keepable.flow_ofFlow (h : f.Keepable) (hversion : Checked.fitsWord f.version = true) :
    (Row.ofFlow f).flow = .ok f := by
  have hwritten := h.toJson hversion
  exact Row.flow_ofFlow.2 ⟨Json.isReadable_iff.2 ⟨hwritten.shallow, hwritten.legible⟩,
    isPlaced_of_isFinite h.isFinite, (written_of_isFinite h.isFinite).symm⟩

end Flow

/-- **A flow that was read from a row can be kept**: what cannot be was lost when it was written, or
would have kept it from being read. -/
theorem Row.keepable_of_flow {f g : Flow} (h : (Row.ofFlow f).flow = .ok g) : g.Keepable := by
  obtain ⟨hreadable, hplaced, rfl⟩ := Row.flow_ofFlow.1 h
  obtain ⟨hnesting, hlegible⟩ := Json.isReadable_iff.1 hreadable
  intro n hn
  obtain ⟨m, hm, rfl⟩ := List.mem_map.1 hn
  rw [Node.Keepable, Node.written, Json.writtenMembers_eq_mapValues, Entries.all_mapValues]
  refine ⟨List.all_eq_true.1 hplaced m hm, fun entry hentry => ⟨entry.2.isFinite_written, ?_, ?_⟩⟩
  · rw [Json.isLegible_written]
    exact Flow.isLegible_parameter hm hlegible entry hentry
  · have hparameter := Flow.nesting_parameter_le hm hentry
    have hbound : f.toJson.nesting ≤ 200 := hnesting
    rw [Json.nesting_written]
    show entry.2.nesting ≤ 196
    omega

/-! ## What edits put into a flow themselves -/

namespace Node

open Entries

variable {P : Json → Prop} {room : Nat} {old new : String}

theorem all_adjust {es : Entries Json} {key : String} {g : Json → Json} (h : All P es)
    (hg : ∀ v, P v → P (g v)) : All P (adjust g key es) := by
  unfold adjust
  split
  · next v hv => exact h.put (hg v (h.get? hv))
  · exact h

theorem keepable_redirectText {v : Json} (h : v.Keepable room) :
    (redirectText old new v).Keepable room := by
  unfold redirectText
  split
  · exact Json.keepable_str _
  · exact h

theorem keepable_redirectHeader {v : Json} (h : v.Keepable room) :
    (redirectHeader old new v).Keepable room := by
  unfold redirectHeader
  split
  · cases room with
    | zero => exact absurd h Json.not_keepable_zero_obj
    | succ room =>
      exact Json.keepable_obj.2
        (all_adjust (Json.keepable_obj.1 h) fun _ => keepable_redirectText)
  · exact h

theorem keepable_redirectHeaders {v : Json} (h : v.Keepable room) :
    (redirectHeaders old new v).Keepable room := by
  unfold redirectHeaders
  split
  · cases room with
    | zero => exact absurd h Json.not_keepable_zero_arr
    | succ room =>
      refine Json.keepable_arr.2 fun v hv => ?_
      obtain ⟨header, hheader, rfl⟩ := List.mem_map.1 hv
      exact keepable_redirectHeader (Json.keepable_arr.1 h header hheader)
  · exact h

theorem Keepable.redirected {n : Node} (h : n.Keepable) : (n.redirected old new).Keepable := by
  unfold Node.redirected
  split
  · refine ⟨h.1, all_adjust (all_adjust h.2 ?_) ?_⟩
    · exact fun _ => keepable_redirectText
    · exact fun _ => keepable_redirectHeaders
  · exact h

theorem Keepable.configured {n : Node} {updates : Entries Json} (h : n.Keepable)
    (hupdates : All (Json.Keepable parameterRoom) updates) : (n.configured updates).Keepable := by
  refine ⟨h.1, All.merge ?_ hupdates⟩
  split
  · exact h.2.put Json.keepable_null
  · exact h.2

/-- A schema that was learned can be kept. -/
theorem Keepable.keeping {n : Node} (h : n.Keepable) (v : Json) :
    (n.keeping (Schema.infer v Schema.defaultDepth)).Keepable :=
  ⟨h.1, h.2.put ((Schema.keepable_infer v).mono (by decide))⟩

end Node

namespace Flow

open Entries

variable {f g : Flow} {s : Setting}

theorem Keepable.replaceNode (h : f.Keepable) {n : Node} (hn : n.Keepable) :
    (f.replaceNode n).Keepable := by
  intro m hm
  obtain rfl | hm := mem_of_mem_replaceIn hm
  · exact hn
  · exact h m hm

theorem Keepable.append (h : f.Keepable) {n : Node} (hn : n.Keepable)
    (connections : List Connection) :
    { f with nodes := f.nodes ++ [n], connections }.Keepable := by
  intro m hm
  obtain hm | hm := List.mem_append.1 hm
  · exact h m hm
  · obtain rfl := List.mem_singleton.1 hm
    exact hn

theorem Keepable.redirectedTo (h : f.Keepable) {id : String} (hg : f.RedirectedTo id g) :
    g.Keepable := by
  obtain rfl | ⟨old, new, rfl⟩ := hg
  · exact h
  · intro m hm
    obtain ⟨n, hn, rfl⟩ := List.mem_map.1 hm
    split
    · exact h n hn
    · exact (h n hn).redirected

end Flow

/-! ## What edits bring into a flow -/

/-- **Where an edit puts a node**: at a place that is given, or half way between two nodes. -/
def Edit.place? (f : Flow) : Edit → Option Position
  | .addNode _ _ position _ => position.bind Checked.toOption
  | .updateNode _ update => update.position.bind Checked.toOption
  | .moveNode _ position => position.toOption
  | .splice _ _ _ (some position) => position.toOption
  | .splice source target _ none => do
    let m ← f.findNode? source
    let n ← f.findNode? target
    return Flow.halfway m.position n.position
  | _ => none

/-- The parameters that an edit gives to a node. -/
def Edit.parameters : Edit → Entries Json
  | .addNode _ _ _ parameters => parameters
  | .updateNode _ update => update.parameters.getD []
  | _ => []

/-- **Whether an edit brings nothing into a flow that cannot be kept.** -/
def Edit.BringsKeepable (f : Flow) (e : Edit) : Prop :=
  (∀ p ∈ e.place? f, p.isFinite = true) ∧
    Entries.All (Json.Keepable Node.parameterRoom) e.parameters

instance (f : Flow) (e : Edit) : Decidable (e.BringsKeepable f) :=
  inferInstanceAs (Decidable ((∀ p ∈ e.place? f, p.isFinite = true) ∧ Entries.All _ e.parameters))

/-- Whether the defaults of all node types can be kept. -/
def Registry.Keepable (r : Registry) : Prop :=
  ∀ t ∈ r.types, t.defaults.Keepable (Node.parameterRoom + 1)

instance (r : Registry) : Decidable r.Keepable :=
  inferInstanceAs (Decidable (∀ t ∈ r.types, t.defaults.Keepable _))

section Brought

open Outcome Entries

variable {f g : Flow} {s : Setting}

theorem Position.isFinite_of_orElse {p q : Position} {position : Option (Checked Position)}
    (h : Position.orElse p position = .ok q) (hp : position = none → p.isFinite = true)
    (hposition : ∀ p ∈ position.bind Checked.toOption, p.isFinite = true) : q.isFinite = true := by
  cases position with
  | none =>
    cases h
    exact hp rfl
  | some position =>
    obtain rfl := Checked.orFail_eq_ok.1 h
    exact hposition q rfl

theorem Registry.Keepable.defaults {r : Registry} (h : r.Keepable) (type : String) :
    (((r.get? type).map NodeType.defaults).getD (.obj [])).Keepable (Node.parameterRoom + 1) := by
  cases ht : r.get? type with
  | none => exact Json.keepable_obj.2 all_nil
  | some t => exact h t (List.mem_of_find?_eq_some ht)

theorem Flow.all_of_ownParameters {m : KeyedValues Json} {es : Entries Json}
    (h : All (Json.Keepable Node.parameterRoom) m) (hes : ownParameters m = .ok es) :
    All (Json.Keepable Node.parameterRoom) es :=
  KeyedValues.all_of_checked h (Checked.under_eq_ok.1 (Checked.orFail_eq_ok.1 hes))

/-- The parameters of a new node can be kept. -/
theorem Flow.AddedParameters.keepable {type name : String} {parameters es : Entries Json}
    (h : f.AddedParameters s type name parameters es) (hregistry : s.registry.Keepable)
    (hparameters : All (Json.Keepable Node.parameterRoom) parameters) :
    All (Json.Keepable Node.parameterRoom) es := by
  obtain ⟨defaults, own, hdefaults, hown, hes⟩ := h
  have hown : All (Json.Keepable Node.parameterRoom) own :=
    all_of_ownParameters (KeyedValues.all_merge ((hregistry.defaults type).toMap hdefaults)
      (KeyedValues.all_ofEntries hparameters)) hown
  split at hes
  · obtain ⟨tool, -, rfl⟩ := hes
    exact (hown.put (Json.keepable_str tool)).foldl_putNew (by decide)
  · subst hes
    exact hown

/-- The parameters of an updated node can be kept. -/
theorem Flow.UpdatedParameters.keepable {n : Node} {update : NodeUpdate} {es : Entries Json}
    (h : f.UpdatedParameters s n update es) (hn : n.Keepable)
    (hparameters : All (Json.Keepable Node.parameterRoom) (update.parameters.getD [])) :
    All (Json.Keepable Node.parameterRoom) es := by
  have hoverlaid : (update.overlaid n).Keepable := by
    unfold NodeUpdate.overlaid
    split
    · next parameters hgiven =>
      rw [hgiven] at hparameters
      exact hn.configured hparameters
    · exact hn
  unfold UpdatedParameters at h
  split at h
  · unfold RenamedParameters at h
    split at h
    · obtain ⟨tool, -, rfl⟩ := h
      exact hoverlaid.2.put (Json.keepable_str tool)
    · subst h
      exact hoverlaid.2
  · subst h
    exact hoverlaid.2

/-- **An edit that brings nothing that cannot be kept** leaves a flow that can be kept. -/
theorem Flow.Keepable.of_makes (h : f.Keepable) {e : Edit} (he : e.Makes f s g)
    (hregistry : s.registry.Keepable) (hbrings : e.BringsKeepable f) : g.Keepable := by
  obtain ⟨hplace, hparameters⟩ := hbrings
  cases he with
  | addNode he =>
    obtain ⟨rfl, -, -, -, -, -, hposition, hadded⟩ := Flow.addNode_ok he
    exact h.append ⟨Position.isFinite_of_orElse hposition (fun _ => rfl) hplace,
      hadded.keepable hregistry hparameters⟩ _
  | updateNode he =>
    obtain ⟨n, k, hn, hk, rfl, -, -, hposition, hupdated⟩ := Flow.updateNode_inv he
    have hn : n.Keepable := h n (mem_of_findNode? hn)
    refine (h.redirectedTo hk).replaceNode ⟨?_, hupdated.keepable hn hparameters⟩
    exact Position.isFinite_of_orElse hposition (fun _ => hn.1) hplace
  | moveNode he =>
    obtain ⟨n, place, hn, hposition, rfl, rfl⟩ := Flow.moveNode_inv he
    obtain rfl := Checked.orFail_eq_ok.1 hposition
    exact h.replaceNode ⟨hplace place rfl, (h n (mem_of_findNode? hn)).2⟩
  | deleteNode he =>
    obtain ⟨-, rfl⟩ := Flow.deleteNode_ok he
    exact fun m hm => h m (List.eraseP_sublist.subset hm)
  | connect he =>
    obtain ⟨-, -, -, -, -, -, -, -, -, rfl⟩ := Flow.connect_ok he
    exact h
  | disconnect he =>
    obtain ⟨-, rfl⟩ := Flow.disconnect_ok he
    exact h
  | @splice source target type position x before after he =>
    obtain ⟨m, n, t, hm, hn, ht, -, -, -, -, -, -, hposition, ⟨defaults, hdefaults, hown⟩, -, -,
      rfl⟩ := Flow.splice_ok he
    have ht : t.defaults.Keepable (Node.parameterRoom + 1) :=
      hregistry t (List.mem_of_find?_eq_some (require_eq_ok.1 ht))
    refine h.append ⟨Position.isFinite_of_orElse hposition ?_ ?_,
      all_of_ownParameters (ht.toMap hdefaults) hown⟩ _
    -- half way between two finite places need not be finite, so this is asked of the edit as well
    · rintro rfl
      refine hplace (halfway m.position n.position) ?_
      rw [Edit.place?, hm, hn]
      rfl
    · cases position with
      | none =>
        intro p hp
        cases hp
      | some position => exact hplace

end Brought

/-! ## Runs -/

variable {σ : Type} [FlowStore σ]

/-- **A command that brings nothing that cannot be kept**: neither the edit that it asks for does,
nor the node types that it draws on. -/
def Command.BringsKeepable (w : Surroundings) (s : σ) (c : Command) : Prop :=
  w.registry.Keepable ∧ ∀ p ∈ c.edit? w s, p.2.BringsKeepable p.1

instance (w : Surroundings) (s : σ) (c : Command) : Decidable (c.BringsKeepable w s) :=
  inferInstanceAs (Decidable (w.registry.Keepable ∧ ∀ p ∈ c.edit? w s, p.2.BringsKeepable p.1))

/-- **What a task saves can be kept** when its command brings nothing else. -/
theorem Command.BringsKeepable.changed {w : Surroundings} {s : σ} {c : Command} {f g : Flow}
    {task : FlowTask} {siblings : Outcome (List Flow)} {effect : Effect}
    (h : c.BringsKeepable w s) (hf : FlowStore.needBy s (c.argument "flow_id") = .ok f)
    (htask : c.task w f = .ok task) (hrun : task.run w siblings f = .ok effect)
    (hg : effect.changed = some g) (hkeepable : f.Keepable) : g.Keepable := by
  obtain ⟨hregistry, hbrings⟩ := h
  -- a schema that is kept was inferred, whatever the sample was, so nothing is asked of it
  obtain ⟨e, result, rfl, he⟩ | ⟨node, v, m, hm⟩ := FlowTask.run_changed hrun hg
  · exact hkeepable.of_makes (Edit.makes_of_apply he) hregistry
      (hbrings (f, e) (Command.edit?_eq_some hf htask))
  · obtain ⟨n, hn, rfl, rfl⟩ := Flow.keepSchema_inv hm
    exact hkeepable.replaceNode ((hkeepable n (Flow.mem_of_findNode? hn)).keeping v)

/-- **Flows that can be kept** are all that a run leaves whose commands bring nothing else. -/
theorem keepable_of_reaches [LawfulStore σ] {s : σ}
    (h : Reaches Command.BringsKeepable FlowStore.empty s) : FlowStore.All Flow.Keepable s := by
  refine h.all ?_ (fun _ _ hf => hf) (fun _ _ _ _ => List.forall_mem_nil _)
    Command.BringsKeepable.changed FlowStore.all_empty
  intro f hf
  rwa [Flow.written_of_isFinite hf.isFinite]

/-- A table is in line with its record when all its flows can be kept. -/
theorem Recorded.load_eq_last {r : Recorded Table} (h : FlowStore.All Flow.Keepable r)
    (id : String) : FlowStore.load r.store id = .ok (r.last id) := by
  obtain ⟨docs, ⟨rfl, hkeeps⟩, hall⟩ := h
  exact FlowStore.load_eq_docs hkeeps fun f hf => (hall id f hf).flow_ofFlow (hkeeps.fits hf)

/-- **Saved flows stay readable.** Whatever commands are given to a table without rows, as long as
they bring nothing into a flow that cannot be kept: each flow is loaded as it was last created or
saved, and none is found where there is none. What was last created or saved is what the recorded
table tells in a run of it that leads to the table, and there is such a run. -/
theorem load_eq_last_of_reaches {t : Table}
    (h : Reaches Command.BringsKeepable FlowStore.empty t) :
    (∃ last, Reaches Command.BringsKeepable FlowStore.empty (⟨t, last⟩ : Recorded Table)) ∧
    ∀ last, Reaches Command.BringsKeepable FlowStore.empty (⟨t, last⟩ : Recorded Table) →
      ∀ id, FlowStore.load t id = .ok (last id) := by
  refine ⟨Recorded.exists_last (fun _ _ _ hc => hc) h, fun last hlast id => ?_⟩
  exact Recorded.load_eq_last (keepable_of_reaches hlast) id

/-! ### A run -/

/-- A run that places two nodes, one of them by numbers that are written as texts, puts a
transform half way between them, and renames the first. -/
def samplePlaces : List (Surroundings × Command) := [
  (numberedSurroundings "flow", ⟨"create_flow", [("name", .str "Pair")]⟩),
  (numberedSurroundings "api", ⟨"add_node", [("flow_id", .str "flow1"),
    ("node_type", .str Builtin.apiCallName), ("name", .str "Request"),
    ("position", .obj [("x", .str "-2"), ("y", .str "1")])]⟩),
  (numberedSurroundings "view", ⟨"add_node", [("flow_id", .str "flow1"),
    ("node_type", .str Builtin.componentName), ("name", .str "View"),
    ("position", .obj [("x", .int 4), ("y", .int 1)])]⟩),
  (numberedSurroundings "code", ⟨"insert_transformer", [("flow_id", .str "flow1"),
    ("source_node_id", .str "api1"), ("target_node_id", .str "view1")]⟩),
  (numberedSurroundings "", ⟨"update_node", [("flow_id", .str "flow1"),
    ("node_id", .str "api1"), ("name", .str "Search")]⟩)]

/-- The run of five commands: the flow was saved four times, and is loaded as it was saved. -/
theorem load_eq_last_of_reaches_samplePlaces :
    (((Command.stepAll FlowStore.empty samplePlaces : Recorded Table).last "flow1").map
        fun f => (f.version, f.nodes.map fun n => (n.name, n.position)))
      = some (4, [("Search", ⟨Double.ofInt (-2), Double.ofInt 1⟩),
          ("View", ⟨Double.ofInt 4, Double.ofInt 1⟩),
          ("Code Transform 1", ⟨Double.ofInt 1, Double.ofInt 1⟩)]) ∧
      ∀ id, FlowStore.load (Command.stepAll FlowStore.empty samplePlaces : Table) id
        = .ok ((Command.stepAll FlowStore.empty samplePlaces : Recorded Table).last id) := by
  have hregistry : Builtin.registry.Keepable := by decide +kernel
  have hrecorded : Reaches Command.BringsKeepable FlowStore.empty
      (Command.stepAll FlowStore.empty samplePlaces : Recorded Table) := by
    refine .step (.step (.step (.step (.step .start _ _ ?_) _ _ ?_) _ _ ?_) _ _ ?_) _ _ ?_
    all_goals exact ⟨hregistry, by decide +kernel⟩
  have hstore : (Command.stepAll FlowStore.empty samplePlaces : Recorded Table).store
      = (Command.stepAll FlowStore.empty samplePlaces : Table) := Command.stepAll_store
  refine ⟨by decide +kernel, ?_⟩
  rw [← hstore]
  -- from here on it does not matter which store this is
  generalize (Command.stepAll FlowStore.empty samplePlaces : Recorded Table) = r
    at hrecorded ⊢
  exact (load_eq_last_of_reaches (Recorded.reaches_store (fun _ _ _ hc => hc) hrecorded)).2 r.last
    hrecorded

end Workflow
