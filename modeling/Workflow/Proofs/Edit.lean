import Workflow.Flow.Edit
import Workflow.Proofs.Outcome

/-!
# What edits do to a flow

One lemma for each edit says what the flow is when the edit has been made: which nodes and
connections are new, which are gone, and under which conditions the edit was made at all.
Whoever wants to know what an edit keeps cites these and does not open the edit.

No edit touches anything but the nodes and the connections of a flow, and an update of a node
leaves the ids and the types of all nodes in their places (`updateNode_ok`).
-/

namespace Workflow

namespace Flow

open Outcome

variable {f g : Flow} {s : Setting}

/-- **The ids that a flow mentions**: those of its nodes, and those at either end of its
connections. -/
def Mentions (f : Flow) (id : String) : Prop :=
  (∃ n ∈ f.nodes, n.id = id) ∨ ∃ c ∈ f.connections, c.source = id ∨ c.target = id

/-! ## Looking nodes up -/

theorem needNode_eq_ok {id : String} {n : Node} :
    f.needNode id = .ok n ↔ f.findNode? id = some n := by
  unfold needNode
  cases f.findNode? id with
  | some m => simp
  | none => simp

theorem endNode_eq_ok {role : End} {id : String} {n : Node} :
    f.endNode role id = .ok n ↔ f.findNode? id = some n := by
  unfold endNode
  cases f.findNode? id with
  | some m => simp
  | none => simp

theorem mem_of_findNode? {id : String} {n : Node} (h : f.findNode? id = some n) :
    n ∈ f.nodes :=
  List.mem_of_find?_eq_some h

theorem id_of_findNode? {id : String} {n : Node} (h : f.findNode? id = some n) : n.id = id := by
  simpa using List.find?_some h

/-- An id that the flow does not mention is not that of a node that is found. -/
theorem ne_of_findNode? {id x : String} {n : Node} (h : f.findNode? id = some n)
    (hx : ¬ f.Mentions x) : x ≠ id := by
  rintro rfl
  exact hx (.inl ⟨n, mem_of_findNode? h, id_of_findNode? h⟩)

/-! ## The same graph -/

/-- **The same graph**: the flows differ in nothing but how their nodes are named, placed and
configured. -/
def SameGraph (f g : Flow) : Prop :=
  g = { f with nodes := g.nodes } ∧
    g.nodes.map (fun n => (n.id, n.type)) = f.nodes.map fun n => (n.id, n.type)

theorem SameGraph.refl (f : Flow) : f.SameGraph f :=
  ⟨rfl, rfl⟩

theorem SameGraph.trans {h : Flow} (hfg : f.SameGraph g) (hgh : g.SameGraph h) :
    f.SameGraph h := by
  obtain ⟨hg, hgn⟩ := hfg
  obtain ⟨hh, hhn⟩ := hgh
  refine ⟨?_, hhn.trans hgn⟩
  rw [hh, hg]

theorem SameGraph.connections_eq (h : f.SameGraph g) : g.connections = f.connections := by
  rw [h.1]

theorem SameGraph.nodeIds_eq (h : f.SameGraph g) :
    g.nodes.map Node.id = f.nodes.map Node.id := by
  simpa [Function.comp_def] using congrArg (List.map Prod.fst) h.2

theorem SameGraph.id_eq (h : f.SameGraph g) : g.id = f.id := by
  rw [h.1]

/-- What a node put in the place of another has in common with it, the list of nodes has. -/
theorem map_replaceIn {α : Type} (p : Node → α) {n : Node} :
    ∀ {ns : List Node}, (∀ m, ns.find? (·.id == n.id) = some m → p m = p n) →
      (replaceIn n ns).map p = ns.map p
  | [], _ => rfl
  | m :: rest, h => by
    by_cases hm : m.id = n.id
    · rw [replaceIn, if_pos hm, List.map_cons, List.map_cons, h m (by simp [hm])]
    · rw [replaceIn, if_neg hm, List.map_cons, List.map_cons,
        map_replaceIn p fun k hk => h k (by simpa [hm] using hk)]

theorem mem_of_mem_replaceIn {n m : Node} :
    ∀ {ns : List Node}, m ∈ replaceIn n ns → m = n ∨ m ∈ ns
  | k :: rest, h => by
    unfold replaceIn at h
    split at h
    · obtain rfl | h := List.mem_cons.1 h
      · exact .inl rfl
      · exact .inr (List.mem_cons_of_mem _ h)
    · obtain rfl | h := List.mem_cons.1 h
      · exact .inr List.mem_cons_self
      · exact (mem_of_mem_replaceIn h).imp_right (List.mem_cons_of_mem _)

theorem find?_replaceIn {n m : Node} :
    ∀ {ns : List Node}, ns.find? (·.id == m.id) = some n →
      (replaceIn m ns).find? (·.id == m.id) = some m
  | k :: ns, h => by
    unfold replaceIn
    split
    · simp
    · next hk =>
      have hk : (k.id == m.id) = false := by simpa using hk
      simp only [List.find?_cons, hk] at h ⊢
      exact find?_replaceIn h

/-- A node that is put in the place of another is found there. -/
theorem findNode?_replaceNode {id : String} {n m : Node} (h : f.findNode? id = some n)
    (hid : m.id = id) : (f.replaceNode m).findNode? id = some m := by
  subst hid
  exact find?_replaceIn h

/-- A node of the same id and type in the place of one that is found leaves the graph as it
is. -/
theorem sameGraph_replaceNode {id : String} {n m : Node} (h : f.findNode? id = some n)
    (hid : m.id = n.id) (htype : m.type = n.type) : f.SameGraph (f.replaceNode m) := by
  refine ⟨rfl, map_replaceIn (fun k : Node => (k.id, k.type)) fun k hk => ?_⟩
  rw [hid, id_of_findNode? h] at hk
  obtain rfl : k = n := Option.some.inj (hk.symm.trans h)
  rw [hid, htype]

/-- In the same graph an id finds a node of the same type. -/
theorem SameGraph.exists_node {id : String} {n : Node} (h : f.SameGraph g)
    (hn : f.findNode? id = some n) :
    ∃ m, g.findNode? id = some m ∧ m.id = n.id ∧ m.type = n.type := by
  have key : ∀ k : Flow, (k.findNode? id).map (fun n => (n.id, n.type))
      = (k.nodes.map fun n => (n.id, n.type)).find? (·.1 == id) := fun k => by
    rw [findNode?, List.find?_map]
    rfl
  have hm := key g
  rw [h.2, ← key f, hn] at hm
  obtain ⟨m, hm, heq⟩ := Option.map_eq_some_iff.1 hm
  exact ⟨m, hm, (Prod.mk.inj heq).1, (Prod.mk.inj heq).2⟩

theorem redirected_id (n : Node) (old new : String) : (n.redirected old new).id = n.id := by
  unfold Node.redirected
  split <;> rfl

/-- Only API calls refer to slugs. -/
theorem redirected_of_ne {n : Node} (old new : String) (h : n.type ≠ Builtin.apiCallName) :
    n.redirected old new = n :=
  if_neg h

theorem redirected_type (n : Node) (old new : String) :
    (n.redirected old new).type = n.type := by
  unfold Node.redirected
  split <;> rfl

theorem sameGraph_redirect (f : Flow) (id old new : String) :
    f.SameGraph (f.redirect id old new) := by
  refine ⟨rfl, ?_⟩
  rw [redirect, List.map_map]
  refine List.map_congr_left fun n _ => ?_
  by_cases hn : n.id = id
  · simp [hn]
  · simp [hn, redirected_id, redirected_type]

/-! ## Edits of nodes -/

/-- The parameters that a new node has: the defaults of its type with the given ones laid over
them, and for a trigger a tool name and what every trigger has. -/
def AddedParameters (f : Flow) (s : Setting) (type name : String) (parameters es : Entries Json) :
    Prop :=
  ∃ defaults own,
    (((s.registry.get? type).map NodeType.defaults).getD (.obj [])).toMap = .ok defaults ∧
    ownParameters (defaults.merge (.ofEntries parameters)) = .ok own ∧
    if type = Builtin.triggerName then
      ∃ tool, f.toolNameFor s name none = .ok tool ∧
        es = Builtin.triggerDefaults.foldl (fun es d => Entries.putNew es d.1 d.2)
          (Entries.put own Node.toolNameKey (.str tool))
    else es = own

/-- **Adding a node** puts one at the end, under the fresh id and a name that was not in use. -/
theorem addNode_ok {type name : String} {position : Option (Checked Position)}
    {parameters : Entries Json} {n : Node}
    (h : f.addNode s type name position parameters = .ok (g, n)) :
    g = { f with nodes := f.nodes ++ [n] } ∧ n.id = s.freshId 1 ∧ n.type = type ∧ n.name = name ∧
      n.slug = some (Naming.slug name f.slugs) ∧ (∀ m ∈ f.nodes, m.name ≠ name) ∧
      Position.orElse {} position = .ok n.position ∧
      f.AddedParameters s type name parameters n.parameters := by
  unfold addNode at h
  simp only [refuse_eq_ok, bind_eq_ok] at h
  obtain ⟨hname, defaults, hdefaults, place, hplace, own, hown, h⟩ := h
  have hname : ∀ m ∈ f.nodes, m.name ≠ name := by simpa using hname
  split at h
  · next htrigger =>
    obtain ⟨tool, htool, h⟩ := bind_eq_ok.1 h
    obtain ⟨rfl, rfl⟩ := Prod.mk.inj (pure_eq_ok.1 h)
    refine ⟨rfl, rfl, rfl, rfl, rfl, hname, hplace, defaults, own, hdefaults, hown, ?_⟩
    rw [if_pos htrigger]
    exact ⟨tool, htool, rfl⟩
  · next htrigger =>
    obtain ⟨rfl, rfl⟩ := Prod.mk.inj (pure_eq_ok.1 h)
    refine ⟨rfl, rfl, rfl, rfl, rfl, hname, hplace, defaults, own, hdefaults, hown, ?_⟩
    rw [if_neg htrigger]

/-- Whether a flow is another one with the references to a slug redirected, in all nodes but those
with the given id. -/
def RedirectedTo (f : Flow) (id : String) (g : Flow) : Prop :=
  g = f ∨ ∃ old new, g = f.redirect id old new

theorem RedirectedTo.sameGraph {id : String} (h : f.RedirectedTo id g) : f.SameGraph g := by
  obtain rfl | ⟨old, new, rfl⟩ := h
  · exact .refl _
  · exact sameGraph_redirect f id old new

/-- Where references are redirected, all nodes but API calls stay as they are. -/
theorem RedirectedTo.mem {id : String} {m : Node} (h : f.RedirectedTo id g) (hm : m ∈ g.nodes)
    (htype : m.type ≠ Builtin.apiCallName) : m ∈ f.nodes := by
  obtain rfl | ⟨old, new, rfl⟩ := h
  · exact hm
  · obtain ⟨n, hn, rfl⟩ := List.mem_map.1 hm
    by_cases hid : n.id = id
    · rwa [if_pos hid]
    · rw [if_neg hid] at htype ⊢
      rw [redirected_type] at htype
      rwa [redirected_of_ne old new htype]

/-- The parameters that a node has after it was renamed: a trigger has another tool name. -/
def RenamedParameters (f : Flow) (s : Setting) (n : Node) (name : String) (es : Entries Json) :
    Prop :=
  if n.type = Builtin.triggerName then
    ∃ tool, f.toolNameFor s name (some n.id) = .ok tool ∧
      es = Entries.put n.parameters Node.toolNameKey (.str tool)
  else es = n.parameters

/-- **A renamed node** keeps its id and its type. -/
theorem rename_ok {n m : Node} {name : String} (h : f.rename s n name = .ok (g, m)) :
    f.RedirectedTo n.id g ∧ m.id = n.id ∧ m.type = n.type ∧ m.name = name ∧
      f.RenamedParameters s n name m.parameters := by
  unfold rename at h
  obtain ⟨-, h⟩ := refuse_eq_ok.1 h
  have hg : ∀ {old new : String},
      f.RedirectedTo n.id (if old ≠ "" ∧ old ≠ new then f.redirect n.id old new else f) := by
    intro old new
    split
    · exact .inr ⟨old, new, rfl⟩
    · exact .inl rfl
  unfold RenamedParameters
  split at h
  · next htrigger =>
    obtain ⟨tool, htool, h⟩ := bind_eq_ok.1 h
    obtain ⟨rfl, rfl⟩ := Prod.mk.inj (pure_eq_ok.1 h)
    rw [if_pos htrigger]
    exact ⟨hg, rfl, rfl, rfl, tool, htool, rfl⟩
  · next htrigger =>
    obtain ⟨rfl, rfl⟩ := Prod.mk.inj (pure_eq_ok.1 h)
    rw [if_neg htrigger]
    exact ⟨hg, rfl, rfl, rfl, rfl⟩

end Flow

namespace NodeUpdate

/-- The node with the parameters of an update laid over its own. -/
def overlaid (update : NodeUpdate) (n : Node) : Node :=
  match update.parameters with
  | some parameters => n.configured parameters
  | none => n

/-- The name that an update gives a node, if it is another one. -/
def newName? (update : NodeUpdate) (n : Node) : Option String :=
  update.name.filter fun name => name ≠ n.name

@[simp] theorem overlaid_id (update : NodeUpdate) (n : Node) : (update.overlaid n).id = n.id := by
  unfold overlaid
  split <;> rfl

@[simp] theorem overlaid_type (update : NodeUpdate) (n : Node) :
    (update.overlaid n).type = n.type := by
  unfold overlaid
  split <;> rfl

end NodeUpdate

namespace Flow

open Outcome

variable {f g : Flow} {s : Setting}

/-- The parameters that a node has after an update. -/
def UpdatedParameters (f : Flow) (s : Setting) (n : Node) (update : NodeUpdate)
    (es : Entries Json) : Prop :=
  match update.newName? n with
  | some name => f.RenamedParameters s (update.overlaid n) name es
  | none => es = (update.overlaid n).parameters

/-- What an update puts in the place of a node has the same id and type. The references of the
other nodes may be redirected. -/
theorem updateNode_inv {id : String} {update : NodeUpdate} {m : Node}
    (h : f.updateNode s id update = .ok (g, m)) :
    ∃ n k, f.findNode? id = some n ∧ f.RedirectedTo n.id k ∧ g = k.replaceNode m ∧
      m.id = n.id ∧ m.type = n.type ∧
      Position.orElse n.position update.position = .ok m.position ∧
      f.UpdatedParameters s n update m.parameters := by
  unfold updateNode at h
  obtain ⟨n, hn, h⟩ := bind_eq_ok.1 h
  rw [needNode_eq_ok] at hn
  extract_lets configured place at h
  -- with a new name, with the old one again, or with none at all, the last step is the same
  have hplaced : ∀ {k : Flow} {r : Node}, place (k, r) = .ok (g, m) → f.RedirectedTo n.id k →
      r.id = n.id → r.type = n.type → f.UpdatedParameters s n update r.parameters →
      ∃ n k, f.findNode? id = some n ∧ f.RedirectedTo n.id k ∧ g = k.replaceNode m ∧
        m.id = n.id ∧ m.type = n.type ∧
        Position.orElse n.position update.position = .ok m.position ∧
        f.UpdatedParameters s n update m.parameters := by
    intro k r hr hk hid htype hparameters
    obtain ⟨p, hp, hr⟩ := bind_eq_ok.1 hr
    cases pure_eq_ok.1 hr
    exact ⟨n, k, hn, hk, rfl, hid, htype, hp, hparameters⟩
  have hsame : update.newName? n = none → place (f, configured) = .ok (g, m) → _ :=
    fun hname h => hplaced h (.inl rfl) (update.overlaid_id n) (update.overlaid_type n)
      (by rw [UpdatedParameters, hname]; rfl)
  split at h
  · next name hname =>
    split at h
    · next hold => exact hsame (by simp [NodeUpdate.newName?, hname, hold]) h
    · next hnew =>
      obtain ⟨⟨k, r⟩, hr, h⟩ := bind_eq_ok.1 h
      obtain ⟨hk, hid, htype, -, hparameters⟩ := rename_ok hr
      rw [show configured.id = n.id from update.overlaid_id n] at hk hid
      refine hplaced h hk hid (htype.trans (update.overlaid_type n)) ?_
      rw [UpdatedParameters, NodeUpdate.newName?, hname, Option.filter_some,
        if_pos (by simpa using hnew)]
      exact hparameters
  · next hname => exact hsame (by simp [NodeUpdate.newName?, hname]) h

/-- **Updating a node** leaves the graph as it is. -/
theorem updateNode_ok {id : String} {update : NodeUpdate} {m : Node}
    (h : f.updateNode s id update = .ok (g, m)) : f.SameGraph g := by
  obtain ⟨n, k, hn, hk, rfl, hid, htype, -⟩ := updateNode_inv h
  obtain ⟨n', hn', hid', htype'⟩ := hk.sameGraph.exists_node hn
  exact hk.sameGraph.trans (sameGraph_replaceNode hn' (hid.trans hid'.symm)
    (htype.trans htype'.symm))

/-- The updated node is the one that is found under its id. -/
theorem findNode?_of_updateNode {id : String} {update : NodeUpdate} {m : Node}
    (h : f.updateNode s id update = .ok (g, m)) : g.findNode? m.id = some m := by
  obtain ⟨n, k, hn, hk, rfl, hid, -⟩ := updateNode_inv h
  rw [id_of_findNode? hn] at hid
  obtain ⟨n', hn', -⟩ := hk.sameGraph.exists_node hn
  exact findNode?_replaceNode (hid ▸ hn') rfl

theorem moveNode_inv {id : String} {position : Checked Position} {m : Node}
    (h : f.moveNode id position = .ok (g, m)) :
    ∃ n place, f.findNode? id = some n ∧ position.orFail = .ok place ∧
      m = { n with position := place } ∧ g = f.replaceNode m := by
  unfold moveNode at h
  obtain ⟨n, hn, h⟩ := bind_eq_ok.1 h
  obtain ⟨place, hplace, h⟩ := bind_eq_ok.1 h
  obtain ⟨rfl, rfl⟩ := Prod.mk.inj (pure_eq_ok.1 h)
  exact ⟨n, place, needNode_eq_ok.1 hn, hplace, rfl, rfl⟩

/-- **Moving a node** leaves the graph as it is. -/
theorem moveNode_ok {id : String} {position : Checked Position} {m : Node}
    (h : f.moveNode id position = .ok (g, m)) : f.SameGraph g := by
  obtain ⟨n, place, hn, -, rfl, rfl⟩ := moveNode_inv h
  exact sameGraph_replaceNode hn rfl rfl

theorem keepSchema_inv {id : String} {schema : Schema} {m : Node}
    (h : f.keepSchema id schema = .ok (g, m)) :
    ∃ n, f.findNode? id = some n ∧ m = n.keeping schema ∧ g = f.replaceNode m := by
  unfold keepSchema at h
  obtain ⟨n, hn, h⟩ := bind_eq_ok.1 h
  obtain ⟨rfl, rfl⟩ := Prod.mk.inj (pure_eq_ok.1 h)
  exact ⟨n, needNode_eq_ok.1 hn, rfl, rfl⟩

/-- **Keeping a schema** leaves the graph as it is. -/
theorem keepSchema_ok {id : String} {schema : Schema} {m : Node}
    (h : f.keepSchema id schema = .ok (g, m)) : f.SameGraph g := by
  obtain ⟨n, hn, rfl, rfl⟩ := keepSchema_inv h
  exact sameGraph_replaceNode hn rfl rfl

/-- **Deleting a node** takes the first node with the id and all connections at it away. -/
theorem deleteNode_ok {id : String} (h : f.deleteNode id = .ok g) :
    (∃ n, f.findNode? id = some n) ∧
      g = { f with
        nodes := f.nodes.eraseP fun n => n.id == id
        connections := f.connections.filter fun c => !c.touches id } := by
  unfold deleteNode at h
  obtain ⟨n, hn, h⟩ := bind_eq_ok.1 h
  exact ⟨⟨n, needNode_eq_ok.1 hn⟩, (pure_eq_ok.1 h).symm⟩

/-! ## Edits of connections -/

/-- **Connecting two nodes** puts a connection at the end, between two nodes that are there and
may be connected, when it closes no cycle and is not there yet. -/
theorem connect_ok {source target : String} {sourceHandle targetHandle : Option String}
    {c : Connection}
    (h : f.connect s source sourceHandle target targetHandle = .ok (g, c)) :
    ∃ m n, f.findNode? source = some m ∧ f.findNode? target = some n ∧
      checkEnds s.registry m n = .ok () ∧ source ≠ target ∧
      Cycle.closes f.edges source target = false ∧
      c = ⟨s.freshId 1, source, sourceHandle, target, targetHandle⟩ ∧
      (∀ d ∈ f.connections, d.endpoints ≠ c.endpoints) ∧
      g = { f with connections := f.connections ++ [c] } := by
  unfold connect at h
  simp only [bind_eq_ok, refuse_eq_ok, endNode_eq_ok] at h
  obtain ⟨m, hm, n, hn, ⟨⟩, hends, hne, hcycle, hdup, h⟩ := h
  obtain ⟨rfl, rfl⟩ := Prod.mk.inj (pure_eq_ok.1 h)
  exact ⟨m, n, hm, hn, hends, hne, by simpa using hcycle, rfl, by simpa using hdup, rfl⟩

/-- **Deleting a connection** takes all connections with the id away, of which there is one. -/
theorem disconnect_ok {id : String} (h : f.disconnect id = .ok g) :
    (∃ c ∈ f.connections, c.id = id) ∧
      g = { f with connections := f.connections.filter fun c => c.id != id } := by
  unfold disconnect at h
  split at h
  · next hc => exact ⟨by simpa using hc, (Except.ok.inj h).symm⟩
  · cases h

theorem checkSplice_ok {r : Registry} {t : NodeType} {m n : Node}
    (h : checkSplice r t m n = .ok ()) :
    t.category = .transform ∧ r.categoryOf n.type ≠ some .trigger ∧
      n.type ≠ Builtin.linkName := by
  unfold checkSplice at h
  repeat' split at h
  case isFalse.isFalse.isFalse.isFalse htransform htrigger hlink _ =>
    exact ⟨Decidable.not_not.1 htransform, htrigger, hlink⟩
  all_goals cases h

theorem require_eq_ok {r : Registry} {type : String} {t : NodeType} :
    r.require type = .ok t ↔ r.get? type = some t := by
  unfold Registry.require
  cases r.get? type with
  | some u => simp
  | none => simp

/-- The type of a node that is put between two others is that of a transform. -/
theorem categoryOf_of_checkSplice {r : Registry} {type : String} {t : NodeType} {m n : Node}
    (ht : r.require type = .ok t) (hcheck : checkSplice r t m n = .ok ()) :
    r.categoryOf type = some .transform := by
  rw [Registry.categoryOf, require_eq_ok.1 ht, Option.map_some, (checkSplice_ok hcheck).1]

/-- The connections that a splice leaves: all but those from the one node to the other. -/
def unjoined (f : Flow) (source target : String) : List Connection :=
  f.connections.filter fun c => !joins source target c

/-- Where a splice puts a node unless told otherwise. -/
def halfway (p q : Position) : Position where
  x := Double.midpoint p.x q.x
  y := Double.midpoint p.y q.y

/-- **Splicing** puts a node of a transform type at the end, under the fresh id, and two
connections, one to it and one from it, in the place of those that led from the one node to the
other. -/
theorem splice_ok {source target type : String} {position : Option (Checked Position)}
    {x : Node} {before after : Connection}
    (h : f.splice s source target type position = .ok (g, x, before, after)) :
    ∃ m n t, f.findNode? source = some m ∧ f.findNode? target = some n ∧
      s.registry.require type = .ok t ∧ checkSplice s.registry t m n = .ok () ∧
      Cycle.closes ((f.unjoined source target).map fun c => (c.source, c.target))
        source target = false ∧
      x.id = s.freshId 1 ∧ x.type = type ∧
      (∃ title, t.title.display = .ok title ∧ x.name = f.freeName title) ∧
      x.slug = some (Naming.slug x.name f.slugs) ∧
      Position.orElse (halfway m.position n.position) position = .ok x.position ∧
      (∃ defaults, t.defaults.toMap = .ok defaults ∧ ownParameters defaults = .ok x.parameters) ∧
      before = ⟨s.freshId 2, source, some outputHandle, x.id, some inputHandle⟩ ∧
      after = ⟨s.freshId 3, x.id, some outputHandle, target, some inputHandle⟩ ∧
      g = { f with
        nodes := f.nodes ++ [x]
        connections := f.unjoined source target ++ [before, after] } := by
  unfold splice at h
  simp only [bind_eq_ok, refuse_eq_ok, endNode_eq_ok] at h
  obtain ⟨m, hm, n, hn, t, ht, ⟨⟩, hcheck, hcycle, place, hplace, title, htitle, defaults,
    hdefaults, own, hown, h⟩ := h
  cases pure_eq_ok.1 h
  exact ⟨m, n, t, hm, hn, ht, hcheck, Bool.not_eq_true _ ▸ hcycle, rfl, rfl, ⟨title, htitle, rfl⟩,
    rfl, hplace, ⟨defaults, hdefaults, hown⟩, rfl, rfl, rfl⟩

end Flow

/-! ## All edits -/

namespace Edit

open Outcome

variable {f g : Flow} {s : Setting}

/-- **What an edit makes of a flow**, one case for each edit. -/
inductive Makes (f : Flow) (s : Setting) (g : Flow) : Edit → Prop
  /-- A node is added. -/
  | addNode {type name : String} {position : Option (Checked Position)}
      {parameters : Entries Json} {n : Node}
      (h : f.addNode s type name position parameters = .ok (g, n)) :
      Makes f s g (.addNode type name position parameters)
  /-- A node is updated. -/
  | updateNode {node : String} {update : NodeUpdate} {n : Node}
      (h : f.updateNode s node update = .ok (g, n)) : Makes f s g (.updateNode node update)
  /-- A node is moved. -/
  | moveNode {node : String} {position : Checked Position} {n : Node}
      (h : f.moveNode node position = .ok (g, n)) : Makes f s g (.moveNode node position)
  /-- A node is deleted. -/
  | deleteNode {node : String} (h : f.deleteNode node = .ok g) : Makes f s g (.deleteNode node)
  /-- Two nodes are connected. -/
  | connect {source target : String} {sourceHandle targetHandle : Option String} {c : Connection}
      (h : f.connect s source sourceHandle target targetHandle = .ok (g, c)) :
      Makes f s g (.connect source sourceHandle target targetHandle)
  /-- A connection is deleted. -/
  | disconnect {connection : String} (h : f.disconnect connection = .ok g) :
      Makes f s g (.disconnect connection)
  /-- A transform is put between two nodes. -/
  | splice {source target type : String} {position : Option (Checked Position)} {x : Node}
      {before after : Connection}
      (h : f.splice s source target type position = .ok (g, x, before, after)) :
      Makes f s g (.splice source target type position)

theorem makes_of_apply {e : Edit} {result : Result} (h : e.apply f s = .ok (g, result)) :
    e.Makes f s g := by
  cases e with
  | addNode =>
    obtain ⟨⟨k, n⟩, hk, h⟩ := bind_eq_ok.1 h
    cases pure_eq_ok.1 h
    exact .addNode hk
  | updateNode =>
    obtain ⟨⟨k, n⟩, hk, h⟩ := bind_eq_ok.1 h
    cases pure_eq_ok.1 h
    exact .updateNode hk
  | moveNode =>
    obtain ⟨⟨k, n⟩, hk, h⟩ := bind_eq_ok.1 h
    cases pure_eq_ok.1 h
    exact .moveNode hk
  | deleteNode =>
    obtain ⟨k, hk, h⟩ := bind_eq_ok.1 h
    cases pure_eq_ok.1 h
    exact .deleteNode hk
  | connect =>
    obtain ⟨⟨k, c⟩, hk, h⟩ := bind_eq_ok.1 h
    cases pure_eq_ok.1 h
    exact .connect hk
  | disconnect =>
    obtain ⟨k, hk, h⟩ := bind_eq_ok.1 h
    cases pure_eq_ok.1 h
    exact .disconnect hk
  | splice =>
    obtain ⟨⟨k, x, before, after⟩, hk, h⟩ := bind_eq_ok.1 h
    cases pure_eq_ok.1 h
    exact .splice hk

/-- **No edit touches anything but** the nodes and the connections. -/
theorem Makes.frame {e : Edit} (h : e.Makes f s g) :
    g = { f with nodes := g.nodes, connections := g.connections } := by
  have hsame : f.SameGraph g → g = { f with nodes := g.nodes, connections := g.connections } :=
    fun hgraph => by
      rw [hgraph.connections_eq]
      exact hgraph.1
  cases h with
  | addNode h =>
    obtain ⟨rfl, -⟩ := Flow.addNode_ok h
    rfl
  | updateNode h => exact hsame (Flow.updateNode_ok h)
  | moveNode h => exact hsame (Flow.moveNode_ok h)
  | deleteNode h =>
    obtain ⟨-, rfl⟩ := Flow.deleteNode_ok h
    rfl
  | connect h =>
    obtain ⟨-, -, -, -, -, -, -, -, -, rfl⟩ := Flow.connect_ok h
    rfl
  | disconnect h =>
    obtain ⟨-, rfl⟩ := Flow.disconnect_ok h
    rfl
  | splice h =>
    obtain ⟨-, -, -, -, -, -, -, -, -, -, -, -, -, -, -, -, rfl⟩ := Flow.splice_ok h
    rfl

/-- Whether an edit adds a node. -/
def addsNode : Edit → Bool
  | .addNode .. | .splice .. => true
  | _ => false

/-- **The ids of the nodes** stay, or some go, or the fresh one is added. -/
theorem Makes.nodeIds {e : Edit} (h : e.Makes f s g) :
    (g.nodes.map Node.id).Sublist (f.nodes.map Node.id) ∨
      e.addsNode = true ∧ g.nodes.map Node.id = f.nodes.map Node.id ++ [s.freshId 1] := by
  cases h with
  | addNode h =>
    obtain ⟨rfl, hid, -⟩ := Flow.addNode_ok h
    exact .inr ⟨rfl, by simp [hid]⟩
  | updateNode h => exact .inl ((Flow.updateNode_ok h).nodeIds_eq ▸ .refl _)
  | moveNode h => exact .inl ((Flow.moveNode_ok h).nodeIds_eq ▸ .refl _)
  | deleteNode h =>
    obtain ⟨-, rfl⟩ := Flow.deleteNode_ok h
    exact .inl (List.eraseP_sublist.map _)
  | connect h =>
    obtain ⟨-, -, -, -, -, -, -, -, -, rfl⟩ := Flow.connect_ok h
    exact .inl (.refl _)
  | disconnect h =>
    obtain ⟨-, rfl⟩ := Flow.disconnect_ok h
    exact .inl (.refl _)
  | splice h =>
    obtain ⟨-, -, -, -, -, -, -, -, hid, -, -, -, -, -, -, -, rfl⟩ := Flow.splice_ok h
    exact .inr ⟨rfl, by simp [hid]⟩

end Edit

end Workflow
