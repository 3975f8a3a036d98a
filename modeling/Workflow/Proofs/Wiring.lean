import Workflow.Proofs.Run

/-!
# Wiring rules

What may be connected with what is checked when a connection is made, and then never again: a
flow that follows the rules keeps to them because no later edit breaks them. Three things could.
A node could go and leave a connection without an end, so a deleted node takes its connections
with it. A node could change its type, and none does. And a splice makes two connections of its
own, to a new node and from it, without the checks that connecting two nodes has to pass; that
they follow the rules is a matter of the new node being a transform, and of neither triggers nor
links being transforms.

That two connections never have the same ends is, for those of a splice, a matter of the new
node being new, and so ids must be fresh here too (`Command.DrawsFresh`).
-/

namespace Workflow

open Outcome

namespace Flow

variable {f g : Flow} {s : Setting} {r : Registry}

/-- The ids of the nodes and of the connections of a flow. -/
def ids (f : Flow) : List String :=
  f.nodes.map Node.id ++ f.connections.map Connection.id

/-- **The wiring rules.** -/
structure IsWired (r : Registry) (f : Flow) : Prop where
  /-- Both ends of every connection are nodes. -/
  ends : ∀ c ∈ f.connections,
    c.source ∈ f.nodes.map Node.id ∧ c.target ∈ f.nodes.map Node.id
  /-- No connection leads to a trigger. -/
  triggers : ∀ c ∈ f.connections, ∀ n ∈ f.nodes, n.id = c.target →
    r.categoryOf n.type ≠ some .trigger
  /-- Only interface nodes lead to a link. -/
  links : ∀ c ∈ f.connections, ∀ n ∈ f.nodes, n.id = c.target → n.type = Builtin.linkName →
    ∀ m ∈ f.nodes, m.id = c.source → r.categoryOf m.type = some .interface
  /-- No two connections have the same ends. -/
  endpoints : (f.connections.map Connection.endpoints).Nodup
  /-- No id stands twice. -/
  ids : f.ids.Nodup

/-! ## One connection -/

/-- Whether the types of two nodes allow a connection from the one to the other. -/
def Suits (r : Registry) (source target : Node) : Prop :=
  r.categoryOf target.type ≠ some .trigger ∧
    (target.type = Builtin.linkName → r.categoryOf source.type = some .interface)

/-- Whether some nodes have one for each end of a connection, of types that allow it. -/
def Admits (r : Registry) (nodes : List Node) (c : Connection) : Prop :=
  ∃ m ∈ nodes, ∃ n ∈ nodes, m.id = c.source ∧ n.id = c.target ∧ Suits r m n

theorem Admits.mono {ms ns : List Node} {c : Connection} (h : Admits r ms c) (hsub : ms ⊆ ns) :
    Admits r ns c := by
  obtain ⟨m, hm, n, hn, hends⟩ := h
  exact ⟨m, hsub hm, n, hsub hn, hends⟩

/-- Of nodes nothing counts but the ids and the types. -/
theorem Admits.of_sameGraph {c : Connection} (h : Admits r f.nodes c) (hg : f.SameGraph g) :
    Admits r g.nodes c := by
  have hnode : ∀ n ∈ f.nodes, ∃ n' ∈ g.nodes, n'.id = n.id ∧ n'.type = n.type := by
    intro n hn
    have hkind : (n.id, n.type) ∈ g.nodes.map fun n => (n.id, n.type) :=
      hg.2 ▸ List.mem_map_of_mem hn
    obtain ⟨n', hn', heq⟩ := List.mem_map.1 hkind
    exact ⟨n', hn', (Prod.mk.inj heq).1, (Prod.mk.inj heq).2⟩
  obtain ⟨m, hm, n, hn, hsource, htarget, hsuits⟩ := h
  obtain ⟨m', hm', hmid, hmtype⟩ := hnode m hm
  obtain ⟨n', hn', hnid, hntype⟩ := hnode n hn
  refine ⟨m', hm', n', hn', hmid.trans hsource, hnid.trans htarget, ?_⟩
  rw [Suits, hmtype, hntype]
  exact hsuits

/-- A node that is not at an end of a connection is not missed by it. -/
theorem Admits.erase {id : String} {c : Connection} (h : Admits r f.nodes c)
    (hc : c.touches id = false) : Admits r (f.nodes.eraseP fun n => n.id == id) c := by
  obtain ⟨m, hm, n, hn, hsource, htarget, hsuits⟩ := h
  have hne : c.source ≠ id ∧ c.target ≠ id := by simpa [Connection.touches] using hc
  refine ⟨m, ?_, n, ?_, hsource, htarget, hsuits⟩
  · exact (List.mem_eraseP_of_neg (by simpa [hsource] using hne.1)).2 hm
  · exact (List.mem_eraseP_of_neg (by simpa [htarget] using hne.2)).2 hn

/-- The nodes that are looked at when two nodes are connected are nodes for the two ends. -/
theorem admits_of_findNode? {c : Connection} {m n : Node} (hm : f.findNode? c.source = some m)
    (hn : f.findNode? c.target = some n) (h : Suits r m n) : Admits r f.nodes c :=
  ⟨m, mem_of_findNode? hm, n, mem_of_findNode? hn, id_of_findNode? hm, id_of_findNode? hn, h⟩

/-- Where no id stands twice, a node is found under its own id. -/
theorem findNode?_of_mem {n : Node} (h : (f.nodes.map Node.id).Nodup) (hn : n ∈ f.nodes) :
    f.findNode? n.id = some n :=
  Keyed.find?_eq_some_of_mem h hn

/-- Where no id stands twice, it does not matter which nodes are looked at. -/
theorem isWired_iff : f.IsWired r ↔ (∀ c ∈ f.connections, Admits r f.nodes c) ∧
    (f.connections.map Connection.endpoints).Nodup ∧ f.ids.Nodup := by
  constructor
  · intro h
    refine ⟨fun c hc => ?_, h.endpoints, h.ids⟩
    obtain ⟨m, hm, hsource⟩ := List.mem_map.1 (h.ends c hc).1
    obtain ⟨n, hn, htarget⟩ := List.mem_map.1 (h.ends c hc).2
    exact ⟨m, hm, n, hn, hsource, htarget, h.triggers c hc n hn htarget,
      fun hlink => h.links c hc n hn htarget hlink m hm hsource⟩
  · rintro ⟨hadmits, hendpoints, hids⟩
    have hunique : ∀ {m n : Node}, m ∈ f.nodes → n ∈ f.nodes → m.id = n.id → m = n := by
      intro m n hm hn hid
      have hnodup : (f.nodes.map Node.id).Nodup := (List.nodup_append.1 hids).1
      have hfind := findNode?_of_mem hnodup hm
      rw [hid, findNode?_of_mem hnodup hn] at hfind
      exact (Option.some.inj hfind).symm
    refine ⟨fun c hc => ?_, fun c hc n hn htarget => ?_,
      fun c hc n hn htarget hlink m hm hsource => ?_, hendpoints, hids⟩
    · obtain ⟨m, hm, n, hn, hsource, htarget, -⟩ := hadmits c hc
      exact ⟨hsource ▸ List.mem_map_of_mem hm, htarget ▸ List.mem_map_of_mem hn⟩
    · obtain ⟨_, _, n', hn', _, htarget', hsuits⟩ := hadmits c hc
      obtain rfl := hunique hn hn' (htarget.trans htarget'.symm)
      exact hsuits.1
    · obtain ⟨m', hm', n', hn', hsource', htarget', hsuits⟩ := hadmits c hc
      obtain rfl := hunique hn hn' (htarget.trans htarget'.symm)
      obtain rfl := hunique hm hm' (hsource.trans hsource'.symm)
      exact hsuits.2 hlink

/-! ## Edits -/

/-- Two nodes may be connected when they suit each other. -/
theorem checkEnds_eq_ok {m n : Node} : checkEnds r m n = .ok () ↔ Suits r m n := by
  constructor
  · intro h
    unfold checkEnds at h
    split at h
    · cases h
    · next htrigger =>
      split at h
      · cases h
      · next hlink =>
        refine ⟨htrigger, fun hn => ?_⟩
        by_contra hm
        exact hlink ⟨hn, hm⟩
  · intro h
    rw [checkEnds, if_neg h.1, if_neg fun hlink => hlink.2 (h.2 hlink.1)]

/-- **Two nodes that are spliced** both suit a transform between them, if links are none. -/
theorem suits_of_splice {type : String} {t : NodeType} {m n x : Node}
    (hlink : r.categoryOf Builtin.linkName ≠ some .transform) (ht : r.require type = .ok t)
    (hcheck : checkSplice r t m n = .ok ()) (hx : x.type = type) :
    Suits r m x ∧ Suits r x n := by
  obtain ⟨-, htrigger, hn⟩ := checkSplice_ok hcheck
  have hcategory := categoryOf_of_checkSplice ht hcheck
  rw [← hx] at hcategory
  refine ⟨⟨?_, fun hxlink => ?_⟩, htrigger, fun hnlink => absurd hnlink hn⟩
  · rw [hcategory]
    exact nofun
  · rw [hxlink] at hcategory
    exact absurd hcategory hlink

theorem SameGraph.ids_eq (h : f.SameGraph g) : g.ids = f.ids := by
  rw [ids, ids, h.nodeIds_eq, h.connections_eq]

theorem sameGraph_written (f : Flow) : f.SameGraph f.written := by
  refine ⟨rfl, ?_⟩
  rw [written, List.map_map]
  rfl

theorem IsWired.of_sameGraph (h : f.IsWired r) (hg : f.SameGraph g) : g.IsWired r := by
  obtain ⟨hadmits, hendpoints, hids⟩ := isWired_iff.1 h
  refine isWired_iff.2 ⟨fun c hc => ?_, ?_, hg.ids_eq ▸ hids⟩
  · rw [hg.connections_eq] at hc
    exact (hadmits c hc).of_sameGraph hg
  · rw [hg.connections_eq]
    exact hendpoints

/-- Of a flow nothing counts but the nodes and the connections. -/
theorem IsWired.of_eq (h : f.IsWired r) (hnodes : g.nodes = f.nodes)
    (hconnections : g.connections = f.connections) : g.IsWired r := by
  rw [isWired_iff, Flow.ids, hnodes, hconnections]
  exact isWired_iff.1 h

/-- **Nodes and connections go**, and no node that is still needed. -/
theorem IsWired.shrink (h : f.IsWired r) (hnodes : g.nodes.Sublist f.nodes)
    (hconnections : g.connections.Sublist f.connections)
    (hadmits : ∀ c ∈ g.connections, Admits r g.nodes c) : g.IsWired r :=
  isWired_iff.2 ⟨hadmits, h.endpoints.sublist (hconnections.map _),
    h.ids.sublist ((hnodes.map _).append (hconnections.map _))⟩

/-- **Nodes and connections are added** at the end, under fresh ids, while connections may
go. -/
theorem IsWired.grow (nodes : List Node) {kept : List Connection}
    (connections : List Connection) (h : f.IsWired r)
    (hg : g = { f with nodes := f.nodes ++ nodes, connections := kept ++ connections })
    (hkept : kept.Sublist f.connections)
    (hadmits : ∀ c ∈ connections, Admits r (f.nodes ++ nodes) c)
    (hendpoints : ((kept ++ connections).map Connection.endpoints).Nodup)
    (hfresh : (nodes.map Node.id ++ connections.map Connection.id).Nodup)
    (hdisjoint : ∀ id ∈ nodes.map Node.id ++ connections.map Connection.id, id ∉ f.ids) :
    g.IsWired r := by
  subst hg
  refine isWired_iff.2 ⟨fun c hc => ?_, hendpoints, ?_⟩
  · obtain hc | hc := List.mem_append.1 hc
    · exact ((isWired_iff.1 h).1 c (hkept.subset hc)).mono (List.subset_append_left _ _)
    · exact hadmits c hc
  · have hall : (f.ids ++ (nodes.map Node.id ++ connections.map Connection.id)).Nodup :=
      List.nodup_append.2 ⟨h.ids, hfresh, fun a ha b hb hab => hdisjoint b hb (hab ▸ ha)⟩
    have hkept : (f.nodes.map Node.id ++ kept.map Connection.id ++
        (nodes.map Node.id ++ connections.map Connection.id)).Nodup :=
      hall.sublist ((hkept.map Connection.id).append_left _ |>.append_right _)
    rw [Flow.ids, List.map_append, List.map_append, List.append_assoc]
    rw [List.append_assoc] at hkept
    exact ((List.perm_append_comm_assoc _ _ _).append_left _).nodup_iff.2 hkept

theorem IsWired.addNode {type name : String} {position : Option (Checked Position)}
    {parameters : Entries Json} {n : Node} (h : f.IsWired r)
    (hfresh : s.freshId 1 ∉ f.ids)
    (hg : f.addNode s type name position parameters = .ok (g, n)) : g.IsWired r := by
  obtain ⟨rfl, hid, -⟩ := addNode_ok hg
  refine h.grow [n] [] ?_ (.refl _) nofun ?_ ?_ ?_
  · simp
  · simpa using h.endpoints
  · simp
  · simpa [hid] using hfresh

theorem IsWired.connect {source target : String} {sourceHandle targetHandle : Option String}
    {c : Connection} (h : f.IsWired s.registry) (hfresh : s.freshId 1 ∉ f.ids)
    (hg : f.connect s source sourceHandle target targetHandle = .ok (g, c)) :
    g.IsWired s.registry := by
  obtain ⟨m, n, hm, hn, hends, -, -, hc, hdup, rfl⟩ := connect_ok hg
  refine h.grow [] [c] (by simp) (.refl _) (fun d hd => ?_) ?_ (by simp) ?_
  · rw [List.mem_singleton.1 hd, List.append_nil]
    refine admits_of_findNode? ?_ ?_ (checkEnds_eq_ok.1 hends)
    · rw [hc, hm]
    · rw [hc, hn]
  · rw [List.map_append, List.nodup_append]
    refine ⟨h.endpoints, by simp, fun a ha b hb hab => ?_⟩
    obtain ⟨d, hd, rfl⟩ := List.mem_map.1 ha
    exact hdup d hd (hab.trans (by simpa using hb))
  · simpa [hc] using hfresh

theorem IsWired.disconnect {id : String} (h : f.IsWired r) (hg : f.disconnect id = .ok g) :
    g.IsWired r := by
  obtain ⟨-, rfl⟩ := disconnect_ok hg
  exact h.shrink (.refl _) List.filter_sublist fun c hc =>
    (isWired_iff.1 h).1 c (List.filter_sublist.subset hc)

/-- **A deleted node** takes with it what it is an end of. -/
theorem IsWired.deleteNode {id : String} (h : f.IsWired r) (hg : f.deleteNode id = .ok g) :
    g.IsWired r := by
  obtain ⟨-, rfl⟩ := deleteNode_ok hg
  refine h.shrink List.eraseP_sublist List.filter_sublist fun c hc => ?_
  obtain ⟨hc, htouches⟩ := List.mem_filter.1 hc
  exact ((isWired_iff.1 h).1 c hc).erase (by simpa using htouches)

/-- An end of a connection is no fresh id. -/
theorem IsWired.ne_of_fresh {x : String} {c : Connection} (h : f.IsWired r) (hx : x ∉ f.ids)
    (hc : c ∈ f.connections) : c.source ≠ x ∧ c.target ≠ x := by
  have hnode : x ∉ f.nodes.map Node.id := fun hmem => hx (List.mem_append_left _ hmem)
  obtain ⟨hsource, htarget⟩ := h.ends c hc
  exact ⟨fun he => hnode (he ▸ hsource), fun he => hnode (he ▸ htarget)⟩

/-- A connection to a new node and one from it are different from each other, and from all that
were there. -/
theorem IsWired.nodup_endpoints {x : String} {kept : List Connection} {before after : Connection}
    (h : f.IsWired r) (hx : x ∉ f.ids) (hkept : kept.Sublist f.connections)
    (htarget : before.target = x) (hsource : before.source ≠ x) (hafter : after.source = x) :
    ((kept ++ [before, after]).map Connection.endpoints).Nodup := by
  have hpair : ([before, after].map Connection.endpoints).Nodup := by
    simp [Connection.endpoints, hafter, hsource]
  rw [List.map_append, List.nodup_append]
  refine ⟨h.endpoints.sublist (hkept.map _), hpair, fun a ha b hb hab => ?_⟩
  obtain ⟨c, hc, rfl⟩ := List.mem_map.1 ha
  obtain ⟨hcsource, hctarget⟩ := h.ne_of_fresh hx (hkept.subset hc)
  simp only [List.map_cons, List.map_nil, List.mem_cons, List.not_mem_nil, or_false] at hb
  obtain rfl | rfl := hb
  · exact hctarget ((congrArg (fun ends => ends.2.2.1) hab).trans htarget)
  · exact hcsource ((congrArg Prod.fst hab).trans hafter)

theorem IsWired.splice {source target type : String} {position : Option (Checked Position)}
    {x : Node} {before after : Connection} (h : f.IsWired s.registry)
    (hlink : s.registry.categoryOf Builtin.linkName ≠ some .transform)
    (hnodup : [s.freshId 1, s.freshId 2, s.freshId 3].Nodup)
    (hfresh : ∀ id ∈ [s.freshId 1, s.freshId 2, s.freshId 3], id ∉ f.ids)
    (hg : f.splice s source target type position = .ok (g, x, before, after)) :
    g.IsWired s.registry := by
  obtain ⟨m, n, t, hm, hn, ht, hcheck, -, hx, htype, -, -, -, -, hbefore, hafter, rfl⟩ :=
    splice_ok hg
  obtain ⟨hto, hfrom⟩ := suits_of_splice hlink ht hcheck htype
  have hids : [x].map Node.id ++ [before, after].map Connection.id
      = [s.freshId 1, s.freshId 2, s.freshId 3] := by
    simp [hx, hbefore, hafter]
  have hxfresh : x.id ∉ f.ids := hx ▸ hfresh _ (by simp)
  have hsource : source ≠ x.id := by
    rintro rfl
    exact hxfresh (List.mem_append_left _
      (id_of_findNode? hm ▸ List.mem_map_of_mem (mem_of_findNode? hm)))
  have hmem : ∀ {k : Node} {id : String}, f.findNode? id = some k → k ∈ f.nodes ++ [x] :=
    fun hk => List.mem_append_left _ (mem_of_findNode? hk)
  have hxmem : x ∈ f.nodes ++ [x] := List.mem_append_right _ (List.mem_singleton_self x)
  refine h.grow [x] [before, after] rfl List.filter_sublist (fun c hc => ?_) ?_
    (hids ▸ hnodup) (hids ▸ hfresh)
  · rw [List.mem_cons, List.mem_singleton] at hc
    obtain rfl | rfl := hc
    · rw [hbefore]
      exact ⟨m, hmem hm, x, hxmem, id_of_findNode? hm, rfl, hto⟩
    · rw [hafter]
      exact ⟨x, hxmem, n, hmem hn, rfl, id_of_findNode? hn, hfrom⟩
  · subst hbefore hafter
    exact h.nodup_endpoints hxfresh List.filter_sublist rfl hsource rfl

end Flow

/-! ## Fresh ids -/

/-- The fresh ids that an edit takes. -/
def Edit.freshIds (freshId : Nat → String) : Edit → List String
  | .addNode .. | .connect .. => [freshId 1]
  | .splice .. => [freshId 1, freshId 2, freshId 3]
  | _ => []

/-- **No edit breaks a wiring rule**, unless links are transforms. -/
theorem Edit.isWired {f g : Flow} {s : Setting} {e : Edit} (h : f.IsWired s.registry)
    (hlink : s.registry.categoryOf Builtin.linkName ≠ some .transform)
    (hnodup : (e.freshIds s.freshId).Nodup) (hfresh : ∀ id ∈ e.freshIds s.freshId, id ∉ f.ids)
    (hg : e.Makes f s g) : g.IsWired s.registry := by
  cases hg with
  | addNode hg => exact h.addNode (hfresh _ (by simp [freshIds])) hg
  | updateNode hg => exact h.of_sameGraph (Flow.updateNode_ok hg)
  | moveNode hg => exact h.of_sameGraph (Flow.moveNode_ok hg)
  | deleteNode hg => exact h.deleteNode hg
  | connect hg => exact h.connect (hfresh _ (by simp [freshIds])) hg
  | disconnect hg => exact h.disconnect hg
  | splice hg => exact h.splice hlink hnodup hfresh hg

/-- **The ids that a command takes are fresh**: they are different, and no node and no connection
of the flow has one of them. -/
def Command.DrawsFresh {σ : Type} [FlowStore σ] (w : Surroundings) (s : σ) (c : Command) : Prop :=
  ∀ p ∈ c.edit? w s,
    (p.2.freshIds w.freshId).Nodup ∧ ∀ id ∈ p.2.freshIds w.freshId, id ∉ p.1.ids

instance {σ : Type} [FlowStore σ] (w : Surroundings) (s : σ) (c : Command) :
    Decidable (c.DrawsFresh w s) :=
  inferInstanceAs (Decidable (∀ p ∈ c.edit? w s, _))

/-! ## Runs -/

/-- A command that draws on the built-in node types, and on ids that are fresh. -/
def Command.DrawsBuiltin {σ : Type} [FlowStore σ] (w : Surroundings) (s : σ) (c : Command) : Prop :=
  w.registry = Builtin.registry ∧ c.DrawsFresh w s

theorem Flow.IsWired.written {f : Flow} {r : Registry} (h : f.IsWired r) : f.written.IsWired r :=
  h.of_sameGraph f.sameGraph_written

theorem Reaches.all_isWired {σ : Type} [FlowStore σ] [LawfulStore σ] {s : σ}
    (h : Reaches Command.DrawsBuiltin FlowStore.empty s) :
    FlowStore.All (Flow.IsWired Builtin.registry) s := by
  have hlink : Builtin.registry.categoryOf Builtin.linkName ≠ some .transform := by decide
  refine h.all (fun _ => Flow.IsWired.written) (fun f now hf => hf.of_eq rfl rfl)
    (fun _ _ _ _ => Flow.isWired_iff.2 ⟨nofun, .nil, .nil⟩) ?_
    ⟨_, LawfulStore.empty_keeps, nofun⟩
  intro w s c f task siblings effect g ⟨hregistry, hfresh⟩ hf htask hrun hg hwired
  obtain ⟨e, result, rfl, he⟩ | ⟨node, schema, m, hm⟩ := FlowTask.run_changed hrun hg
  · obtain ⟨hnodup, hnew⟩ := hfresh (f, e) (Command.edit?_eq_some hf htask)
    rw [← hregistry] at hwired hlink ⊢
    exact Edit.isWired hwired hlink hnodup hnew (Edit.makes_of_apply he)
  · exact hwired.of_sameGraph (Flow.keepSchema_ok hm)

theorem Reaches.isWired_of_load {σ : Type} [FlowStore σ] [LawfulStore σ] {s : σ} {id : String}
    {f : Flow} (h : Reaches Command.DrawsBuiltin FlowStore.empty s)
    (hf : FlowStore.load s id = .ok (some f)) : f.IsWired Builtin.registry :=
  FlowStore.All.of_load (P := Flow.IsWired Builtin.registry) (fun _ => Flow.IsWired.written)
    h.all_isWired hf

/-- **No run breaks a wiring rule.** Whatever commands are given to a store without flows, with
whatever arguments, and whether they are carried out or refused: all flows are wired by the rules
for the built-in node types – as they are kept, and as they are loaded. -/
theorem isWired_of_reaches {σ : Type} [FlowStore σ] [LawfulStore σ] {s : σ}
    (h : Reaches Command.DrawsBuiltin FlowStore.empty s) :
    FlowStore.All (Flow.IsWired Builtin.registry) s ∧
      ∀ id f, FlowStore.load s id = .ok (some f) → f.IsWired Builtin.registry :=
  ⟨h.all_isWired, fun _ _ => h.isWired_of_load⟩

/-! ### A run -/

/-- A run that creates a flow, adds a request and a view, and puts a transform between them. -/
def sampleWiring : List (Surroundings × Command) := [
  (numberedSurroundings "flow", ⟨"create_flow", [("name", .str "Pair")]⟩),
  (numberedSurroundings "api", ⟨"add_node", [("flow_id", .str "flow1"),
    ("node_type", .str Builtin.apiCallName), ("name", .str "Request")]⟩),
  (numberedSurroundings "view", ⟨"add_node", [("flow_id", .str "flow1"),
    ("node_type", .str Builtin.componentName), ("name", .str "View")]⟩),
  (numberedSurroundings "code", ⟨"insert_transformer", [("flow_id", .str "flow1"),
    ("source_node_id", .str "api1"), ("target_node_id", .str "view1")]⟩)]

/-- The run of four commands: the transform is wired to both nodes. -/
theorem isWired_of_reaches_sampleWiring :
    ((Command.stepAll FlowStore.empty sampleWiring : Memory).flows.map Flow.edges
      = [[("api1", "code1"), ("code1", "view1")]]) ∧
      FlowStore.All (Flow.IsWired Builtin.registry)
        (Command.stepAll FlowStore.empty sampleWiring : Memory) := by
  refine ⟨by decide +kernel, ?_⟩
  refine (isWired_of_reaches ?_).1
  refine .step (.step (.step (.step .start _ _ ?_) _ _ ?_) _ _ ?_) _ _ ?_
  all_goals exact ⟨rfl, by decide +kernel⟩

end Workflow
