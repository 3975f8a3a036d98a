import Workflow.Proofs.Acyclic
import Workflow.Proofs.Readable
import Workflow.Proofs.Refusals
import Workflow.Proofs.Wiring

/-!
# Splicing

A transform that is put between two nodes takes the place of the connections from the one to the
other. `Flow.IsSpliced` says what the flow is then: all else is kept as it was, the transform has
one connection to it and one from it, and who can reach whom is what it would be with the two nodes
connected (`Cycle.Path.of_splice`, `Cycle.Path.splice`). It does not matter whether the two were
connected before, or how often.

The splice looks for a path back from the second node to the first, along the connections that it
leaves. Where the two are connected there is none, since the flow would have a cycle already; and
then nothing else stands in the way but what is asked of the arguments (`Flow.IsSpliceable`). That
no flow has a cycle is known of runs whose new nodes have ids that no connection mentions. Fresh ids
are such, because the ends of connections are nodes (`Flow.IsWired.not_mentions`).
-/

namespace Workflow

open Outcome

/-! ## Runs with fresh ids -/

/-- An id that no node has is at no end of a connection. -/
theorem Flow.IsWired.not_mentions {f : Flow} {r : Registry} {x : String} (h : f.IsWired r)
    (hx : x ∉ f.ids) : ¬ f.Mentions x := by
  rintro (⟨n, hn, rfl⟩ | ⟨c, hc, hend⟩)
  · exact hx (List.mem_append_left _ (List.mem_map_of_mem hn))
  · obtain ⟨hsource, htarget⟩ := h.ne_of_fresh hx hc
    exact hend.elim hsource htarget

/-- An edit that adds a node takes an id for it. -/
theorem Edit.mem_freshIds {e : Edit} (h : e.addsNode = true) (freshId : Nat → String) :
    freshId 1 ∈ e.freshIds freshId := by
  cases e with
  | addNode | splice => exact List.mem_cons_self
  | _ => cases h

/-- Where all flows are wired, an id that no node has is mentioned nowhere. -/
theorem Command.DrawsBuiltin.fresh {σ : Type} [FlowStore σ] [LawfulStore σ] {w : Surroundings}
    {s : σ} {c : Command} (h : c.DrawsBuiltin w s)
    (hs : Reaches Command.DrawsBuiltin FlowStore.empty s) : c.Fresh w s := by
  intro f task hf htask hadds
  have hwired := FlowStore.All.of_needBy (P := Flow.IsWired Builtin.registry)
    (fun _ => Flow.IsWired.written) hs.all_isWired hf
  cases task with
  | edit e =>
    obtain ⟨-, hfresh⟩ := h.2 (f, e) (Command.edit?_eq_some hf htask)
    exact hwired.not_mentions (hfresh _ (Edit.mem_freshIds hadds _))
  | _ => cases hadds

/-- **No run from the empty store closes a cycle** if it draws on the built-in node types and on
fresh ids. -/
theorem Reaches.all_isAcyclic {σ : Type} [FlowStore σ] [LawfulStore σ] {s : σ}
    (h : Reaches Command.DrawsBuiltin FlowStore.empty s) : FlowStore.All Flow.IsAcyclic s := by
  have hfresh : Reaches Command.Fresh FlowStore.empty s := h.imp fun hs hc => hc.fresh hs
  refine hfresh.all (fun _ hf => hf) (fun _ _ hf => hf)
    (fun _ _ _ _ => Flow.isAcyclic_of_nil rfl) ?_ FlowStore.all_empty
  intro w s c f task siblings effect g hc hf htask hrun hg hacyclic
  obtain ⟨e, result, rfl, he⟩ | ⟨node, schema, m, hm⟩ := FlowTask.run_changed hrun hg
  · refine Edit.isAcyclic hacyclic ?_ he
    exact hc f _ hf htask
  · exact hacyclic.of_sameGraph (Flow.keepSchema_ok hm)

theorem Reaches.isAcyclic_of_load {σ : Type} [FlowStore σ] [LawfulStore σ] {s : σ} {id : String}
    {f : Flow} (h : Reaches Command.DrawsBuiltin FlowStore.empty s)
    (hf : FlowStore.load s id = .ok (some f)) : f.IsAcyclic :=
  FlowStore.All.of_load (P := Flow.IsAcyclic) (fun _ hf => hf) h.all_isAcyclic hf

/-! ## What a splice makes of a flow -/

namespace Flow

variable {f g : Flow} {s : Setting} {source target type : String}
  {position : Option (Checked Position)} {x : Node} {before after : Connection}

/-- **What a splice makes of a flow.** -/
structure IsSpliced (f g : Flow) (source target : String) (x : Node)
    (before after : Connection) : Prop where
  /-- Nothing else is touched than the nodes and the connections. -/
  frame : g = { f with nodes := g.nodes, connections := g.connections }
  /-- The nodes are the old ones, and then the new one. -/
  nodes : g.nodes = f.nodes ++ [x]
  /-- The new node is none of the old ones. -/
  fresh : x.id ∉ f.nodes.map Node.id
  /-- The connections are the old ones without those from the source to the target, and then two
  new ones. -/
  connections : g.connections = f.unjoined source target ++ [before, after]
  /-- One of them leads from the source to the new node. -/
  before_ends : before.source = source ∧ before.target = x.id
  /-- The other one leads from the new node to the target. -/
  after_ends : after.source = x.id ∧ after.target = target
  /-- The new node has no other connections. -/
  touching : ∀ c ∈ g.connections, c.touches x.id = true → c = before ∨ c = after
  /-- No connection leads from the source to the target. -/
  unjoined : ∀ c ∈ g.connections, joins source target c = false
  /-- An old node is reached from another one as if the source led to the target. -/
  paths : ∀ u ∈ f.nodes.map Node.id, ∀ v ∈ f.nodes.map Node.id,
    (Cycle.Path g.edges u v ↔ Cycle.Path (f.edges ++ [(source, target)]) u v)

/-- The connections of a flow either are left by a splice or lead from the one node to the
other. -/
theorem mem_unjoined_edges (f : Flow) (source target : String) :
    ∀ e ∈ f.edges, e ∈ ((f.unjoined source target).map fun c => (c.source, c.target)) ∨
      e = (source, target) := by
  intro e he
  obtain ⟨c, hc, rfl⟩ := List.mem_map.1 he
  by_cases hjoins : joins source target c = true
  · simp only [joins, Bool.and_eq_true, beq_iff_eq] at hjoins
    exact .inr (Prod.ext hjoins.1 hjoins.2)
  · exact .inl (List.mem_map_of_mem (List.mem_filter.2 ⟨hc, by simpa using hjoins⟩))

/-- **Who reaches whom** is the same through a node that nothing mentioned as along an edge from the
source to the target. -/
theorem path_through_iff {y u v : String} (hfresh : ¬ f.Mentions y) (hs : y ≠ source)
    (ht : y ≠ target) (hu : y ≠ u) (hv : y ≠ v) :
    Cycle.Path ((f.unjoined source target).map (fun c => (c.source, c.target)) ++
        [(source, y), (y, target)]) u v ↔
      Cycle.Path (f.edges ++ [(source, target)]) u v := by
  constructor
  · intro p
    have p := p.of_splice (f.unjoined_edges_subset source target)
      (fun c => (not_mem_edges_of_not_mentions hfresh c).1)
      (fun c => (not_mem_edges_of_not_mentions hfresh c).2) hs ht hu
    rwa [if_neg hv.symm] at p
  · exact Cycle.Path.splice (f.mem_unjoined_edges source target)

theorem isSpliced_of_splice (hfresh : ¬ f.Mentions (s.freshId 1))
    (h : f.splice s source target type position = .ok (g, x, before, after)) :
    f.IsSpliced g source target x before after := by
  obtain ⟨m, n, t, hm, hn, -, -, -, hx, -, -, -, -, -, hbefore, hafter, rfl⟩ := splice_ok h
  rw [← hx] at hfresh
  have hs : x.id ≠ source := ne_of_findNode? hm hfresh
  have ht : x.id ≠ target := ne_of_findNode? hn hfresh
  have hnode : ∀ u ∈ f.nodes.map Node.id, x.id ≠ u := by
    rintro _ hu rfl
    obtain ⟨k, hk, hid⟩ := List.mem_map.1 hu
    exact hfresh (.inl ⟨k, hk, hid⟩)
  refine ⟨rfl, rfl, fun hmem => hnode _ hmem rfl, rfl, by simp [hbefore], by simp [hafter],
    fun c hc htouches => ?_, fun c hc => ?_, fun u hu v hv => ?_⟩
  · obtain hc | hc := List.mem_append.1 hc
    · have hends : c.source = x.id ∨ c.target = x.id := by simpa [Connection.touches] using htouches
      exact absurd (.inr ⟨c, List.filter_sublist.subset hc, hends⟩) hfresh
    · simpa using hc
  · obtain hc | hc := List.mem_append.1 hc
    · simpa using (List.mem_filter.1 hc).2
    · simp only [List.mem_cons, List.not_mem_nil, or_false] at hc
      obtain rfl | rfl := hc
      · simp [joins, hbefore, ht]
      · simp [joins, hafter, hs]
  · have hedges : edges { f with
        nodes := f.nodes ++ [x]
        connections := f.unjoined source target ++ [before, after] } =
        (f.unjoined source target).map (fun c => (c.source, c.target)) ++
          [(source, x.id), (x.id, target)] := by
      simp [edges, hbefore, hafter]
    rw [hedges]
    exact path_through_iff hfresh hs ht (hnode u hu) (hnode v hv)

/-- A node that a connection leads to is no problem of the flow. -/
theorem ne_of_mem_problems {r : Registry} {c : Connection} {p : NodeProblem}
    (hc : c ∈ f.connections) (hp : p ∈ f.problems r) : p.node ≠ c.target := by
  rintro heq
  obtain ⟨n, hn, rfl⟩ := List.mem_map.1 hp
  have hunfed := (List.mem_filter.1 hn).2
  simp only [isUnfed, Bool.and_eq_true, Bool.not_eq_true', List.any_eq_false] at hunfed
  exact hunfed.2 c hc (by simpa using heq.symm)

/-- Neither the new node nor the target is a problem of a flow with these connections: something
leads to both. -/
theorem IsSpliced.ne_of_mem_problems {l : Flow} {r : Registry} {p : NodeProblem}
    (h : f.IsSpliced g source target x before after) (hl : l.connections = g.connections)
    (hp : p ∈ l.problems r) : p.node ≠ x.id ∧ p.node ≠ target := by
  have hmem : ∀ c ∈ [before, after], c ∈ l.connections := by
    rw [hl, h.connections]
    exact fun c hc => List.mem_append_right _ hc
  constructor
  · rw [← h.before_ends.2]
    exact Flow.ne_of_mem_problems (hmem before (by simp)) hp
  · rw [← h.after_ends.2]
    exact Flow.ne_of_mem_problems (hmem after (by simp)) hp

/-! ## When a splice succeeds -/

/-- **What is asked of a splice**: the source leads to the target, the target is no link, the type
is that of a transform, and a position that is given is one. -/
structure IsSpliceable (r : Registry) (f : Flow) (source target type : String)
    (position : Option (Checked Position)) : Prop where
  /-- There is a connection from the source to the target. -/
  joined : ∃ c ∈ f.connections, c.source = source ∧ c.target = target
  /-- The target is no link. -/
  unlinked : ∀ n ∈ f.nodes, n.id = target → n.type ≠ Builtin.linkName
  /-- The type is that of a transform. -/
  transform : r.categoryOf type = some .transform
  /-- A position is absent or well formed. -/
  placed : (position.all fun p => p.toOption.isSome) = true

theorem exists_findNode? {id : String} (h : id ∈ f.nodes.map Node.id) :
    ∃ n, f.findNode? id = some n := by
  cases hn : f.findNode? id with
  | some n => exact ⟨n, rfl⟩
  | none => exact absurd h (Keyed.find?_eq_none.1 hn)

/-- The connections that a splice leaves lead no path back, if there was one to take away. -/
theorem closes_unjoined_eq_false {c : Connection} (hacyclic : f.IsAcyclic)
    (hc : c ∈ f.connections) :
    Cycle.closes ((f.unjoined c.source c.target).map fun c => (c.source, c.target)) c.source
      c.target = false := by
  refine Cycle.closes_eq_false_iff.2 fun p => hacyclic c.source ?_
  have hedge : (c.source, c.target) ∈ f.edges := List.mem_map_of_mem hc
  exact .head' hedge (p.mono (f.unjoined_edges_subset c.source c.target))

/-- **A splice between connected nodes succeeds.** -/
theorem IsSpliceable.exists_splice (hs : s.registry = Builtin.registry)
    (h : f.IsWired s.registry) (hacyclic : f.IsAcyclic)
    (hcan : f.IsSpliceable s.registry source target type position) :
    ∃ g x before after, f.splice s source target type position = .ok (g, x, before, after) := by
  obtain ⟨⟨c, hc, rfl, rfl⟩, hunlinked, htransform, hplaced⟩ := hcan
  obtain ⟨hsource, htarget⟩ := h.ends c hc
  obtain ⟨m, hm⟩ := exists_findNode? hsource
  obtain ⟨n, hn⟩ := exists_findNode? htarget
  obtain ⟨t, ht, hcategory⟩ := Option.map_eq_some_iff.1 htransform
  have hcheck : checkSplice s.registry t m n = .ok () := by
    have htrigger := h.triggers c hc n (mem_of_findNode? hn) (id_of_findNode? hn)
    have hlink := hunlinked n (mem_of_findNode? hn) (id_of_findNode? hn)
    -- a loop would be a cycle
    have hself : m.id ≠ n.id := by
      intro hid
      rw [id_of_findNode? hm, id_of_findNode? hn] at hid
      have hedge : Cycle.Edge f.edges c.source c.target := List.mem_map_of_mem hc
      exact hacyclic c.source (.single (hid ▸ hedge))
    simp [checkSplice, hcategory, htrigger, hlink, hself]
  have hcloses := closes_unjoined_eq_false hacyclic hc
  obtain ⟨defaults, hdefaults, hkeys⟩ := exists_defaults hs type
  rw [ht, Option.map_some, Option.getD_some] at hdefaults
  obtain ⟨own, hown⟩ := exists_ownParameters hkeys
  obtain ⟨title, htitle⟩ := exists_title hs ht
  obtain ⟨place, hplace⟩ := Position.exists_orElse hplaced (halfway m.position n.position)
  unfold unjoined at hcloses
  unfold halfway at hplace
  rw [splice, endNode_eq_ok.2 hm, endNode_eq_ok.2 hn, require_eq_ok.2 ht]
  simp only [ok_bind, hcheck, hcloses, hplace, htitle, hdefaults, hown]
  exact ⟨_, _, _, _, rfl⟩

/-- A built-in transform has nothing in it that could not be written. -/
theorem isWritable_of_splice (hs : s.registry = Builtin.registry) (hf : f.isWritable = true)
    (h : f.splice s source target type position = .ok (g, x, before, after)) :
    g.isWritable = true := by
  obtain ⟨m, n, t, -, -, ht, -, -, -, -, -, -, -, ⟨defaults, hdefaults, hown⟩, -, -, rfl⟩ :=
    splice_ok h
  have hkeepable : Builtin.registry.Keepable := by decide +kernel
  rw [hs] at ht
  have hdefault : t.defaults.Keepable (Node.parameterRoom + 1) :=
    hkeepable t (List.mem_of_find?_eq_some (require_eq_ok.1 ht))
  have hparameters := all_of_ownParameters (hdefault.toMap hdefaults) hown
  -- what can be read back nests less deep than what can be written
  have hx : x.isWritable = true := by
    refine List.all_eq_true.2 fun entry hentry => decide_eq_true ?_
    have hheight := entry.2.height_le_nesting
    have hnesting : entry.2.nesting ≤ 196 := (hparameters entry hentry).shallow
    show entry.2.height < 256
    omega
  show (f.nodes ++ [x]).all Node.isWritable = true
  rw [List.all_append, Bool.and_eq_true]
  exact ⟨hf, by simpa using hx⟩

end Flow

/-! ## Saving what was loaded -/

namespace FlowStore

variable {σ : Type} [FlowStore σ] [LawfulStore σ] {s s' : σ} {docs : Docs} {f g k : Flow}
  {id now : String}

omit [LawfulStore σ] in
theorem need_of_load (hf : load s id = .ok (some f)) : need s id = .ok f := by
  rw [need, hf]
  rfl

theorem id_of_load (h : LawfulStore.Keeps s docs) (hf : load s id = .ok (some f)) : f.id = id := by
  obtain ⟨d, hd, hread⟩ := (load_eq_some h).1 hf
  exact (id_of_readBack hread).trans (LawfulStore.id_eq h hd)

/-- **A loaded flow can be saved again**, with whatever nodes and connections, if it has a form in
which it can be kept then. -/
theorem exists_save (h : LawfulStore.Keeps s docs) (hf : load s id = .ok (some f))
    (hg : g = { f with nodes := g.nodes, connections := g.connections })
    (hfits : LawfulStore.Fits σ g) (now : String) : ∃ p, save s g now = .ok p := by
  have hsame : g.id = f.id := by rw [hg]
  have hid : g.id = id := hsame.trans (id_of_load h hf)
  obtain ⟨d, hd, hread⟩ := (load_eq_some h).1 hf
  have hversion : d.version = g.version := by
    rw [hg]
    obtain rfl | rfl := LawfulStore.readBack_ok hread <;> rfl
  have hsave : docs.save g now = .ok (g.saved now) :=
    Docs.save_eq_ok.2 ⟨⟨d, hid.symm ▸ hd, hversion⟩, rfl⟩
  have hanswer := LawfulStore.save_fits now h hfits
  rw [hsave] at hanswer
  cases hp : save s g now with
  | ok p => exact ⟨p, rfl⟩
  | error failure =>
    rw [hp] at hanswer
    cases hanswer

/-- What a save answers is what is loaded afterwards, as far as it could be written. -/
theorem eq_of_load_of_save (h : LawfulStore.Keeps s docs) (hsave : save s g now = .ok (s', k))
    {l : Flow} (hload : load s' g.id = .ok (some l)) :
    k = g.saved now ∧ (l = g.saved now ∨ l = (g.saved now).written) := by
  obtain ⟨hguard, hkeeps⟩ := LawfulStore.save_ok h hsave
  obtain ⟨-, rfl⟩ := Docs.save_eq_ok.1 hguard
  obtain ⟨d, hd, hread⟩ := (load_eq_some hkeeps).1 hload
  have hput : docs.put (g.saved now) g.id = some (g.saved now) := Docs.put_self
  obtain rfl := Option.some.inj (hput.symm.trans hd)
  exact ⟨rfl, LawfulStore.readBack_ok hread⟩

/-- What was saved is loaded as it was saved, if it is read back so. -/
theorem load_of_save (h : LawfulStore.Keeps s docs) (hsave : save s g now = .ok (s', k))
    (hread : LawfulStore.readBack σ (g.saved now) = .ok (g.saved now)) :
    load s' g.id = .ok (some (g.saved now)) := by
  obtain ⟨hguard, hkeeps⟩ := LawfulStore.save_ok h hsave
  obtain ⟨-, rfl⟩ := Docs.save_eq_ok.1 hguard
  exact (load_eq_some hkeeps).2 ⟨_, Docs.put_self, hread⟩

end FlowStore

/-! ## The operation -/

namespace Operation

variable {σ : Type} [FlowStore σ] {w : Surroundings} {s s' : σ} {id : String} {f : Flow} {e : Edit}
  {reply : Reply}

/-- **An edit of a flow** is carried out when it can be made, and the flow can be saved then. -/
theorem run_edit_eq_ok (hf : FlowStore.load s id = .ok (some f)) :
    (onFlow id (.edit e)).run w s = .ok (s', reply) ↔ ∃ g result k,
      e.apply f ⟨w.registry, w.freshId, FlowStore.siblings s f⟩ = .ok (g, result) ∧
        FlowStore.save s g w.now = .ok (s', k) ∧ reply = .edited result := by
  rw [run, FlowStore.need_of_load hf, ok_bind, FlowTask.run]
  constructor
  · intro h
    obtain ⟨effect, heffect, h⟩ := bind_eq_ok.1 h
    obtain ⟨⟨g, result⟩, hg, heffect⟩ := bind_eq_ok.1 heffect
    cases pure_eq_ok.1 heffect
    obtain ⟨⟨t, k⟩, hsave, h⟩ := bind_eq_ok.1 h
    cases pure_eq_ok.1 h
    exact ⟨g, result, k, hg, hsave, rfl⟩
  · rintro ⟨g, result, k, hg, hsave, rfl⟩
    rw [hg, ok_bind]
    exact bind_eq_ok.2 ⟨_, rfl, bind_eq_ok.2 ⟨(s', k), hsave, rfl⟩⟩

/-- **An edit that can be made is carried out**, if the flow has a form in which it can be kept
then. -/
theorem exists_run_edit [LawfulStore σ] {docs : Docs} {g : Flow} {result : Edit.Result}
    (hkeeps : LawfulStore.Keeps s docs) (hf : FlowStore.load s id = .ok (some f))
    (happly : e.apply f ⟨w.registry, w.freshId, FlowStore.siblings s f⟩ = .ok (g, result))
    (hfits : LawfulStore.Fits σ g) :
    ∃ s', (onFlow id (.edit e)).run w s = .ok (s', .edited result) := by
  obtain ⟨⟨s', k⟩, hsave⟩ :=
    FlowStore.exists_save hkeeps hf (Edit.makes_of_apply happly).frame hfits w.now
  exact ⟨s', (run_edit_eq_ok hf).2 ⟨g, result, k, happly, hsave, rfl⟩⟩

/-- A flow that was validated was loaded before. -/
theorem exists_load_of_run_validate {report : FlowReport}
    (h : (onFlow id .validate).run w s = .ok (s', .flowReport report)) :
    ∃ f, FlowStore.load s id = .ok (some f) ∧ f.validate w.registry = .ok report := by
  obtain ⟨f, hf, h⟩ := bind_eq_ok.1 h
  obtain ⟨effect, heffect, h⟩ := bind_eq_ok.1 h
  obtain ⟨found, hfound, heffect⟩ := bind_eq_ok.1 heffect
  cases pure_eq_ok.1 heffect
  cases h
  obtain ⟨_ | k, hload, hf⟩ := bind_eq_ok.1 hf
  · cases hf
  · cases pure_eq_ok.1 hf
    exact ⟨_, hload, hfound⟩

/-- **What a splice that is carried out leaves**: the flow is saved with the transform in it, and
validation finds neither the transform nor the target without an input. -/
theorem exists_isSpliced_of_run [LawfulStore σ] {docs : Docs} {source target type : String}
    {position : Option (Checked Position)} (hkeeps : LawfulStore.Keeps s docs)
    (hf : FlowStore.load s id = .ok (some f)) (hfresh : ¬ f.Mentions (w.freshId 1))
    (hrun : (onFlow id (.edit (.splice source target type position))).run w s = .ok (s', reply)) :
    ∃ g x before after, reply = .edited (.splice x before after) ∧
      FlowStore.save s g w.now = .ok (s', g.saved w.now) ∧
      f.IsSpliced g source target x before after ∧
      ∀ w' s'' report, (onFlow id .validate).run w' s' = .ok (s'', .flowReport report) →
        ∀ p ∈ report.problems, p.node ≠ x.id ∧ p.node ≠ target := by
  obtain ⟨g, result, k, happly, hsave, rfl⟩ := (run_edit_eq_ok hf).1 hrun
  obtain ⟨⟨g, x, before, after⟩, hg, happly⟩ := bind_eq_ok.1 happly
  cases pure_eq_ok.1 happly
  have hspliced := Flow.isSpliced_of_splice hfresh hg
  obtain ⟨hguard, -⟩ := LawfulStore.save_ok hkeeps hsave
  obtain rfl := (Docs.save_eq_ok.1 hguard).2
  refine ⟨g, x, before, after, rfl, hsave, hspliced, fun w' s'' report hvalidate p hp => ?_⟩
  -- what is validated is what was saved, and its connections are the same if it was written
  obtain ⟨l, hload, hreport⟩ := exists_load_of_run_validate hvalidate
  obtain ⟨schemas, -, hreport⟩ := bind_eq_ok.1 hreport
  cases pure_eq_ok.1 hreport
  have hsame : g.id = f.id := by rw [hspliced.frame]
  have hid : g.id = id := hsame.trans (FlowStore.id_of_load hkeeps hf)
  have hconnections : l.connections = g.connections := by
    obtain ⟨-, rfl | rfl⟩ := FlowStore.eq_of_load_of_save hkeeps hsave (hid ▸ hload) <;> rfl
  exact hspliced.ne_of_mem_problems hconnections hp

/-- **A splice between connected nodes is carried out**, if the store can keep flows that are no
harder to keep than the one that was loaded. -/
theorem exists_run_splice [LawfulStore σ] {docs : Docs} {source target type : String}
    {position : Option (Checked Position)} (hkeeps : LawfulStore.Keeps s docs)
    (hf : FlowStore.load s id = .ok (some f)) (hregistry : w.registry = Builtin.registry)
    (hwired : f.IsWired Builtin.registry) (hacyclic : f.IsAcyclic)
    (hcan : f.IsSpliceable Builtin.registry source target type position)
    (hfits : ∀ g : Flow, g.version = f.version → (f.isWritable = true → g.isWritable = true) →
      LawfulStore.Fits σ g) :
    ∃ s' reply, (onFlow id (.edit (.splice source target type position))).run w s =
      .ok (s', reply) := by
  let setting : Setting := ⟨w.registry, w.freshId, FlowStore.siblings s f⟩
  obtain ⟨g, x, before, after, hg⟩ :
      ∃ g x before after, f.splice setting source target type position =
        .ok (g, x, before, after) := by
    rw [← hregistry] at hwired hcan
    exact hcan.exists_splice hregistry hwired hacyclic
  have happly : (Edit.splice source target type position).apply f setting =
      .ok (g, .splice x before after) := bind_eq_ok.2 ⟨_, hg, rfl⟩
  have hversion : g.version = f.version := by rw [(Edit.makes_of_apply happly).frame]
  obtain ⟨s', hrun⟩ := exists_run_edit hkeeps hf happly
    (hfits g hversion fun hwritable => Flow.isWritable_of_splice hregistry hwritable hg)
  exact ⟨s', _, hrun⟩

end Operation

/-- **The ids that an edit takes are fresh**: they are different, and no node and no connection of
the flow has one of them. -/
def Edit.DrawsFresh (e : Edit) (w : Surroundings) (f : Flow) : Prop :=
  (e.freshIds w.freshId).Nodup ∧ ∀ id ∈ e.freshIds w.freshId, id ∉ f.ids

instance (e : Edit) (w : Surroundings) (f : Flow) : Decidable (e.DrawsFresh w f) :=
  inferInstanceAs (Decidable (_ ∧ _))

/-- The operation that puts a transform between two nodes of a flow. -/
def Operation.splice (id source target type : String) (position : Option (Checked Position)) :
    Operation :=
  .onFlow id (.edit (.splice source target type position))

/-- **A transform is spliced in**, into any flow of a store that a run can come to with the built-in
node types and fresh ids. What is carried out leaves the flow with the transform and else as it was,
changes nothing about who reaches whom than an edge from the source to the target would, and leaves
neither the transform nor the target without an input. And it is carried out, in memory and in a
table, wherever the source leads to the target, the target is no link, the type is that of a
transform and no malformed position is given; a table must have room for one version more. -/
theorem splices_of_reaches {w : Surroundings} {id source target type : String}
    {position : Option (Checked Position)} {f : Flow} (hregistry : w.registry = Builtin.registry)
    (hfresh : (Edit.splice source target type position).DrawsFresh w f) :
    (∀ {σ : Type} [FlowStore σ] [LawfulStore σ] {s s' : σ} {reply : Reply},
      Reaches Command.DrawsBuiltin FlowStore.empty s → FlowStore.load s id = .ok (some f) →
      (Operation.splice id source target type position).run w s = .ok (s', reply) →
      ∃ g x before after, reply = .edited (.splice x before after) ∧
        FlowStore.save s g w.now = .ok (s', g.saved w.now) ∧
        f.IsSpliced g source target x before after ∧
        ∀ w' s'' report,
          (Operation.onFlow id .validate).run w' s' = .ok (s'', .flowReport report) →
          ∀ p ∈ report.problems, p.node ≠ x.id ∧ p.node ≠ target) ∧
    (f.IsSpliceable Builtin.registry source target type position →
      (∀ m : Memory, Reaches Command.DrawsBuiltin FlowStore.empty m →
        FlowStore.load m id = .ok (some f) →
        ∃ m' reply, (Operation.splice id source target type position).run w m =
          .ok (m', reply)) ∧
      ∀ t : Table, Reaches Command.DrawsBuiltin FlowStore.empty t →
        FlowStore.load t id = .ok (some f) → Table.fitsColumn f.version = true →
        ∃ t' reply, (Operation.splice id source target type position).run w t =
          .ok (t', reply)) := by
  refine ⟨fun h hf hrun => ?_, fun hcan => ⟨fun m h hf => ?_, fun t h hf hversion => ?_⟩⟩
  · have hid : w.freshId 1 ∉ f.ids := hfresh.2 _ (Edit.mem_freshIds rfl _)
    have hmentions := (h.isWired_of_load hf).not_mentions hid
    obtain ⟨docs, hkeeps, -⟩ := h.all_isWired
    exact Operation.exists_isSpliced_of_run hkeeps hf hmentions hrun
  · obtain ⟨docs, hkeeps, -⟩ := h.all_isWired
    exact Operation.exists_run_splice hkeeps hf hregistry (h.isWired_of_load hf)
      (h.isAcyclic_of_load hf) hcan fun _ _ _ => trivial
  · obtain ⟨docs, hkeeps, -⟩ := h.all_isWired
    have hwritable : f.isWritable = true := by
      obtain ⟨d, -, hread⟩ := (FlowStore.load_eq_some hkeeps).1 hf
      exact Row.isWritable_of_flow hread
    refine Operation.exists_run_splice hkeeps hf hregistry (h.isWired_of_load hf)
      (h.isAcyclic_of_load hf) hcan fun g hsame hw => ⟨hw hwritable, ?_⟩
    rw [hsame]
    exact hversion

/-! ### A run -/

/-- A run that creates a flow, adds a request and a view, and connects them twice. -/
def sampleDoubling : List (Surroundings × Command) := [
  (numberedSurroundings "flow", ⟨"create_flow", [("name", .str "Pair")]⟩),
  (numberedSurroundings "api", ⟨"add_node", [("flow_id", .str "flow1"),
    ("node_type", .str Builtin.apiCallName), ("name", .str "Request")]⟩),
  (numberedSurroundings "view", ⟨"add_node", [("flow_id", .str "flow1"),
    ("node_type", .str Builtin.componentName), ("name", .str "View")]⟩),
  (numberedSurroundings "first", ⟨"add_connection", [("flow_id", .str "flow1"),
    ("source_node_id", .str "api1"), ("target_node_id", .str "view1")]⟩),
  (numberedSurroundings "second", ⟨"add_connection", [("flow_id", .str "flow1"),
    ("source_node_id", .str "api1"), ("target_node_id", .str "view1"),
    ("source_handle", .str "error")]⟩)]

/-- The store with the two connections, in memory. -/
def sampleDoubled : Memory :=
  Command.stepAll FlowStore.empty sampleDoubling

/-- The store with the two connections, as a table. -/
def sampleDoubledRows : Table :=
  Command.stepAll FlowStore.empty sampleDoubling

theorem reaches_sampleDoubled : Reaches Command.DrawsBuiltin FlowStore.empty sampleDoubled := by
  refine .step (.step (.step (.step (.step .start _ _ ?_) _ _ ?_) _ _ ?_) _ _ ?_) _ _ ?_
  all_goals exact ⟨rfl, by decide +kernel⟩

theorem reaches_sampleDoubledRows :
    Reaches Command.DrawsBuiltin FlowStore.empty sampleDoubledRows := by
  refine .step (.step (.step (.step (.step .start _ _ ?_) _ _ ?_) _ _ ?_) _ _ ?_) _ _ ?_
  all_goals exact ⟨rfl, by decide +kernel⟩

/-- **A pair that is connected twice**: it can be spliced, and the ids for that are fresh. -/
def Flow.IsSampleDoubled (f : Flow) : Prop :=
  f.edges = [("api1", "view1"), ("api1", "view1")] ∧
    (Edit.splice "api1" "view1" Builtin.codeTransformName none).DrawsFresh
      (numberedSurroundings "code") f ∧
    (∃ c ∈ f.connections, c.source = "api1" ∧ c.target = "view1") ∧
    (∀ n ∈ f.nodes, n.id = "view1" → n.type ≠ Builtin.linkName) ∧
    Table.fitsColumn f.version = true

instance (f : Flow) : Decidable f.IsSampleDoubled :=
  inferInstanceAs (Decidable (_ ∧ _))

theorem Flow.IsSampleDoubled.isSpliceable {f : Flow} (h : f.IsSampleDoubled) :
    f.IsSpliceable Builtin.registry "api1" "view1" Builtin.codeTransformName none :=
  ⟨h.2.2.1, h.2.2.2.1, by decide, rfl⟩

/-- The operation that puts a transform between the two nodes. -/
def sampleSplicing : Operation :=
  .splice "flow1" "api1" "view1" Builtin.codeTransformName none

/-- The pair is spliced in both stores, and both connections give way to the transform. -/
theorem splices_of_reaches_sampleDoubled :
    (∃ f m' g x before after, FlowStore.load sampleDoubled "flow1" = .ok (some f) ∧
      f.IsSampleDoubled ∧
      sampleSplicing.run (numberedSurroundings "code") sampleDoubled =
        .ok (m', .edited (.splice x before after)) ∧
      f.IsSpliced g "api1" "view1" x before after ∧
      m'.flows.map Flow.edges = [[("api1", "code1"), ("code1", "view1")]]) ∧
    ∃ f t' reply, FlowStore.load sampleDoubledRows "flow1" = .ok (some f) ∧ f.IsSampleDoubled ∧
      sampleSplicing.run (numberedSurroundings "code") sampleDoubledRows = .ok (t', reply) := by
  constructor
  · have hsample : ∃ f ∈ sampleDoubled.find? "flow1", f.IsSampleDoubled := by decide +kernel
    have hedges : (sampleSplicing.run (numberedSurroundings "code") sampleDoubled).toOption.map
        (fun p => p.1.flows.map Flow.edges) = some [[("api1", "code1"), ("code1", "view1")]] := by
      decide +kernel
    obtain ⟨f, hf, hdoubled⟩ := hsample
    have hload : FlowStore.load sampleDoubled "flow1" = .ok (some f) := congrArg Except.ok hf
    obtain ⟨hspliced, hsucceeds⟩ := splices_of_reaches rfl hdoubled.2.1
    obtain ⟨m', reply, hrun⟩ :=
      (hsucceeds hdoubled.isSpliceable).1 sampleDoubled reaches_sampleDoubled hload
    obtain ⟨g, x, before, after, rfl, -, hg, -⟩ := hspliced reaches_sampleDoubled hload hrun
    have hrun : sampleSplicing.run (numberedSurroundings "code") sampleDoubled =
      .ok (m', .edited (.splice x before after)) := hrun
    rw [hrun] at hedges
    exact ⟨f, m', g, x, before, after, hload, hdoubled, hrun, hg, Option.some.inj hedges⟩
  · have hsample : ∃ found ∈ (FlowStore.load sampleDoubledRows "flow1").toOption,
        ∃ f ∈ found, f.IsSampleDoubled := by
      decide +kernel
    obtain ⟨found, hfound, f, hf, hdoubled⟩ := hsample
    obtain rfl : found = some f := hf
    have hload := mem_toOption.1 hfound
    obtain ⟨-, hsucceeds⟩ := splices_of_reaches rfl hdoubled.2.1
    obtain ⟨t', reply, hrun⟩ := (hsucceeds hdoubled.isSpliceable).2 sampleDoubledRows
      reaches_sampleDoubledRows hload hdoubled.2.2.2.2
    exact ⟨f, t', reply, hload, hdoubled, hrun⟩

end Workflow
