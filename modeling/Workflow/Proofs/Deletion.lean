import Workflow.Proofs.FlowReport
import Workflow.Proofs.Legality
import Workflow.Proofs.NodeNames

/-!
# Deletion

A node is deleted together with the connections at it. `Flow.IsWithout` says what is left: all other
nodes and all other connections, in their order and as they were. Nodes are taken away one at a time
and connections all at once, so for the nodes this is a matter of no id standing twice
(`Keyed.eraseP_eq_filter`).

What is left is validated as it was before. Every node is resolved by itself and every connection is
checked by its own two ends, so none of the outcomes that are still told depends on the node that is
gone (`Flow.reportOn_of_isWithout`). What is told of the nodes is another matter: a transform that
was fed by nobody else is told to have no input now (`Flow.bereft`), and nothing else is new
(`Flow.problems_of_isWithout`).
-/

namespace Workflow

open Outcome

/-! ## Lists -/

/-- Where no key stands twice, the first item with a key is the only one. -/
theorem Keyed.eraseP_eq_filter {α : Type} {key : α → String} {xs : List α} (id : String)
    (h : (xs.map key).Nodup) :
    (xs.eraseP fun x => key x == id) = xs.filter fun x => key x != id := by
  induction xs with
  | nil => rfl
  | cons x xs ih =>
    rw [List.map_cons, List.nodup_cons] at h
    by_cases hx : key x = id
    · rw [List.eraseP_cons_of_pos (by simpa using hx), List.filter_cons_of_neg (by simpa using hx),
        List.filter_eq_self.2 fun y hy => ?_]
      simpa using fun he : key y = id => h.1 (hx.trans he.symm ▸ List.mem_map_of_mem hy)
    · rw [List.eraseP_cons_of_neg (by simpa using hx), List.filter_cons_of_pos (by simpa using hx),
        ih h.2]

/-- A step that was taken for each item of a list can be taken for some of them, with the same
results. -/
theorem Outcome.mapM_filter_eq_ok {α β : Type} {f : α → Outcome β} {p : α → Bool} {q : β → Bool}
    (hstep : ∀ {x y}, f x = .ok y → q y = p x) {xs : List α} {ys : List β}
    (h : xs.mapM f = .ok ys) : (xs.filter p).mapM f = .ok (ys.filter q) := by
  induction xs generalizing ys with
  | nil =>
    cases pure_eq_ok.1 h
    rfl
  | cons x xs ih =>
    rw [List.mapM_cons] at h
    obtain ⟨y, hy, h⟩ := bind_eq_ok.1 h
    obtain ⟨rest, hrest, h⟩ := bind_eq_ok.1 h
    cases pure_eq_ok.1 h
    rw [List.filter_cons, List.filter_cons, hstep hy]
    split
    · rw [List.mapM_cons, hy, ok_bind, ih hrest]
      rfl
    · exact ih hrest

/-! ## What is left -/

namespace Flow

variable {f g : Flow} {r : Registry} {node id : String} {schemas : List NodeSchemas}
  {c : Connection} {n : Node}

/-- **What a flow is without a node.** -/
structure IsWithout (f g : Flow) (node : String) : Prop where
  /-- Nothing else is touched than the nodes and the connections. -/
  frame : g = { f with nodes := g.nodes, connections := g.connections }
  /-- All other nodes are left. -/
  nodes : g.nodes = f.nodes.filter fun n => n.id != node
  /-- All connections are left that do not touch the node, neither as their source nor as their
  target. -/
  connections : g.connections = f.connections.filter fun c => c.source != node && c.target != node

theorem isWithout_of_deleteNode (hids : (f.nodes.map Node.id).Nodup)
    (h : f.deleteNode node = .ok g) : f.IsWithout g node := by
  obtain ⟨-, rfl⟩ := deleteNode_ok h
  refine ⟨rfl, Keyed.eraseP_eq_filter node hids, ?_⟩
  refine List.filter_congr fun c _ => ?_
  rw [Connection.touches, Bool.not_or]
  rfl

/-- The node that is deleted must be there, and that is all. -/
theorem exists_deleteNode (hn : n ∈ f.nodes) : ∃ g, f.deleteNode n.id = .ok g := by
  obtain ⟨m, hm⟩ := exists_findNode? (List.mem_map_of_mem (f := Node.id) hn)
  exact ⟨_, bind_eq_ok.2 ⟨m, needNode_eq_ok.2 hm, rfl⟩⟩

/-! ## What is told of what is left -/

theorem lastNode?_of_isWithout (h : f.IsWithout g node) (hid : id ≠ node) :
    g.lastNode? id = f.lastNode? id := by
  rw [lastNode?, lastNode?, h.nodes, ← List.filter_reverse]
  exact Keyed.find?_filter.trans (if_neg hid)

theorem lastSchemas?_filter (schemas : List NodeSchemas) (hid : id ≠ node) :
    lastSchemas? (schemas.filter fun s => s.node != node) id = lastSchemas? schemas id := by
  rw [lastSchemas?, lastSchemas?, ← List.filter_reverse]
  exact Keyed.find?_filter.trans (if_neg hid)

/-- **A connection is told of by its two ends**, and by no other node. -/
theorem reportOn_of_isWithout (h : f.IsWithout g node) (hsource : c.source ≠ node)
    (htarget : c.target ≠ node) :
    g.reportOn r (schemas.filter fun s => s.node != node) c = f.reportOn r schemas c := by
  rw [reportOn, reportOn, lastNode?_of_isWithout h hsource, lastNode?_of_isWithout h htarget,
    lastSchemas?_filter schemas hsource, lastSchemas?_filter schemas htarget]

/-- **The transforms that a node leaves without an input**: something leads to them, and all of it
comes from the node. -/
def bereft (f : Flow) (r : Registry) (node : String) : List Node :=
  f.nodes.filter fun n => n.id ≠ node ∧ r.categoryOf n.type = some .transform ∧
    (∃ c ∈ f.connections, c.target = n.id) ∧ ∀ c ∈ f.connections, c.target = n.id → c.source = node

/-- A node that is left is not fed when it was not fed before, or by nobody but the node that is
gone. -/
theorem isUnfed_of_isWithout (h : f.IsWithout g node) (hn : n.id ≠ node) :
    g.isUnfed r n = true ↔ r.categoryOf n.type = some .transform ∧
      ∀ c ∈ f.connections, c.target = n.id → c.source = node := by
  rw [isUnfed_iff, h.connections]
  refine and_congr_right fun _ => ⟨fun hunfed c hc htarget => ?_, fun hall c hc htarget => ?_⟩
  · by_contra hsource
    refine hunfed c (List.mem_filter.2 ⟨hc, ?_⟩) htarget
    simpa [htarget, hn] using hsource
  · obtain ⟨hc, hkept⟩ := List.mem_filter.1 hc
    simp [hall c hc htarget] at hkept

end Flow

/-- **What a report says without a node**, compared with what it says with the node. -/
structure FlowReport.IsWithout (f : Flow) (r : Registry) (node : String)
    (report report' : FlowReport) : Prop where
  /-- It is about the same flow. -/
  flow : report'.flow = report.flow
  /-- Of every connection that is left it tells what was told before. -/
  connections : report'.connections =
    report.connections.filter fun o => o.source != node && o.target != node
  /-- Of nodes it tells what was told before, the node itself left out, and of the transforms that
  have lost all their inputs. -/
  problems : report'.problems.Perm
    ((report.problems.filter fun p => p.node != node) ++ (f.bereft r node).map Flow.problemOf)
  /-- It tells of the nodes in their order. -/
  ordered : report'.problems.Sublist (f.nodes.map Flow.problemOf)

namespace Flow

variable {f g : Flow} {r : Registry} {node : String} {report : FlowReport}

/-- A node that is left and was not fed before is not fed now. -/
theorem isUnfed_of_isUnfed {n : Node} (h : f.IsWithout g node) (hn : n.id ≠ node)
    (hunfed : f.isUnfed r n = true) : g.isUnfed r n = true := by
  obtain ⟨htransform, hnone⟩ := isUnfed_iff.1 hunfed
  exact (isUnfed_of_isWithout h hn).2
    ⟨htransform, fun c hc htarget => absurd htarget (hnone c hc)⟩

/-- **The transforms that have lost all their inputs** are those that are not fed now and were fed
before. -/
theorem bereft_of_isWithout (h : f.IsWithout g node) :
    f.bereft r node = (g.nodes.filter (g.isUnfed r)).filter fun n => !f.isUnfed r n := by
  rw [bereft, h.nodes, List.filter_filter, List.filter_filter]
  refine List.filter_congr fun n _ => ?_
  rw [Bool.eq_iff_iff]
  simp only [decide_eq_true_iff, Bool.and_eq_true, Bool.not_eq_true', bne_iff_ne]
  constructor
  · rintro ⟨hn, htransform, ⟨c, hc, htarget⟩, hall⟩
    refine ⟨⟨?_, (isUnfed_of_isWithout h hn).2 ⟨htransform, hall⟩⟩, hn⟩
    exact Bool.eq_false_iff.2 fun hunfed => (isUnfed_iff.1 hunfed).2 c hc htarget
  · rintro ⟨⟨hfed, hunfed⟩, hn⟩
    obtain ⟨htransform, hall⟩ := (isUnfed_of_isWithout h hn).1 hunfed
    refine ⟨hn, htransform, ?_, hall⟩
    by_contra hnone
    have hunfed : f.isUnfed r n = true :=
      isUnfed_iff.2 ⟨htransform, fun c hc htarget => hnone ⟨c, hc, htarget⟩⟩
    exact Bool.false_ne_true (hfed.symm.trans hunfed)

/-- **What is told of the nodes that are left**: what was told of them before, and that some have
lost all their inputs. -/
theorem problems_of_isWithout (h : f.IsWithout g node) :
    (g.problems r).Perm (((f.problems r).filter fun p => p.node != node) ++
      (f.bereft r node).map problemOf) := by
  have hbefore : ((f.problems r).filter fun p => p.node != node) =
      ((g.nodes.filter (g.isUnfed r)).filter (f.isUnfed r)).map problemOf := by
    rw [problems, List.filter_map, h.nodes, List.filter_filter, List.filter_filter,
      List.filter_filter]
    refine congrArg (List.map problemOf) (List.filter_congr fun n _ => ?_)
    rw [Bool.eq_iff_iff]
    simp only [Function.comp_apply, Bool.and_eq_true, bne_iff_ne]
    exact ⟨fun ⟨hn, hunfed⟩ => ⟨⟨hunfed, isUnfed_of_isUnfed h hn hunfed⟩, hn⟩,
      fun ⟨⟨hunfed, _⟩, hn⟩ => ⟨hn, hunfed⟩⟩
  rw [hbefore, bereft_of_isWithout h, ← List.map_append]
  exact ((List.filter_append_perm _ _).map problemOf).symm

/-- **What is left is validated as it was before.** -/
theorem exists_validate_of_isWithout (h : f.IsWithout g node)
    (hreport : f.validate r = .ok report) :
    ∃ report', g.validate r = .ok report' ∧ report.IsWithout f r node report' := by
  obtain ⟨schemas, hschemas, hreport⟩ := bind_eq_ok.1 hreport
  cases pure_eq_ok.1 hreport
  have hkept : g.nodes.mapM (fun n => n.schemas r) =
      .ok (schemas.filter fun s => s.node != node) := by
    rw [h.nodes]
    exact mapM_filter_eq_ok (fun hs => by rw [Node.node_of_schemas hs]) hschemas
  refine ⟨_, bind_eq_ok.2 ⟨_, hkept, rfl⟩, ?_, ?_, problems_of_isWithout h, ?_⟩
  · rw [h.frame]
  · dsimp only
    rw [h.connections, List.filter_map]
    refine List.map_congr_left fun c hc => ?_
    obtain ⟨-, hends⟩ := List.mem_filter.1 hc
    obtain ⟨hsource, htarget⟩ := Bool.and_eq_true_iff.1 hends
    exact reportOn_of_isWithout h (bne_iff_ne.1 hsource) (bne_iff_ne.1 htarget)
  · rw [problems, h.nodes]
    exact (List.filter_sublist.trans List.filter_sublist).map problemOf

end Flow

/-! ## The operation -/

/-- The operation that deletes a node of a flow. -/
def Operation.deleteNode (id node : String) : Operation :=
  .onFlow id (.edit (.deleteNode node))

/-- **The operation leaves exactly the rest.** It is carried out, what is loaded afterwards is the
flow without the node, saved once more, and whenever the flow could be validated with the node, it
can be without it. -/
def Operation.LeavesRest {σ : Type} [FlowStore σ] (w : Surroundings) (s : σ) (id node : String)
    (f : Flow) : Prop :=
  ∃ s' g, (deleteNode id node).run w s = .ok (s', .edited .nothing) ∧ f.IsWithout g node ∧
    FlowStore.load s' id = .ok (some (g.saved w.now)) ∧
    ∀ r report, f.validate r = .ok report →
      ∃ report', (g.saved w.now).validate r = .ok report' ∧ report.IsWithout f r node report'

/-- The operation comes down to the edit, if the store can keep the flow without the node. -/
theorem Operation.leavesRest {σ : Type} [FlowStore σ] [LawfulStore σ] {w : Surroundings} {s : σ}
    {docs : Docs} {id : String} {f : Flow} {n : Node} (hkeeps : LawfulStore.Keeps s docs)
    (hf : FlowStore.load s id = .ok (some f)) (hids : (f.nodes.map Node.id).Nodup)
    (hn : n ∈ f.nodes)
    (hcan : ∀ g, f.IsWithout g n.id → LawfulStore.Fits σ g ∧
      LawfulStore.readBack σ (g.saved w.now) = .ok (g.saved w.now)) :
    LeavesRest w s id n.id f := by
  obtain ⟨g, hg⟩ := Flow.exists_deleteNode hn
  have hwithout := Flow.isWithout_of_deleteNode hids hg
  obtain ⟨hfits, hread⟩ := hcan g hwithout
  have happly : (Edit.deleteNode n.id).apply f ⟨w.registry, w.freshId, FlowStore.siblings s f⟩ =
      .ok (g, .nothing) := bind_eq_ok.2 ⟨g, hg, rfl⟩
  obtain ⟨s', hrun⟩ := exists_run_edit hkeeps hf happly hfits
  refine ⟨s', g, hrun, hwithout, ?_, fun r report hreport => ?_⟩
  · obtain ⟨g', result, k, happly', hsave, -⟩ := (run_edit_eq_ok hf).1 hrun
    obtain ⟨rfl, -⟩ := Prod.mk.inj (Except.ok.inj (happly'.symm.trans happly))
    have hid : g'.id = f.id := by rw [hwithout.frame]
    rw [← FlowStore.id_of_load hkeeps hf, ← hid]
    exact FlowStore.load_of_save hkeeps hsave hread
  · rw [Flow.validate_saved]
    exact Flow.exists_validate_of_isWithout hwithout hreport

/-! ## Runs -/

/-- **No run gives two nodes of a flow the same id**, if it draws on fresh ids. -/
theorem Reaches.all_nodupIds {σ : Type} [FlowStore σ] [LawfulStore σ] {s : σ}
    (h : Reaches Command.AddsFresh FlowStore.empty s) :
    FlowStore.All (fun f => (f.nodes.map Node.id).Nodup) s := by
  refine h.all (fun f hf => (f.sameGraph_written.nodeIds_eq).symm ▸ hf) (fun _ _ hf => hf)
    (fun _ _ _ _ => List.nodup_nil) ?_ FlowStore.all_empty
  intro w s c f task siblings effect g hfresh hf htask hrun hg hids
  obtain ⟨e, result, rfl, he⟩ | ⟨node, v, m, hm⟩ := FlowTask.run_changed hrun hg
  · obtain hsub | ⟨hadds, hnew⟩ := (Edit.makes_of_apply he).nodeIds
    · exact hids.sublist hsub
    · rw [hnew, ← List.concat_eq_append]
      exact hids.concat (hfresh (f, e) (Command.edit?_eq_some hf htask) hadds)
  · rw [(Flow.keepSchema_ok hm).nodeIds_eq]
    exact hids

theorem Reaches.nodupIds_of_load {σ : Type} [FlowStore σ] [LawfulStore σ] {s : σ} {id : String}
    {f : Flow} (h : Reaches Command.AddsFresh FlowStore.empty s)
    (hf : FlowStore.load s id = .ok (some f)) : (f.nodes.map Node.id).Nodup :=
  FlowStore.All.of_load (P := fun f => (f.nodes.map Node.id).Nodup)
    (fun f hf => (f.sameGraph_written.nodeIds_eq).symm ▸ hf) h.all_nodupIds hf

/-- **Deleting a node leaves exactly the rest**, of any flow of a store that a run can come to with
fresh ids, whatever the node types are. All other nodes and all connections that do not touch the
node are left, in order and unchanged. If the flow could be validated before, it can be afterwards:
of the connections that are left the same is told, and of the nodes that they have the same
problems, and that each transform that was fed by nobody else has none to feed it. A table must have
room for one version more. -/
theorem leavesRest_of_reaches {w : Surroundings} {id : String} {f : Flow} {n : Node}
    (hn : n ∈ f.nodes) :
    (∀ m : Memory, Reaches Command.AddsFresh FlowStore.empty m →
      FlowStore.load m id = .ok (some f) → Operation.LeavesRest w m id n.id f) ∧
    ∀ t : Table, Reaches Command.AddsFresh FlowStore.empty t →
      FlowStore.load t id = .ok (some f) → Table.fitsColumn f.version = true →
      Operation.LeavesRest w t id n.id f := by
  constructor
  · intro m h hf
    obtain ⟨docs, hkeeps, -⟩ := h.all_nodupIds
    exact Operation.leavesRest hkeeps hf (h.nodupIds_of_load hf) hn fun _ _ => ⟨trivial, rfl⟩
  · intro t h hf hversion
    obtain ⟨docs, hkeeps, -⟩ := h.all_nodupIds
    have hkeepable : f.Keepable := by
      obtain ⟨d, -, hread⟩ := (FlowStore.load_eq_some hkeeps).1 hf
      exact Row.keepable_of_flow hread
    refine Operation.leavesRest hkeeps hf (h.nodupIds_of_load hf) hn fun g hg => ?_
    -- the nodes that are left are no harder to keep than all of them
    have hleft : g.Keepable := by
      intro k hk
      rw [hg.nodes] at hk
      exact hkeepable k (List.filter_sublist.subset hk)
    have hfits : Table.fitsColumn g.version = true := by
      rw [hg.frame]
      exact hversion
    exact ⟨⟨hleft.isWritable, hfits⟩,
      Flow.Keepable.flow_ofFlow hleft (Table.fitsWord_saved hfits w.now)⟩

/-! ### A run -/

/-- The run in which a transform was spliced in between a request and a view, in memory. -/
def sampleSpliced : Memory :=
  Command.stepAll FlowStore.empty sampleWiring

theorem reaches_sampleSpliced : Reaches Command.AddsFresh FlowStore.empty sampleSpliced := by
  refine .step (.step (.step (.step .start _ _ ?_) _ _ ?_) _ _ ?_) _ _ ?_
  all_goals decide +kernel

/-- The request is deleted: the transform has nothing left that feeds it, and is still connected
with the view. -/
theorem leavesRest_of_reaches_sampleSpliced :
    ∃ f n s' g report report', FlowStore.load sampleSpliced "flow1" = .ok (some f) ∧ n ∈ f.nodes ∧
      (Operation.deleteNode "flow1" n.id).run (numberedSurroundings "") sampleSpliced =
        .ok (s', .edited .nothing) ∧
      f.IsWithout g n.id ∧ g.edges = [("code1", "view1")] ∧
      f.validate Builtin.registry = .ok report ∧ report.problems = [] ∧
      (g.saved "").validate Builtin.registry = .ok report' ∧
      report'.problems.map NodeProblem.node = ["code1"] := by
  have hsample : ∃ f ∈ sampleSpliced.find? "flow1", ∃ n ∈ f.nodes, n.id = "api1" ∧
      ∃ report ∈ (f.validate Builtin.registry).toOption, report.problems = [] ∧
        (f.bereft Builtin.registry "api1").map Node.id = ["code1"] ∧
        (f.connections.filter fun c => c.source != "api1" && c.target != "api1").map
          (fun c => (c.source, c.target)) = [("code1", "view1")] := by
    decide +kernel
  obtain ⟨f, hf, n, hn, hid, report, hreport, hnone, hbereft, hedges⟩ := hsample
  have hload : FlowStore.load sampleSpliced "flow1" = .ok (some f) := congrArg Except.ok hf
  have hreport := mem_toOption.1 hreport
  obtain ⟨s', g, hrun, hwithout, -, hvalidate⟩ :=
    (leavesRest_of_reaches hn).1 sampleSpliced reaches_sampleSpliced hload
  obtain ⟨report', hreport', htold⟩ := hvalidate Builtin.registry report hreport
  refine ⟨f, n, s', g, report, report', hload, hn, hrun, hwithout, ?_, hreport, hnone, hreport', ?_⟩
  · rw [Flow.edges, hwithout.connections, hid]
    exact hedges
  · have htold := (htold.problems.map NodeProblem.node)
    rw [hnone, hid, List.filter_nil, List.nil_append, List.map_map] at htold
    exact List.perm_singleton.1 (hbereft ▸ htold)

end Workflow
