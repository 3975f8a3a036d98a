import Workflow.Proofs.Splice

/-!
# Exactly the legal connections

That a flow keeps to its rules says that no illegal connection is ever made. It would be so as well
if no connection were made at all. This is the other half: two nodes are connected whenever the flow
with the connection in it is legal (`Flow.IsLegal`), and only then.

Most of what is asked of a flow is looked at for the new connection alone. That is enough since all
others were looked at when they were made, and since no id stands twice, so that the nodes that are
looked at are the ones that are meant. Cycles are the exception: no path is looked for but one that
leads back from the target to the source, and it takes a flow without cycles to begin with for that
to find all of them (`Cycle.acyclic_append`).

A flow that is legal must still be saved. Memory takes any; a table takes what was loaded from it
with one connection more, as long as the version has room in its column, and can read it again
(`Row.keepable_of_flow`).
-/

namespace Workflow

open Outcome

/-! ## One connection more -/

namespace Flow

variable {f g : Flow} {s : Setting} {r : Registry} {c d : Connection} {m n : Node} {id : String}

/-- **A legal flow**, as far as its connections go. -/
structure IsLegal (r : Registry) (f : Flow) : Prop where
  /-- There is no cycle, not even a connection of a node with itself. -/
  acyclic : f.IsAcyclic
  /-- No connection leads to a trigger. -/
  triggers : ∀ c ∈ f.connections, ∀ n ∈ f.nodes, n.id = c.target →
    r.categoryOf n.type ≠ some .trigger
  /-- Only interface nodes lead to a link. -/
  links : ∀ c ∈ f.connections, ∀ n ∈ f.nodes, n.id = c.target → n.type = Builtin.linkName →
    ∀ m ∈ f.nodes, m.id = c.source → r.categoryOf m.type = some .interface
  /-- No two connections have the same ends. -/
  endpoints : (f.connections.map Connection.endpoints).Nodup

/-- The flow with one connection more. -/
def extend (f : Flow) (c : Connection) : Flow :=
  { f with connections := f.connections ++ [c] }

/-- **A legal connection**: both of its ends are nodes, and the flow with it is legal. -/
structure Allows (r : Registry) (f : Flow) (c : Connection) : Prop where
  /-- The source is a node. -/
  source : c.source ∈ f.nodes.map Node.id
  /-- The target is a node. -/
  target : c.target ∈ f.nodes.map Node.id
  /-- The flow is legal with the connection in it. -/
  legal : (f.extend c).IsLegal r

theorem forall_mem_extend {P : Connection → Prop} :
    (∀ d ∈ (f.extend c).connections, P d) ↔ (∀ d ∈ f.connections, P d) ∧ P c := by
  rw [extend, List.forall_mem_append, List.forall_mem_singleton]

/-- A connection closes a cycle when a path leads back from its target to its source. -/
theorem isAcyclic_extend (h : f.IsAcyclic) :
    (f.extend c).IsAcyclic ↔ ¬ Cycle.Path f.edges c.target c.source := by
  have hedges : (f.extend c).edges = f.edges ++ [(c.source, c.target)] := List.map_append
  rw [IsAcyclic, hedges, Cycle.acyclic_append]
  exact and_iff_right h

theorem nodup_endpoints_extend (h : (f.connections.map Connection.endpoints).Nodup) :
    ((f.extend c).connections.map Connection.endpoints).Nodup ↔
      ∀ d ∈ f.connections, d.endpoints ≠ c.endpoints := by
  rw [extend, List.map_append, List.nodup_append]
  refine ⟨fun hnodup d hd => ?_, fun hnew => ⟨h, List.nodup_singleton _, fun a ha b hb => ?_⟩⟩
  · exact hnodup.2.2 _ (List.mem_map_of_mem hd) _ List.mem_cons_self
  · obtain ⟨d, hd, rfl⟩ := List.mem_map.1 ha
    rw [List.mem_singleton.1 hb]
    exact hnew d hd

/-- Where no id stands twice, a node with an id is the one that is found. -/
theorem eq_of_findNode? (hids : (f.nodes.map Node.id).Nodup) (hn : f.findNode? id = some n)
    (hm : m ∈ f.nodes) (hid : m.id = id) : m = n := by
  subst hid
  exact Option.some.inj ((findNode?_of_mem hids hm).symm.trans hn)

/-- **What is looked at for one connection** is all that can be wrong with it. -/
theorem isLegal_extend (h : f.IsWired r) (hacyclic : f.IsAcyclic)
    (hm : f.findNode? c.source = some m) (hn : f.findNode? c.target = some n) :
    (f.extend c).IsLegal r ↔ Suits r m n ∧ ¬ Cycle.Path f.edges c.target c.source ∧
      ∀ d ∈ f.connections, d.endpoints ≠ c.endpoints := by
  have hids : (f.nodes.map Node.id).Nodup := (List.nodup_append.1 h.ids).1
  constructor
  · rintro ⟨hgraph, htriggers, hlinks, hends⟩
    have htrigger := (forall_mem_extend.1 htriggers).2 n (mem_of_findNode? hn) (id_of_findNode? hn)
    have hlink := (forall_mem_extend.1 hlinks).2 n (mem_of_findNode? hn) (id_of_findNode? hn)
    exact ⟨⟨htrigger, fun htype => hlink htype m (mem_of_findNode? hm) (id_of_findNode? hm)⟩,
      (isAcyclic_extend hacyclic).1 hgraph, (nodup_endpoints_extend h.endpoints).1 hends⟩
  · rintro ⟨hsuits, hpath, hnew⟩
    refine ⟨(isAcyclic_extend hacyclic).2 hpath, forall_mem_extend.2 ⟨h.triggers, ?_⟩,
      forall_mem_extend.2 ⟨h.links, ?_⟩, (nodup_endpoints_extend h.endpoints).2 hnew⟩
    · intro k hk htarget
      rw [eq_of_findNode? hids hn hk htarget]
      exact hsuits.1
    · intro k hk htarget hlink l hl hsource
      rw [eq_of_findNode? hids hn hk htarget] at hlink
      rw [eq_of_findNode? hids hm hl hsource]
      exact hsuits.2 hlink

/-- **Two nodes are connected** when the flow with the connection is legal, and only then. What
there is then is the flow with the connection. -/
theorem connect_eq_ok (h : f.IsWired s.registry) (hacyclic : f.IsAcyclic)
    (hid : c.id = s.freshId 1) :
    f.connect s c.source c.sourceHandle c.target c.targetHandle = .ok (g, d) ↔
      f.Allows s.registry c ∧ g = f.extend c ∧ d = c := by
  have hc : c = ⟨s.freshId 1, c.source, c.sourceHandle, c.target, c.targetHandle⟩ := by rw [← hid]
  constructor
  · intro hconnect
    obtain ⟨m, n, hm, hn, hends, -, hcloses, hd, hnew, hg⟩ := connect_ok hconnect
    obtain rfl : d = c := hd.trans hc.symm
    refine ⟨⟨?_, ?_, ?_⟩, hg, rfl⟩
    · exact id_of_findNode? hm ▸ List.mem_map_of_mem (mem_of_findNode? hm)
    · exact id_of_findNode? hn ▸ List.mem_map_of_mem (mem_of_findNode? hn)
    · exact (isLegal_extend h hacyclic hm hn).2
        ⟨checkEnds_eq_ok.1 hends, Cycle.closes_eq_false_iff.1 hcloses, hnew⟩
  · rintro ⟨⟨hsource, htarget, hlegal⟩, rfl, rfl⟩
    obtain ⟨m, hm⟩ := exists_findNode? hsource
    obtain ⟨n, hn⟩ := exists_findNode? htarget
    obtain ⟨hsuits, hpath, hnew⟩ := (isLegal_extend h hacyclic hm hn).1 hlegal
    have hself : d.source ≠ d.target := fun he => hpath (he ▸ .refl)
    have hcloses := Cycle.closes_eq_false_iff.2 hpath
    unfold connect
    simp only [bind_eq_ok, refuse_eq_ok, endNode_eq_ok]
    rw [← hc]
    exact ⟨m, hm, n, hn, (), checkEnds_eq_ok.2 hsuits, hself, by simp [hcloses],
      by simpa using hnew, rfl⟩

end Flow

/-! ## The operation -/

/-- The operation that connects two nodes of a flow. -/
def Operation.connect (id source : String) (sourceHandle : Option String) (target : String)
    (targetHandle : Option String) : Operation :=
  .onFlow id (.edit (.connect source sourceHandle target targetHandle))

namespace Operation

variable {σ : Type} [FlowStore σ] {w : Surroundings} {s : σ} {id : String} {f : Flow}
  {c : Connection}

/-- **Two nodes of a flow are connected exactly when that is legal**, by a connection that is the
last one then. -/
structure ConnectsExactly (w : Surroundings) (s : σ) (id : String) (f : Flow) (c : Connection) :
    Prop where
  /-- The operation is carried out when the connection is legal, and only then. -/
  succeeds : (∃ s' reply,
      (connect id c.source c.sourceHandle c.target c.targetHandle).run w s = .ok (s', reply)) ↔
    f.Allows w.registry c
  /-- If it is, the connection is told, and what is loaded afterwards is the flow with the
  connection behind all others, saved once more. -/
  appends : ∀ s' reply,
    (connect id c.source c.sourceHandle c.target c.targetHandle).run w s = .ok (s', reply) →
      reply = .edited (.connection c) ∧
        FlowStore.load s' id = .ok (some ((f.extend c).saved w.now))

/-- The operation comes down to the edit, if the store can keep the flow with the connection. -/
theorem connectsExactly [LawfulStore σ] {docs : Docs} (hkeeps : LawfulStore.Keeps s docs)
    (hf : FlowStore.load s id = .ok (some f)) (hwired : f.IsWired w.registry)
    (hacyclic : f.IsAcyclic) (hid : c.id = w.freshId 1)
    (hfits : LawfulStore.Fits σ (f.extend c))
    (hread : LawfulStore.readBack σ ((f.extend c).saved w.now) = .ok ((f.extend c).saved w.now)) :
    ConnectsExactly w s id f c := by
  have hconnect {g : Flow} {d : Connection} := @Flow.connect_eq_ok f g
    ⟨w.registry, w.freshId, FlowStore.siblings s f⟩ c d hwired hacyclic hid
  refine ⟨⟨?_, fun hallows => ?_⟩, fun s' reply hrun => ?_⟩
  · rintro ⟨s', reply, hrun⟩
    obtain ⟨g, result, k, happly, -, -⟩ := (run_edit_eq_ok hf).1 hrun
    obtain ⟨⟨g, d⟩, hg, -⟩ := bind_eq_ok.1 happly
    exact (hconnect.1 hg).1
  · have happly : (Edit.connect c.source c.sourceHandle c.target c.targetHandle).apply f
        ⟨w.registry, w.freshId, FlowStore.siblings s f⟩ = .ok (f.extend c, .connection c) :=
      bind_eq_ok.2 ⟨_, hconnect.2 ⟨hallows, rfl, rfl⟩, rfl⟩
    obtain ⟨s', hrun⟩ := exists_run_edit hkeeps hf happly hfits
    exact ⟨s', _, hrun⟩
  · obtain ⟨g, result, k, happly, hsave, rfl⟩ := (run_edit_eq_ok hf).1 hrun
    obtain ⟨⟨g, d⟩, hg, happly⟩ := bind_eq_ok.1 happly
    cases pure_eq_ok.1 happly
    obtain ⟨-, rfl, rfl⟩ := hconnect.1 hg
    refine ⟨rfl, ?_⟩
    rw [← FlowStore.id_of_load hkeeps hf]
    exact FlowStore.load_of_save hkeeps hsave hread

end Operation

/-- **Two nodes can be connected exactly when the flow stays legal**, in any flow of a store that a
run can come to with the built-in node types and fresh ids. In memory and in a table: both ends must
be nodes, and with the connection the flow must have no cycle, no connection to a trigger, none to
a link but from an interface node, and no two with the same ends. Then the connection stands behind
all others, and nothing else is different but the version and the time. A table must have room for
one version more. -/
theorem connects_of_reaches {w : Surroundings} {id source target : String}
    {sourceHandle targetHandle : Option String} {f : Flow}
    (hregistry : w.registry = Builtin.registry) :
    (∀ m : Memory, Reaches Command.DrawsBuiltin FlowStore.empty m →
      FlowStore.load m id = .ok (some f) →
      Operation.ConnectsExactly w m id f
        ⟨w.freshId 1, source, sourceHandle, target, targetHandle⟩) ∧
    ∀ t : Table, Reaches Command.DrawsBuiltin FlowStore.empty t →
      FlowStore.load t id = .ok (some f) → Table.fitsColumn f.version = true →
      Operation.ConnectsExactly w t id f
        ⟨w.freshId 1, source, sourceHandle, target, targetHandle⟩ := by
  constructor
  · intro m h hf
    have hwired := h.isWired_of_load hf
    rw [← hregistry] at hwired
    obtain ⟨docs, hkeeps, -⟩ := h.all_isWired
    exact Operation.connectsExactly hkeeps hf hwired (h.isAcyclic_of_load hf) rfl trivial rfl
  · intro t h hf hversion
    have hwired := h.isWired_of_load hf
    rw [← hregistry] at hwired
    obtain ⟨docs, hkeeps, -⟩ := h.all_isWired
    have hkeepable : f.Keepable := by
      obtain ⟨d, -, hread⟩ := (FlowStore.load_eq_some hkeeps).1 hf
      exact Row.keepable_of_flow hread
    -- of a flow nothing counts for this but the nodes and the version, and they are the same
    refine Operation.connectsExactly hkeeps hf hwired (h.isAcyclic_of_load hf) rfl
      ⟨?_, hversion⟩ (Flow.Keepable.flow_ofFlow ?_ (Table.fitsWord_saved hversion w.now))
    · exact (show (f.extend _).Keepable from hkeepable).isWritable
    · exact hkeepable

/-- The operation that connects the pair once more, by another output of the request. -/
def sampleTripling (output : String) : Operation :=
  .connect "flow1" "api1" (some output) "view1" none

/-- The connection that comes of it. -/
def sampleThird (output : String) : Connection :=
  ⟨"third1", "api1", some output, "view1", none⟩

/-- In memory the pair is connected a third time, and in the table it is not: by an output by which
it is connected already. -/
theorem connects_of_reaches_sampleDoubled :
    (∃ f m' reply, FlowStore.load sampleDoubled "flow1" = .ok (some f) ∧
      f.Allows Builtin.registry (sampleThird "raw") ∧
      (sampleTripling "raw").run (numberedSurroundings "third") sampleDoubled = .ok (m', reply) ∧
      reply = .edited (.connection (sampleThird "raw")) ∧
      FlowStore.load m' "flow1" = .ok (some ((f.extend (sampleThird "raw")).saved ""))) ∧
    ∃ f, FlowStore.load sampleDoubledRows "flow1" = .ok (some f) ∧
      Table.fitsColumn f.version = true ∧ ¬ f.Allows Builtin.registry (sampleThird "error") := by
  have hregistry : (numberedSurroundings "third").registry = Builtin.registry := rfl
  constructor
  · have hsample : (sampleDoubled.find? "flow1").isSome = true := by decide +kernel
    obtain ⟨f, hf⟩ := Option.isSome_iff_exists.1 hsample
    have hload : FlowStore.load sampleDoubled "flow1" = .ok (some f) := congrArg Except.ok hf
    have hsome : ((sampleTripling "raw").run (numberedSurroundings "third")
        sampleDoubled).toOption.isSome = true := by
      decide +kernel
    obtain ⟨⟨m', reply⟩, hrun⟩ := Option.isSome_iff_exists.1 hsome
    have hrun := mem_toOption.1 hrun
    have hconnects : Operation.ConnectsExactly (numberedSurroundings "third") sampleDoubled
        "flow1" f (sampleThird "raw") :=
      (connects_of_reaches hregistry).1 sampleDoubled reaches_sampleDoubled hload
    obtain ⟨hreply, hafter⟩ := hconnects.appends m' reply hrun
    exact ⟨f, m', reply, hload, hconnects.succeeds.1 ⟨m', reply, hrun⟩, hrun, hreply, hafter⟩
  · have hsample : ∃ found ∈ (FlowStore.load sampleDoubledRows "flow1").toOption,
        ∃ f ∈ found, Table.fitsColumn f.version = true := by
      decide +kernel
    obtain ⟨found, hfound, f, hf, hversion⟩ := hsample
    obtain rfl : found = some f := hf
    have hload := mem_toOption.1 hfound
    have hnone : ((sampleTripling "error").run (numberedSurroundings "third")
        sampleDoubledRows).toOption.isSome = false := by
      decide +kernel
    have hconnects : Operation.ConnectsExactly (numberedSurroundings "third") sampleDoubledRows
        "flow1" f (sampleThird "error") :=
      (connects_of_reaches hregistry).2 sampleDoubledRows reaches_sampleDoubledRows hload hversion
    refine ⟨f, hload, hversion, fun hallows => ?_⟩
    obtain ⟨t', reply, hrun⟩ := hconnects.succeeds.2 hallows
    have hrun : (sampleTripling "error").run (numberedSurroundings "third") sampleDoubledRows =
      .ok (t', reply) := hrun
    rw [hrun] at hnone
    cases hnone

end Workflow
