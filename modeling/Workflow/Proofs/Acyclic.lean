import Workflow.Proofs.Cycle
import Workflow.Proofs.Run

/-!
# No cycles

The graph of a flow has no cycle when a run begins, and it never gets one. Two edits add
connections. Connecting two nodes adds the very edge that was looked at. The splice looks at one
edge and adds two others, from the source to a new node and from there to the target; that no
path leads back is then a matter of the new node being new, and so ids must be fresh
(`Command.Fresh`).

The connections that a splice takes away play no part in the argument: it is looked for a path
after they are gone, and leaving out edges closes no cycle.
-/

namespace Workflow

open Outcome

namespace Flow

variable {f g : Flow} {s : Setting}

/-- **No directed cycle** among the connections, not even a connection of a node with itself. -/
def IsAcyclic (f : Flow) : Prop :=
  Cycle.Acyclic f.edges

theorem IsAcyclic.of_subset (h : f.IsAcyclic) (hsub : g.connections ⊆ f.connections) :
    g.IsAcyclic :=
  Cycle.Acyclic.mono h (List.map_subset _ hsub)

theorem IsAcyclic.of_sameGraph (h : f.IsAcyclic) (hg : f.SameGraph g) : g.IsAcyclic :=
  h.of_subset (hg.connections_eq ▸ List.Subset.refl _)

theorem isAcyclic_of_nil (h : f.connections = []) : f.IsAcyclic := by
  rw [IsAcyclic, edges, h]
  exact Cycle.acyclic_nil

/-- An id that a flow does not mention is at neither end of an edge. -/
theorem not_mem_edges_of_not_mentions {x : String} (h : ¬ f.Mentions x) (c : String) :
    (x, c) ∉ f.edges ∧ (c, x) ∉ f.edges := by
  constructor
  · intro hmem
    obtain ⟨d, hd, hends⟩ := List.mem_map.1 hmem
    exact h (.inr ⟨d, hd, .inl (Prod.mk.inj hends).1⟩)
  · intro hmem
    obtain ⟨d, hd, hends⟩ := List.mem_map.1 hmem
    exact h (.inr ⟨d, hd, .inr (Prod.mk.inj hends).2⟩)

theorem IsAcyclic.connect {source target : String} {sourceHandle targetHandle : Option String}
    {c : Connection} (h : f.IsAcyclic)
    (hg : f.connect s source sourceHandle target targetHandle = .ok (g, c)) : g.IsAcyclic := by
  obtain ⟨m, n, -, -, -, -, hcloses, rfl, -, rfl⟩ := connect_ok hg
  have hadded : Cycle.Acyclic (f.edges ++ [(source, target)]) :=
    Cycle.Acyclic.append h (Cycle.closes_eq_false_iff.1 hcloses)
  show Cycle.Acyclic (List.map _ (f.connections ++ [_]))
  rw [List.map_append]
  exact hadded

/-- The edges that a splice leaves are edges of the flow. -/
theorem unjoined_edges_subset (f : Flow) (source target : String) :
    ((f.unjoined source target).map fun c => (c.source, c.target)) ⊆ f.edges :=
  List.map_subset _ List.filter_sublist.subset

theorem IsAcyclic.splice {source target type : String} {position : Option (Checked Position)}
    {x : Node} {before after : Connection} (h : f.IsAcyclic) (hfresh : ¬ f.Mentions (s.freshId 1))
    (hg : f.splice s source target type position = .ok (g, x, before, after)) : g.IsAcyclic := by
  obtain ⟨m, n, t, hm, hn, -, -, hcloses, hx, -, -, -, -, -, rfl, rfl, rfl⟩ := splice_ok hg
  rw [← hx] at hfresh
  have hsub := f.unjoined_edges_subset source target
  have hadded := Cycle.Acyclic.splice (Cycle.Acyclic.mono h hsub)
    (Cycle.closes_eq_false_iff.1 hcloses)
    (fun c hc => (not_mem_edges_of_not_mentions hfresh c).1 (hsub hc))
    (fun c hc => (not_mem_edges_of_not_mentions hfresh c).2 (hsub hc))
    (ne_of_findNode? hm hfresh) (ne_of_findNode? hn hfresh)
  show Cycle.Acyclic (List.map _ (f.unjoined source target ++ [_, _]))
  rw [List.map_append]
  exact hadded

end Flow

/-! ## Fresh ids -/

/-- Whether a task adds a node. -/
def FlowTask.addsNode : FlowTask → Bool
  | .edit e => e.addsNode
  | _ => false

/-- **The ids of new nodes are fresh**: a command that adds a node to a flow finds an id for it
that neither a node nor a connection of the flow mentions. -/
def Command.Fresh {σ : Type} [FlowStore σ] (w : Surroundings) (s : σ) (c : Command) : Prop :=
  ∀ f task, FlowStore.needBy s (c.argument "flow_id") = .ok f → c.task w f = .ok task →
    task.addsNode = true → ¬ f.Mentions (w.freshId 1)

/-- **No edit closes a cycle.** -/
theorem Edit.isAcyclic {f g : Flow} {s : Setting} {e : Edit} {result : Edit.Result}
    (h : f.IsAcyclic) (hfresh : e.addsNode = true → ¬ f.Mentions (s.freshId 1))
    (happly : e.apply f s = .ok (g, result)) : g.IsAcyclic := by
  cases makes_of_apply happly with
  | addNode hg =>
    obtain ⟨rfl, -⟩ := Flow.addNode_ok hg
    exact h.of_subset (List.Subset.refl _)
  | updateNode hg => exact h.of_sameGraph (Flow.updateNode_ok hg)
  | moveNode hg => exact h.of_sameGraph (Flow.moveNode_ok hg)
  | deleteNode hg =>
    obtain ⟨-, rfl⟩ := Flow.deleteNode_ok hg
    exact h.of_subset List.filter_sublist.subset
  | connect hg => exact h.connect hg
  | disconnect hg =>
    obtain ⟨-, rfl⟩ := Flow.disconnect_ok hg
    exact h.of_subset List.filter_sublist.subset
  | splice hg => exact h.splice (hfresh rfl) hg

/-- **No run closes a cycle.** Whatever commands are given, with whatever arguments, node types
and endpoints, and whether they are carried out or refused: where no flow of the store has a
cycle and the ids of new nodes are fresh, no flow has one afterwards – as it is kept, and as it
is loaded. -/
theorem isAcyclic_of_reaches {σ : Type} [FlowStore σ] [LawfulStore σ] {s₀ s : σ}
    (h₀ : FlowStore.All Flow.IsAcyclic s₀) (h : Reaches Command.Fresh s₀ s) :
    FlowStore.All Flow.IsAcyclic s ∧
      ∀ id f, FlowStore.load s id = .ok (some f) → f.IsAcyclic := by
  have hwritten : ∀ f : Flow, f.IsAcyclic → f.written.IsAcyclic := fun _ hf => hf
  have hall : FlowStore.All Flow.IsAcyclic s := by
    refine h.all hwritten (fun _ _ hf => hf) (fun _ _ _ _ => Flow.isAcyclic_of_nil rfl) ?_ h₀
    intro w s c f task siblings effect g hfresh hf htask hrun hg hacyclic
    obtain ⟨e, result, rfl, he⟩ | ⟨node, schema, m, hm⟩ := FlowTask.run_changed hrun hg
    · refine Edit.isAcyclic hacyclic ?_ he
      exact hfresh f _ hf htask
    · exact hacyclic.of_sameGraph (Flow.keepSchema_ok hm)
  exact ⟨hall, fun id f hf => hall.of_load hwritten hf⟩

/-- A flow of two nodes, the first of them connected with the second. -/
def samplePair : Flow where
  id := "flow"
  name := "Pair"
  nodes := [
    { id := "api", type := Builtin.apiCallName, name := "Request" },
    { id := "view", type := Builtin.componentName, name := "View" }]
  connections := [{ id := "edge", source := "api", target := "view" }]
  createdAt := ""
  updatedAt := ""

/-- A store with nothing but the pair. -/
def samplePairStore : Memory where
  flows := [samplePair]

/-- The command that puts a transform between the two nodes. -/
def sampleSplice : Command where
  name := "insert_transformer"
  arguments := [("flow_id", .str "flow"), ("source_node_id", .str "api"),
    ("target_node_id", .str "view")]

/-- The built-in node types, and ids that are numbered. -/
def sampleSurroundings : Surroundings where
  registry := Builtin.registry
  freshId n := "fresh" ++ toString n
  now := ""
  endpoint _ := .timeout

theorem fresh_sampleSplice : Command.Fresh sampleSurroundings samplePairStore sampleSplice := by
  intro f task hf _ _
  have hload : FlowStore.needBy samplePairStore (sampleSplice.argument "flow_id")
      = .ok samplePair := rfl
  rw [← Except.ok.inj (hload.symm.trans hf)]
  rintro (⟨n, hn, hid⟩ | ⟨c, hc, hid⟩)
  · revert n
    decide +kernel
  · revert c
    decide +kernel

/-- The run that splices a transform into the pair: the graph has two other edges then, and no
cycle. -/
theorem isAcyclic_of_reaches_samplePair :
    FlowStore.All Flow.IsAcyclic samplePairStore ∧
      Command.Fresh sampleSurroundings samplePairStore sampleSplice ∧
      ((sampleSplice.step sampleSurroundings samplePairStore).1.flows.map Flow.edges
        = [[("api", "fresh1"), ("fresh1", "view")]]) ∧
      FlowStore.All Flow.IsAcyclic (sampleSplice.step sampleSurroundings samplePairStore).1 := by
  have hloop : ¬ Cycle.Path [] "view" "api" :=
    Cycle.closes_eq_false_iff.1 (by decide +kernel)
  have hpair : FlowStore.All Flow.IsAcyclic samplePairStore := by
    refine Memory.all_iff.2 fun f hf => ?_
    rw [List.mem_singleton.1 hf]
    exact Cycle.acyclic_nil.append hloop
  refine ⟨hpair, fresh_sampleSplice, by decide +kernel, ?_⟩
  exact (isAcyclic_of_reaches hpair (.step .start _ _ fresh_sampleSplice)).1

end Workflow
