import Workflow.Proofs.Renaming

/-!
# Names and slugs

In a flow no two nodes have the same name, and no two have the same slug. A slug is made from a
name, but names that differ may come down to the same slug, and a slug stays as it is when another
node goes whose slug was the reason for its number. So neither law follows from the other.

There are three edits that give names. A new node and a node that is renamed are refused a name that
another node has, and a splice gives its transform the first number that makes a name of its title.
All three make the slug different from those that are taken. For a node that is renamed those are
the slugs of the nodes with *another id*, so that two nodes with one id could end up with one slug,
and that the ids of nodes are different has to be part of what is kept (`Flow.IsNamed`).
-/

namespace Workflow

open Outcome

/-- What a node is called: by its id, by its name and by its slug. -/
def Node.calls (n : Node) : String × String × Option String :=
  (n.id, n.name, n.slug)

namespace Flow

variable {f g : Flow} {s : Setting} {n m : Node}

/-- **All nodes have names and slugs of their own**, and ids. -/
structure IsNamed (f : Flow) : Prop where
  /-- No two nodes have the same id. -/
  ids : (f.nodes.map Node.id).Nodup
  /-- No two nodes have the same name. -/
  names : (f.nodes.map Node.name).Nodup
  /-- No two nodes have the same slug. -/
  slugs : (f.nodes.map Node.slug).Nodup
  /-- Every node has a slug. -/
  slugged : ∀ n ∈ f.nodes, ∃ slug, n.slug = some slug ∧ slug ≠ ""

theorem mem_slugsExcept {slug : String} {id : Option String} :
    slug ∈ f.slugsExcept id ↔
      ∃ n ∈ f.nodes, some n.id ≠ id ∧ n.slug = some slug ∧ slug ≠ "" := by
  simp [slugsExcept, and_assoc]

/-- A slug that was made for a node is not that of any of the nodes that were looked at. -/
theorem ne_slug {id : Option String} (hm : m ∈ f.nodes) (hid : some m.id ≠ id) (name : String) :
    m.slug ≠ some (Naming.slug name (f.slugsExcept id)) := fun hslug =>
  Naming.slug_not_mem name _
    (mem_slugsExcept.2 ⟨m, hm, hid, hslug, (Naming.isIdentifier_slug name _).1⟩)

/-- **The name that a splice makes up** is not that of a node. -/
theorem freeName_not_mem (f : Flow) (title : String) : f.freeName title ∉ f.nodes.map Node.name := by
  have h := Naming.firstFree_not_mem (Naming.append_toString_injective (title ++ " "))
    (f.nodes.map Node.name) 1
  rwa [List.length_map] at h

/-! ## Changes of the list of nodes -/

theorem exists_calls (hg : g.nodes.map Node.calls = f.nodes.map Node.calls) (hn : n ∈ g.nodes) :
    ∃ m ∈ f.nodes, m.id = n.id ∧ m.name = n.name ∧ m.slug = n.slug := by
  obtain ⟨m, hm, hcalls⟩ := List.mem_map.1 (hg ▸ List.mem_map_of_mem hn)
  obtain ⟨hid, hrest⟩ := Prod.mk.inj hcalls
  obtain ⟨hname, hslug⟩ := Prod.mk.inj hrest
  exact ⟨m, hm, hid, hname, hslug⟩

/-- Where nodes are called the same, the laws are the same. -/
theorem IsNamed.of_calls (h : f.IsNamed) (hg : g.nodes.map Node.calls = f.nodes.map Node.calls) :
    g.IsNamed := by
  have hpart : ∀ {α : Type} (p : String × String × Option String → α),
      (f.nodes.map (p ∘ Node.calls)).Nodup → (g.nodes.map (p ∘ Node.calls)).Nodup := by
    intro α p hp
    rwa [← List.map_map, hg, List.map_map]
  refine ⟨hpart Prod.fst h.ids, hpart (·.2.1) h.names, hpart (·.2.2) h.slugs, fun n hn => ?_⟩
  obtain ⟨m, hm, -, -, hslug⟩ := exists_calls hg hn
  exact hslug ▸ h.slugged m hm

theorem isNamed_of_nil (h : f.nodes = []) : f.IsNamed := by
  constructor <;> simp [h]

theorem IsNamed.sublist (h : f.IsNamed) (hg : g.nodes.Sublist f.nodes) : g.IsNamed where
  ids := h.ids.sublist (hg.map _)
  names := h.names.sublist (hg.map _)
  slugs := h.slugs.sublist (hg.map _)
  slugged n hn := h.slugged n (hg.subset hn)

/-- **A new node** has an id and a name that no node has, and a slug that was made for it. -/
theorem IsNamed.append (h : f.IsNamed) (hid : n.id ∉ f.nodes.map Node.id)
    (hname : n.name ∉ f.nodes.map Node.name) (hslug : n.slug = some (Naming.slug n.name f.slugs))
    (hg : g.nodes = f.nodes ++ [n]) : g.IsNamed := by
  have hfree : n.slug ∉ f.nodes.map Node.slug := by
    intro hmem
    obtain ⟨m, hm, heq⟩ := List.mem_map.1 hmem
    have hid : some m.id ≠ none := nofun
    exact ne_slug hm hid n.name (heq.trans hslug)
  have hnodup : ∀ {α : Type} {p : Node → α}, (f.nodes.map p).Nodup → p n ∉ f.nodes.map p →
      (g.nodes.map p).Nodup := by
    intro α p hp hn
    rw [hg, List.map_append, List.map_singleton, ← List.concat_eq_append]
    exact hp.concat hn
  refine ⟨hnodup h.ids hid, hnodup h.names hname, hnodup h.slugs hfree, fun m hm => ?_⟩
  rw [hg, List.mem_append, List.mem_singleton] at hm
  obtain hm | rfl := hm
  · exact h.slugged m hm
  · exact ⟨_, hslug, (Naming.isIdentifier_slug _ _).1⟩

/-- What is different for all nodes stays so when a node is replaced, if the node that is put in is
different from those with another id. -/
theorem nodup_map_replaceIn {α : Type} {p : Node → α} {ns : List Node}
    (hids : (ns.map Node.id).Nodup) (hp : (ns.map p).Nodup)
    (hother : ∀ k ∈ ns, k.id ≠ n.id → p k ≠ p n) : ((replaceIn n ns).map p).Nodup := by
  induction ns with
  | nil => exact .nil
  | cons k ns ih =>
    rw [List.map_cons, List.nodup_cons] at hids hp
    have hlater := fun m hm => hother m (List.mem_cons_of_mem k hm)
    unfold replaceIn
    split
    · next hk =>
      -- the others have another id, since no id stands twice
      refine List.nodup_cons.2 ⟨fun hmem => ?_, hp.2⟩
      obtain ⟨m, hm, heq⟩ := List.mem_map.1 hmem
      exact hlater m hm (fun hid => hids.1 (hk ▸ hid ▸ List.mem_map_of_mem hm)) heq
    · next hk =>
      refine List.nodup_cons.2 ⟨fun hmem => ?_, ih hids.2 hp.2 hlater⟩
      obtain ⟨m, hm, heq⟩ := List.mem_map.1 hmem
      obtain rfl | hm := mem_of_mem_replaceIn hm
      · exact hother k List.mem_cons_self hk heq.symm
      · exact hp.1 (heq ▸ List.mem_map_of_mem hm)

/-- **A node that is put in the place of another one** may have another name and another slug, if no
node with another id has them. -/
theorem IsNamed.replaceNode (h : f.IsNamed)
    (hother : ∀ k ∈ f.nodes, k.id ≠ n.id → k.name ≠ n.name ∧ k.slug ≠ n.slug)
    (hslug : ∃ slug, n.slug = some slug ∧ slug ≠ "") : (f.replaceNode n).IsNamed where
  ids := nodup_map_replaceIn h.ids h.ids fun _ _ hid => hid
  names := nodup_map_replaceIn h.ids h.names fun k hk hid => (hother k hk hid).1
  slugs := nodup_map_replaceIn h.ids h.slugs fun k hk hid => (hother k hk hid).2
  slugged m hm := by
    obtain rfl | hm := mem_of_mem_replaceIn hm
    · exact hslug
    · exact h.slugged m hm

/-- A node in the place of one that is called the same. -/
theorem IsNamed.replaceNode_of_calls {id : String} (h : f.IsNamed) (hn : f.findNode? id = some n)
    (hm : m.calls = n.calls) : (f.replaceNode m).IsNamed := by
  refine h.of_calls (map_replaceIn Node.calls fun k hk => ?_)
  have hid : m.id = id := (congrArg Prod.fst hm).trans (id_of_findNode? hn)
  rw [hid] at hk
  obtain rfl : k = n := Option.some.inj (hk.symm.trans hn)
  exact hm.symm

theorem calls_redirected (n : Node) (old new : String) : (n.redirected old new).calls = n.calls := by
  unfold Node.redirected
  split <;> rfl

theorem calls_following (f : Flow) (id old new : String) :
    (f.following id old new).nodes.map Node.calls = f.nodes.map Node.calls := by
  unfold following
  split
  · rw [redirect, List.map_map]
    refine List.map_congr_left fun n _ => ?_
    show (if n.id = id then n else n.redirected old new).calls = n.calls
    split
    · rfl
    · exact calls_redirected n old new
  · rfl

/-! ## Edits -/

/-- **No edit takes a name or a slug twice**, if the ids of new nodes are fresh. -/
theorem IsNamed.of_makes {e : Edit} (h : f.IsNamed)
    (hfresh : e.addsNode = true → s.freshId 1 ∉ f.nodes.map Node.id) (hg : e.Makes f s g) :
    g.IsNamed := by
  cases hg with
  | addNode hg =>
    obtain ⟨rfl, hid, -, rfl, hslug, hname, -⟩ := addNode_ok hg
    exact h.append (hid ▸ hfresh rfl) (by simpa using hname) hslug rfl
  | @updateNode _ _ m hg =>
    obtain ⟨n, hn, hid, ⟨hname, hslug, rfl⟩ | ⟨hname, new, rfl, hslug, rfl⟩⟩ := updateNode_slug hg
    · exact h.replaceNode_of_calls hn (by rw [Node.calls, hid, hname, hslug, Node.calls])
    · have hcalls := f.calls_following n.id (n.slug.getD "")
        (Naming.slug m.name (f.slugsExcept (some n.id)))
      refine (h.of_calls hcalls).replaceNode (fun k hk hne => ?_)
        ⟨_, hslug, (Naming.isIdentifier_slug _ _).1⟩
      obtain ⟨k', hk', hkid, hkname, hkslug⟩ := exists_calls hcalls hk
      have hne : k'.id ≠ n.id := by rwa [hkid, ← hid]
      rw [← hkname, ← hkslug, hslug]
      exact ⟨hname k' hk' hne, ne_slug hk' (fun heq => hne (Option.some.inj heq)) _⟩
  | moveNode hg =>
    obtain ⟨n, place, hn, -, rfl, rfl⟩ := moveNode_inv hg
    exact h.replaceNode_of_calls hn rfl
  | deleteNode hg =>
    obtain ⟨-, rfl⟩ := deleteNode_ok hg
    exact h.sublist List.eraseP_sublist
  | connect hg =>
    obtain ⟨-, -, -, -, -, -, -, -, -, rfl⟩ := connect_ok hg
    exact h.sublist (.refl _)
  | disconnect hg =>
    obtain ⟨-, rfl⟩ := disconnect_ok hg
    exact h.sublist (.refl _)
  | splice hg =>
    obtain ⟨-, -, t, -, -, -, -, -, hid, -, ⟨title, -, hname⟩, hslug, -, -, -, -, rfl⟩ :=
      splice_ok hg
    exact h.append (hid ▸ hfresh rfl) (hname ▸ f.freeName_not_mem _) hslug rfl

end Flow

/-! ## Fresh ids -/

/-- **The id of a new node is fresh**: a command that adds a node to a flow finds an id for it that
no node of the flow has. -/
def Command.AddsFresh {σ : Type} [FlowStore σ] (w : Surroundings) (s : σ) (c : Command) : Prop :=
  ∀ p ∈ c.edit? w s, p.2.addsNode = true → w.freshId 1 ∉ p.1.nodes.map Node.id

instance {σ : Type} [FlowStore σ] (w : Surroundings) (s : σ) (c : Command) :
    Decidable (c.AddsFresh w s) :=
  inferInstanceAs (Decidable (∀ p ∈ c.edit? w s, _))

/-! ## Runs -/

/-- **No run takes a name or a slug twice.** Whatever commands are given to a store without flows,
with whatever arguments and node types, and whether they are carried out or refused: where the ids
of new nodes are fresh, the nodes of every flow have names and slugs of their own – as the flow is
kept, and as it is loaded. -/
theorem isNamed_of_reaches {σ : Type} [FlowStore σ] [LawfulStore σ] {s : σ}
    (h : Reaches Command.AddsFresh FlowStore.empty s) :
    FlowStore.All Flow.IsNamed s ∧
      ∀ id f, FlowStore.load s id = .ok (some f) → f.IsNamed := by
  have hwritten : ∀ f : Flow, f.IsNamed → f.written.IsNamed := fun f hf =>
    hf.of_calls (by rw [Flow.written, List.map_map]; rfl)
  have hall : FlowStore.All Flow.IsNamed s := by
    refine h.all hwritten (fun _ _ hf => hf.of_calls rfl)
      (fun _ _ _ _ => Flow.isNamed_of_nil rfl) ?_ FlowStore.all_empty
    intro w s c f task siblings effect g hfresh hf htask hrun hg hnamed
    obtain ⟨e, result, rfl, he⟩ | ⟨node, schema, m, hm⟩ := FlowTask.run_changed hrun hg
    · exact hnamed.of_makes (hfresh (f, e) (Command.edit?_eq_some hf htask))
        (Edit.makes_of_apply he)
    · obtain ⟨n, hn, rfl, rfl⟩ := Flow.keepSchema_inv hm
      exact hnamed.replaceNode_of_calls hn rfl
  exact ⟨hall, fun id f hf => hall.of_load hwritten hf⟩

/-! ### A run -/

/-- A run that adds two nodes whose names come down to the same slug, splices a transform between
them, gives both nodes names that the next transform could have got, and splices again. -/
def sampleNames : List (Surroundings × Command) := [
  (numberedSurroundings "flow", ⟨"create_flow", [("name", .str "Pair")]⟩),
  (numberedSurroundings "api", ⟨"add_node", [("flow_id", .str "flow1"),
    ("node_type", .str Builtin.apiCallName), ("name", .str "Fetch")]⟩),
  (numberedSurroundings "view", ⟨"add_node", [("flow_id", .str "flow1"),
    ("node_type", .str Builtin.componentName), ("name", .str "Fetch!")]⟩),
  (numberedSurroundings "first", ⟨"insert_transformer", [("flow_id", .str "flow1"),
    ("source_node_id", .str "api1"), ("target_node_id", .str "view1")]⟩),
  (numberedSurroundings "", ⟨"update_node", [("flow_id", .str "flow1"),
    ("node_id", .str "api1"), ("name", .str "Code Transform 2")]⟩),
  (numberedSurroundings "", ⟨"update_node", [("flow_id", .str "flow1"),
    ("node_id", .str "view1"), ("name", .str "code transform 2")]⟩),
  (numberedSurroundings "second", ⟨"insert_transformer", [("flow_id", .str "flow1"),
    ("source_node_id", .str "api1"), ("target_node_id", .str "view1")]⟩)]

/-- The run of seven commands: the four nodes have names and slugs of their own. -/
theorem isNamed_of_reaches_sampleNames :
    ((Command.stepAll FlowStore.empty sampleNames : Memory).flows.map
      fun f => f.nodes.map Node.calls) = [[
        ("api1", "Code Transform 2", some "code_transform_2"),
        ("view1", "code transform 2", some "code_transform_2_2"),
        ("first1", "Code Transform 1", some "code_transform_1"),
        ("second1", "Code Transform 3", some "code_transform_3")]] ∧
      FlowStore.All Flow.IsNamed (Command.stepAll FlowStore.empty sampleNames : Memory) := by
  refine ⟨by decide +kernel, (isNamed_of_reaches ?_).1⟩
  refine .step (.step (.step (.step (.step (.step (.step .start _ _ ?_) _ _ ?_) _ _ ?_) _ _ ?_)
    _ _ ?_) _ _ ?_) _ _ ?_
  all_goals decide +kernel

end Workflow
