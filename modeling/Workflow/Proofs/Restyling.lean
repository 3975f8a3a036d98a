import Workflow.Proofs.FlowReport
import Workflow.Proofs.Readable
import Workflow.Proofs.Renaming
import Workflow.Proofs.Shown

/-!
# New names and places

Whoever renames a node or moves it does not expect the flow to work better or worse afterwards. But
a new name is written into parameters: into the addresses and the headers of the API calls that
refer to the node, and into the tool name of a trigger. And what nodes take and give is read from
parameters. The keys that are read (`Node.schemaKeys`) are not among those that are written,
whatever the node types are, as long as they have no rules but those that come with the program
(`Registry.HasUsualRules`). So every node is resolved as it was before
(`Node.ResolvesAs.schemas_eq`).

The rest of a report is about the graph, which stays as it is. So the whole report is the one that
there was before, but for the name under which a transform without an input is told
(`Flow.validate_of_isRestyled`).
-/

namespace Workflow

open Outcome

/-! ## What nodes are resolved from -/

/-- **The parameters that say what a node takes and gives**: what a trigger declares, the schema of
what a node gives, and that of what a component takes. -/
def Node.schemaKeys : List String := ["parameters", SchemaRule.outputKey, "input_schema"]

namespace SchemaRule

variable {es es' : Entries Json}

/-- **The rules that come with the program.** -/
inductive IsUsual : SchemaRule → Prop
  /-- The schema that is cached. -/
  | stored : IsUsual stored
  /-- The output of a trigger. -/
  | trigger : IsUsual trigger
  /-- The output of an API call. -/
  | apiCall : IsUsual apiCall
  /-- No schema. -/
  | nothing : IsUsual nothing

theorem cached_congr {key : String} (h : Entries.get? es' key = Entries.get? es key) :
    cached es' key = cached es key := by
  rw [cached, cached, h]

/-- No such rule reads any other parameters. -/
theorem IsUsual.congr {rule : SchemaRule} (hrule : rule.IsUsual)
    (h : ∀ key ∈ Node.schemaKeys, Entries.get? es' key = Entries.get? es key) :
    rule es' = rule es := by
  cases hrule with
  | stored => rw [SchemaRule.stored, SchemaRule.stored, cached_congr (h outputKey (by decide))]
  | trigger => rw [SchemaRule.trigger, SchemaRule.trigger, h "parameters" (by decide)]
  | apiCall | nothing => rfl

theorem side_congr {rule : Option SchemaRule} (hrule : ∀ r ∈ rule, r.IsUsual)
    (h : ∀ key ∈ Node.schemaKeys, Entries.get? es' key = Entries.get? es key)
    (fixed : Option Schema) : side rule fixed es' = side rule fixed es := by
  cases rule with
  | none => rfl
  | some r => exact (hrule r rfl).congr h

end SchemaRule

/-- **A registry without rules of its own**: whatever is computed from parameters is computed by the
rules that come with the program. -/
def Registry.HasUsualRules (r : Registry) : Prop :=
  ∀ t ∈ r.types, (∀ rule ∈ t.inputRule, rule.IsUsual) ∧ ∀ rule ∈ t.outputRule, rule.IsUsual

theorem Builtin.hasUsualRules_registry : registry.HasUsualRules := by
  intro t ht
  simp only [registry, List.mem_cons, List.not_mem_nil, or_false] at ht
  rcases ht with rfl | rfl | rfl | rfl | rfl | rfl | rfl <;> constructor <;> rintro rule ⟨⟩
  · exact .trigger
  · exact .apiCall
  · exact .stored

namespace Node

variable {n m : Node}

/-- **Two nodes that are resolved from the same**: they have the same id, the same type, and the
same parameters among those that say what a node takes and gives. -/
structure ResolvesAs (n m : Node) : Prop where
  /-- The ids. -/
  id : m.id = n.id
  /-- The types. -/
  type : m.type = n.type
  /-- The parameters. -/
  parameters : ∀ key ∈ schemaKeys, Entries.get? m.parameters key = Entries.get? n.parameters key

/-- **Nothing else matters** for what a node takes and gives. -/
theorem ResolvesAs.schemas_eq {r : Registry} (h : n.ResolvesAs m) (hr : r.HasUsualRules) :
    m.schemas r = n.schemas r := by
  have hsides (input output : Option Schema) :
      m.withSides input output = n.withSides input output := by
    rw [withSides, withSides, h.id, h.type]
  have hdeclared := h.parameters "parameters" (by decide)
  have houtput := SchemaRule.cached_congr (h.parameters SchemaRule.outputKey (by decide))
  have hinput := SchemaRule.cached_congr (h.parameters "input_schema" (by decide))
  have htrigger : m.triggerSchemas = n.triggerSchemas := by
    simp only [triggerSchemas, hdeclared, hsides]
  have hcall (type : NodeType) : m.apiCallSchemas type = n.apiCallSchemas type := by
    simp only [apiCallSchemas, houtput, hsides, h.id, h.type]
  have hcomponent : m.componentSchemas = n.componentSchemas := by
    simp only [componentSchemas, hinput, hsides]
  have hother (type : NodeType) (htype : type ∈ r.types) :
      m.typeSchemas type = n.typeSchemas type := by
    simp only [typeSchemas, SchemaRule.side_congr (hr type htype).1 h.parameters,
      SchemaRule.side_congr (hr type htype).2 h.parameters, hsides]
  simp only [schemas, h.type]
  split
  · exact congrArg Except.ok (hsides _ _)
  · next type htype =>
    simp only [htrigger, hcall, hcomponent, hother type (List.mem_of_find?_eq_some htype)]

/-- Another name or another place does not change what a node is resolved from. -/
theorem resolvesAs_of_parameters (hid : m.id = n.id) (htype : m.type = n.type)
    (h : m.parameters = n.parameters) : n.ResolvesAs m :=
  ⟨hid, htype, fun key _ => by rw [h]⟩

/-- **Redirected references** stand at none of the keys that nodes are resolved from. -/
theorem resolvesAs_redirected (n : Node) (old new : String) :
    n.ResolvesAs (n.redirected old new) := by
  refine ⟨Flow.redirected_id n old new, Flow.redirected_type n old new, fun key hkey => ?_⟩
  have hdisjoint : ∀ key ∈ schemaKeys, key ≠ "headers" ∧ key ≠ "url" := by decide
  obtain ⟨hheaders, hurl⟩ := hdisjoint key hkey
  unfold redirected
  split
  · exact (get?_adjust key).trans ((if_neg hheaders).trans
      ((get?_adjust key).trans (if_neg hurl)))
  · rfl

/-- Nor does **a tool name**. -/
theorem get?_put_toolNameKey {es : Entries Json} {v : Json} :
    ∀ key ∈ schemaKeys, Entries.get? (Entries.put es toolNameKey v) key = Entries.get? es key := by
  have hdisjoint : ∀ key ∈ schemaKeys, key ≠ toolNameKey := by decide
  exact fun key hkey => Entries.get?_put_ne es v (hdisjoint key hkey)

end Node

/-! ## Reports -/

namespace Outcome

variable {α β γ : Type}

end Outcome

/-- A node that is told under another name. -/
def NodeProblem.rename (node name : String) (p : NodeProblem) : NodeProblem :=
  if p.node = node then { p with name } else p

/-- A report that tells of a node under another name. -/
def FlowReport.rename (node name : String) (report : FlowReport) : FlowReport :=
  { report with problems := report.problems.map (NodeProblem.rename node name) }

namespace NodeProblem

variable (node name : String) (p : NodeProblem)

@[simp] theorem rename_node : (p.rename node name).node = p.node := by
  unfold rename
  split <;> rfl

@[simp] theorem rename_type : (p.rename node name).type = p.type := by
  unfold rename
  split <;> rfl

end NodeProblem

/-- It does not matter how the problems are told. -/
theorem FlowStatus.ofSummary_map (summary : Summary) (problems : List NodeProblem)
    (tell : NodeProblem → NodeProblem) :
    ofSummary summary (problems.map tell) = ofSummary summary problems := by
  simp only [ofSummary, ne_eq, List.map_eq_nil_iff]

namespace Flow

variable {f g k : Flow} {s : Setting} {m n : Node} {id : String} {r : Registry}

/-! ### What a report depends on -/

/-- The check of a pair needs no more of the two nodes than their types. -/
theorem checkPair_congr {source target source' target' : Option Node}
    {producer consumer : Option Schema} (hs : source'.map Node.type = source.map Node.type)
    (ht : target'.map Node.type = target.map Node.type) :
    checkPair r source' target' producer consumer =
      checkPair r source target producer consumer := by
  have hcategory (x : Option Node) :
      (x.bind fun n => r.categoryOf n.type) = (x.map Node.type).bind r.categoryOf := by
    cases x <;> rfl
  have hlink (x : Option Node) : (x.any fun n => n.type == Builtin.linkName) =
      (x.map Node.type).any (· == Builtin.linkName) := by
    cases x <;> rfl
  simp only [checkPair, hcategory, hlink, hs, ht]

/-- In the same graph the last node with an id is of the same type. -/
theorem SameGraph.lastNode?_type (h : f.SameGraph g) (id : String) :
    (g.lastNode? id).map Node.type = (f.lastNode? id).map Node.type := by
  have key (k : Flow) : (k.lastNode? id).map Node.type =
      ((k.nodes.map fun n => (n.id, n.type)).reverse.find? (·.1 == id)).map Prod.snd := by
    rw [lastNode?, ← List.map_reverse, List.find?_map, Option.map_map]
    rfl
  rw [key, key, h.2]

/-- What is told of the nodes, by what could be told of each of them. -/
theorem problems_eq_filter (f : Flow) (r : Registry) :
    f.problems r = (f.nodes.map problemOf).filter fun p =>
      r.categoryOf p.type == some .transform && !f.connections.any fun c => c.target == p.node := by
  rw [problems, List.filter_map]
  rfl

/-! ### The same report -/

/-- **What a flow is when a node has got another name or another place.** -/
structure IsRestyled (f g : Flow) (m : Node) : Prop where
  /-- The graph is the same. -/
  graph : f.SameGraph g
  /-- The node is there. -/
  mem : m ∈ g.nodes
  /-- All nodes are resolved as they were. -/
  schemas {r : Registry} : r.HasUsualRules →
    (g.nodes.map fun n => n.schemas r) = f.nodes.map fun n => n.schemas r
  /-- The node is called by its name, and all others as they were. -/
  problems : g.nodes.map problemOf = (f.nodes.map problemOf).map (NodeProblem.rename m.id m.name)

theorem problems_of_isRestyled (h : f.IsRestyled g m) (r : Registry) :
    g.problems r = (f.problems r).map (NodeProblem.rename m.id m.name) := by
  rw [problems_eq_filter, problems_eq_filter, h.problems, List.filter_map, h.graph.connections_eq]
  simp only [Function.comp_def, NodeProblem.rename_node, NodeProblem.rename_type]

/-- **The report is the same**, but for the name of the node. -/
theorem validate_of_isRestyled (h : f.IsRestyled g m) (hr : r.HasUsualRules) :
    g.validate r = (f.validate r).map (FlowReport.rename m.id m.name) := by
  have hpair (schemas : List NodeSchemas) (c : Connection) :
      g.reportOn r schemas c = f.reportOn r schemas c := by
    simp only [reportOn, checkPair_congr (h.graph.lastNode?_type c.source)
      (h.graph.lastNode?_type c.target)]
  rw [validate, validate, mapM_congr_map (h.schemas hr)]
  cases f.nodes.mapM fun n => n.schemas r with
  | error failure => rfl
  | ok schemas =>
    simp only [ok_bind, h.graph.id_eq, h.graph.connections_eq, problems_of_isRestyled h,
      funext (hpair schemas), FlowStatus.ofSummary_map]
    rfl

/-! ### The edits -/

theorem RedirectedTo.findNode? (h : f.RedirectedTo n.id k) (hn : f.findNode? id = some n) :
    k.findNode? id = some n := by
  obtain rfl | ⟨old, new, rfl⟩ := h
  · exact hn
  · rw [findNode?_redirect, hn, Option.map_some, if_pos rfl]

/-- What redirected references do not change is the same for all nodes. -/
theorem RedirectedTo.map_nodes {α : Type} {p : Node → α} (h : f.RedirectedTo id k)
    (hp : ∀ n old new, p (n.redirected old new) = p n) : k.nodes.map p = f.nodes.map p := by
  obtain rfl | ⟨old, new, rfl⟩ := h
  · rfl
  · rw [redirect, List.map_map]
    refine List.map_congr_left fun n _ => ?_
    show p (if n.id = id then n else n.redirected old new) = p n
    split
    · rfl
    · exact hp n old new

theorem problemOf_redirected (n : Node) (old new : String) :
    problemOf (n.redirected old new) = problemOf n := by
  unfold Node.redirected
  split <;> rfl

/-- **A node in the place of one that is resolved from the same**, where references may have been
redirected before. -/
theorem isRestyled_replaceNode (hids : (f.nodes.map Node.id).Nodup) (hk : f.RedirectedTo n.id k)
    (hn : f.findNode? id = some n) (hm : n.ResolvesAs m) : f.IsRestyled (k.replaceNode m) m := by
  have hn : k.findNode? m.id = some n := by
    rw [hm.id, id_of_findNode? hn]
    exact hk.findNode? hn
  have hgraph := hk.sameGraph.trans (sameGraph_replaceNode hn hm.id hm.type)
  have hmem : m ∈ (k.replaceNode m).nodes := mem_of_findNode? (findNode?_replaceNode hn rfl)
  refine ⟨hgraph, hmem, fun {r} hr => ?_, ?_⟩
  · have hplaced : ((k.replaceNode m).nodes.map fun n => n.schemas r) =
        k.nodes.map fun n => n.schemas r :=
      map_replaceIn _ fun j hj => by
        obtain rfl := Option.some.inj (hj.symm.trans hn)
        exact (hm.schemas_eq hr).symm
    rw [hplaced, hk.map_nodes fun n old new => (n.resolvesAs_redirected old new).schemas_eq hr]
  · -- with the name of the node given to all nodes with its id, nothing is left to tell apart
    have hself : (k.replaceNode m).nodes.map problemOf =
        (k.replaceNode m).nodes.map fun n => (problemOf n).rename m.id m.name := by
      refine List.map_congr_left fun j hj => ?_
      rw [NodeProblem.rename]
      split
      · next hid =>
        obtain rfl := List.inj_on_of_nodup_map (hgraph.nodeIds_eq ▸ hids) hj hmem hid
        rfl
      · rfl
    have hplaced : ((k.replaceNode m).nodes.map fun n => (problemOf n).rename m.id m.name) =
        k.nodes.map fun n => (problemOf n).rename m.id m.name :=
      map_replaceIn _ fun j hj => by
        obtain rfl := Option.some.inj (hj.symm.trans hn)
        simp [NodeProblem.rename, problemOf, hm.id, hm.type]
    rw [hself, hplaced, hk.map_nodes fun n old new => by rw [problemOf_redirected], List.map_map]
    rfl

/-- **A node that is renamed** is resolved from the same as before. -/
theorem UpdatedParameters.resolvesAs {update : NodeUpdate} (hid : m.id = n.id)
    (htype : m.type = n.type) (hnone : update.parameters = none)
    (h : f.UpdatedParameters s n update m.parameters) : n.ResolvesAs m := by
  have hoverlaid : update.overlaid n = n := by rw [NodeUpdate.overlaid, hnone]
  unfold UpdatedParameters at h
  rw [hoverlaid] at h
  split at h
  · unfold RenamedParameters at h
    split at h
    · obtain ⟨tool, -, h⟩ := h
      exact ⟨hid, htype, h ▸ Node.get?_put_toolNameKey⟩
    · exact Node.resolvesAs_of_parameters hid htype h
  · exact Node.resolvesAs_of_parameters hid htype h

end Flow

namespace Edit

variable {f g : Flow} {s : Setting} {e : Edit} {result : Result}

/-- **An edit that gives a node nothing but another name or another place.** -/
def IsStyling : Edit → Prop
  | .updateNode _ update => update.parameters = none
  | .moveNode .. => True
  | _ => False

theorem isRestyled_of_apply (hids : (f.nodes.map Node.id).Nodup) (he : e.IsStyling)
    (h : e.apply f s = .ok (g, result)) : ∃ m, result = .node m ∧ f.IsRestyled g m := by
  cases e with
  | updateNode node update =>
    obtain ⟨⟨g, m⟩, hm, h⟩ := bind_eq_ok.1 h
    cases pure_eq_ok.1 h
    obtain ⟨n, k, hn, hk, rfl, hid, htype, -, hparameters⟩ := Flow.updateNode_inv hm
    exact ⟨m, rfl, Flow.isRestyled_replaceNode hids hk hn (hparameters.resolvesAs hid htype he)⟩
  | moveNode node position =>
    obtain ⟨⟨g, m⟩, hm, h⟩ := bind_eq_ok.1 h
    cases pure_eq_ok.1 h
    obtain ⟨n, place, hn, -, rfl, rfl⟩ := Flow.moveNode_inv hm
    exact ⟨_, rfl, Flow.isRestyled_replaceNode hids (.inl rfl) hn
      (Node.resolvesAs_of_parameters rfl rfl rfl)⟩
  | _ => exact he.elim

/-- A flow that can be kept can be kept with another name or another place, if that is finite. -/
theorem IsStyling.keepable {m : Node} (he : e.IsStyling) (hf : f.Keepable)
    (h : e.apply f s = .ok (g, .node m)) (hposition : m.position.isFinite = true) : g.Keepable := by
  cases e with
  | updateNode node update =>
    obtain ⟨⟨g, m⟩, hm, h⟩ := bind_eq_ok.1 h
    cases pure_eq_ok.1 h
    obtain ⟨n, k, hn, hk, rfl, -, -, -, hparameters⟩ := Flow.updateNode_inv hm
    refine (hf.redirectedTo hk).replaceNode
      ⟨hposition, hparameters.keepable (hf n (Flow.mem_of_findNode? hn)) ?_⟩
    rw [show update.parameters = none from he]
    exact Entries.all_nil
  | moveNode node position =>
    obtain ⟨⟨g, m⟩, hm, h⟩ := bind_eq_ok.1 h
    cases pure_eq_ok.1 h
    obtain ⟨n, place, hn, -, rfl, rfl⟩ := Flow.moveNode_inv hm
    exact hf.replaceNode ⟨hposition, (hf n (Flow.mem_of_findNode? hn)).2⟩
  | _ => exact he.elim

end Edit

/-! ## Validation -/

/-- **Two reports that say the same**, but for the name of a node. -/
structure FlowReport.SaysAlike (node name : String) (report report' : FlowReport) : Prop where
  /-- They are about the same flow. -/
  flow : report'.flow = report.flow
  /-- They come to the same. -/
  status : report'.status = report.status
  /-- They count the same. -/
  summary : report'.summary = report.summary
  /-- They tell the same of all connections. -/
  connections : report'.connections = report.connections
  /-- They tell of the same nodes, of the one node under the name. -/
  problems : report'.problems = report.problems.map (NodeProblem.rename node name)

theorem FlowReport.saysAlike_rename (node name : String) (report : FlowReport) :
    report.SaysAlike node name (report.rename node name) :=
  ⟨rfl, rfl, rfl, rfl, rfl⟩

/-- **Two flows that are validated alike**, whatever the node types are, if only they have no rules
of their own: the one can be validated when the other can, and the reports say the same, but for the
name of a node. -/
def Flow.ValidatesAlike (f g : Flow) (m : Node) : Prop :=
  ∀ r : Registry, r.HasUsualRules →
    ((∃ report, g.validate r = .ok report) ↔ ∃ report, f.validate r = .ok report) ∧
    ∀ report report', f.validate r = .ok report → g.validate r = .ok report' →
      report.SaysAlike m.id m.name report'

theorem Flow.validatesAlike_of_isRestyled {f g : Flow} {m : Node} (h : f.IsRestyled g m) :
    f.ValidatesAlike g m := by
  intro r hr
  rw [validate_of_isRestyled h hr]
  refine ⟨?_, fun report report' hreport hreport' => ?_⟩
  · cases f.validate r with
    | ok report => exact iff_of_true ⟨_, rfl⟩ ⟨_, rfl⟩
    | error failure => exact iff_of_false (fun ⟨_, h⟩ => nomatch h) fun ⟨_, h⟩ => nomatch h
  · rw [hreport] at hreport'
    cases hreport'
    exact report.saysAlike_rename m.id m.name

/-- For a validation it does not matter how often a flow was saved, and when. -/
theorem Flow.ValidatesAlike.saved {f g : Flow} {m : Node} (h : f.ValidatesAlike g m)
    (now : String) : f.ValidatesAlike (g.saved now) m := by
  intro r hr
  rw [validate_saved]
  exact h r hr

/-! ## Stores -/

section Stores

variable {σ : Type} [FlowStore σ] [LawfulStore σ] {w : Surroundings} {s s' : σ} {docs : Docs}
  {id : String} {f g k l : Flow} {e : Edit} {reply : Reply}

/-- What is loaded after a save is what was saved, as it is read back. -/
theorem FlowStore.load_eq_some_of_save {now : String} (h : LawfulStore.Keeps s docs)
    (hsave : save s g now = .ok (s', k)) :
    load s' g.id = .ok (some l) ↔ LawfulStore.readBack σ (g.saved now) = .ok l := by
  obtain ⟨hguard, hkeeps⟩ := LawfulStore.save_ok h hsave
  obtain ⟨-, rfl⟩ := Docs.save_eq_ok.1 hguard
  have hput : docs.put (g.saved now) g.id = some (g.saved now) := Docs.put_self
  rw [load_eq_some hkeeps, hput]
  simp only [Option.some.injEq, exists_eq_left']

/-- What the operation comes to: the edit is made and saved, and what is loaded then is what was
saved. -/
theorem Operation.isRestyled_of_run (hkeeps : LawfulStore.Keeps s docs)
    (hf : FlowStore.load s id = .ok (some f)) (hids : (f.nodes.map Node.id).Nodup)
    (he : e.IsStyling) (hrun : (onFlow id (.edit e)).run w s = .ok (s', reply)) :
    ∃ g m k setting, reply = .edited (.node m) ∧ e.apply f setting = .ok (g, .node m) ∧
      f.IsRestyled g m ∧ FlowStore.save s g w.now = .ok (s', k) ∧
        ∀ l, FlowStore.load s' id = .ok (some l) ↔
          LawfulStore.readBack σ (g.saved w.now) = .ok l := by
  obtain ⟨g, result, k, happly, hsave, rfl⟩ := (run_edit_eq_ok hf).1 hrun
  obtain ⟨m, rfl, hrestyled⟩ := Edit.isRestyled_of_apply hids he happly
  have hid : g.id = id := hrestyled.graph.id_eq.trans (FlowStore.id_of_load hkeeps hf)
  refine ⟨g, m, k, _, rfl, happly, hrestyled, hsave, fun l => ?_⟩
  rw [← hid]
  exact FlowStore.load_eq_some_of_save hkeeps hsave

end Stores

/-- **Renaming and moving a node never changes what validation says**, for every flow in which no id
stands twice, and whatever the node types are as long as they have no rules of their own. In memory
the flow can be loaded afterwards, and in a table it can when the place of the node is finite:
another place is not read back, and then there is nothing left that could be validated. -/
theorem validatesAlike_of_isStyling {f : Flow} {e : Edit} (hids : (f.nodes.map Node.id).Nodup)
    (he : e.IsStyling) :
    (∀ s g result, e.apply f s = .ok (g, result) → ∃ m, result = .node m ∧ f.ValidatesAlike g m) ∧
    (∀ w (m m' : Memory) id reply, FlowStore.load m id = .ok (some f) →
      (Operation.onFlow id (.edit e)).run w m = .ok (m', reply) →
      ∃ g n, reply = .edited (.node n) ∧ FlowStore.load m' id = .ok (some g) ∧
        f.ValidatesAlike g n) ∧
    ∀ w (t t' : Table) docs id reply, LawfulStore.Keeps t docs →
      FlowStore.load t id = .ok (some f) →
      (Operation.onFlow id (.edit e)).run w t = .ok (t', reply) →
      ∃ n, reply = .edited (.node n) ∧
        ((∃ g, FlowStore.load t' id = .ok (some g)) ↔ n.position.isFinite = true) ∧
        ∀ g, FlowStore.load t' id = .ok (some g) → f.ValidatesAlike g n := by
  refine ⟨fun s g result h => ?_, fun w m m' id reply hf hrun => ?_,
    fun w t t' docs id reply hkeeps hf hrun => ?_⟩
  · obtain ⟨m, hm, hrestyled⟩ := Edit.isRestyled_of_apply hids he h
    exact ⟨m, hm, Flow.validatesAlike_of_isRestyled hrestyled⟩
  · have hkeeps : LawfulStore.Keeps m m.find? := fun _ => rfl
    obtain ⟨g, n, -, -, hreply, -, hrestyled, -, hload⟩ :=
      Operation.isRestyled_of_run hkeeps hf hids he hrun
    exact ⟨g.saved w.now, n, hreply, (hload _).2 rfl,
      (Flow.validatesAlike_of_isRestyled hrestyled).saved w.now⟩
  · obtain ⟨g, n, k, setting, hreply, happly, hrestyled, hsave, hload⟩ :=
      Operation.isRestyled_of_run hkeeps hf hids he hrun
    have hkeepable : f.Keepable := by
      obtain ⟨d, -, hread⟩ := (FlowStore.load_eq_some hkeeps).1 hf
      exact Row.keepable_of_flow hread
    -- with the node at a finite place the row is read as it was written, and otherwise not at all
    have hback (hfinite : n.position.isFinite = true) :
        (Row.ofFlow (g.saved w.now)).flow = .ok (g.saved w.now) :=
      Flow.Keepable.flow_ofFlow (show g.Keepable from he.keepable hkeepable happly hfinite)
        (Table.fitsWord_saved (Table.fitsColumn_of_save hsave) w.now)
    have hfinite : ∀ l, FlowStore.load t' id = .ok (some l) → n.position.isFinite = true := by
      intro l hl
      obtain ⟨-, hplaced, -⟩ := Row.flow_ofFlow.1 ((hload l).1 hl)
      exact List.all_eq_true.1 hplaced n hrestyled.mem
    refine ⟨n, hreply, ⟨fun ⟨l, hl⟩ => hfinite l hl, fun h => ⟨_, (hload _).2 (hback h)⟩⟩,
      fun l hl => ?_⟩
    obtain rfl := Except.ok.inj (((hload l).1 hl).symm.trans (hback (hfinite l hl)))
    exact (Flow.validatesAlike_of_isRestyled hrestyled).saved w.now

/-! ### A flow with a reference -/

/-- A request that refers to a transform, which has no input. -/
def sampleReferring : Flow :=
  { sampleUnlinked with
    nodes := [
      { sampleRequest with
        parameters := [("url", .str "http://api.test/\x7b\x7b code.id \x7d\x7d")] },
      { sampleTransform with slug := some "code" }] }

/-- The edit that gives the transform another name. -/
def sampleTidying : Edit :=
  .updateNode "code" { name := some "Tidy" }

/-- The transform is renamed: the request refers to it by its new slug, and the report tells of it
under its new name. It is renamed in a table, too. -/
theorem validatesAlike_of_isStyling_sampleReferring :
    (∃ g n report report',
      sampleTidying.apply sampleReferring ⟨Builtin.registry, toString, .ok []⟩ =
        .ok (g, .node n) ∧
      g.nodes.map (fun n => n.text? .url) =
        [some "http://api.test/\x7b\x7b tidy.id \x7d\x7d", none] ∧
      sampleReferring.validate Builtin.registry = .ok report ∧
      report.problems = [⟨"code", Builtin.codeTransformName, "Code"⟩] ∧
      g.validate Builtin.registry = .ok report' ∧
      report'.problems = [⟨"code", Builtin.codeTransformName, "Tidy"⟩] ∧
      report.SaysAlike n.id n.name report') ∧
    ∃ (t t' : Table) (g : Flow) (n : Node),
      FlowStore.load t "flow" = .ok (some sampleReferring) ∧
      (Operation.onFlow "flow" (.edit sampleTidying)).run (numberedSurroundings "") t =
        .ok (t', .edited (.node n)) ∧
      FlowStore.load t' "flow" = .ok (some g) ∧ sampleReferring.ValidatesAlike g n := by
  obtain ⟨hflow, -, htable⟩ :=
    @validatesAlike_of_isStyling sampleReferring sampleTidying (by decide) rfl
  constructor
  · have hsample : ∃ p ∈ (sampleTidying.apply sampleReferring
        ⟨Builtin.registry, toString, .ok []⟩).toOption,
        p.1.nodes.map (fun n => n.text? .url) =
            [some "http://api.test/\x7b\x7b tidy.id \x7d\x7d", none] ∧
          ∃ report ∈ (sampleReferring.validate Builtin.registry).toOption,
            report.problems = [⟨"code", Builtin.codeTransformName, "Code"⟩] ∧
          ∃ report' ∈ (p.1.validate Builtin.registry).toOption,
            report'.problems = [⟨"code", Builtin.codeTransformName, "Tidy"⟩] := by
      decide +kernel
    obtain ⟨⟨g, result⟩, happly, hurls, report, hreport, hproblems, report', hreport',
      hproblems'⟩ := hsample
    have happly := mem_toOption.1 happly
    have hreport := mem_toOption.1 hreport
    have hreport' := mem_toOption.1 hreport'
    obtain ⟨n, rfl, halike⟩ := hflow _ _ _ happly
    exact ⟨g, n, report, report', happly, hurls, hreport, hproblems, hreport', hproblems',
      (halike Builtin.registry Builtin.hasUsualRules_registry).2 report report' hreport hreport'⟩
  · obtain ⟨t, ht⟩ : ∃ t : Table, FlowStore.create FlowStore.empty sampleReferring = .ok t :=
      ⟨_, rfl⟩
    have hkeeps := (LawfulStore.create_ok LawfulStore.empty_keeps ht).2
    cases ht
    have hf := (FlowStore.load_eq_some hkeeps).2
      ⟨sampleReferring, Docs.put_self, (rfl : (Row.ofFlow sampleReferring).flow = .ok _)⟩
    have hsample : ∃ p ∈ ((Operation.onFlow "flow" (.edit sampleTidying)).run
        (numberedSurroundings "") (⟨[Row.ofFlow sampleReferring], by decide⟩ : Table)).toOption,
        ∃ found ∈ (FlowStore.load p.1 "flow").toOption, found.isSome = true := by
      decide +kernel
    obtain ⟨⟨t', reply⟩, hrun, found, hfound, hsome⟩ := hsample
    obtain ⟨g, rfl⟩ := Option.isSome_iff_exists.1 hsome
    have hload := mem_toOption.1 hfound
    have hrun := mem_toOption.1 hrun
    obtain ⟨n, rfl, -, halike⟩ := htable _ _ _ _ _ _ hkeeps hf hrun
    exact ⟨_, t', g, n, hf, hrun, hload, halike g hload⟩

end Workflow
