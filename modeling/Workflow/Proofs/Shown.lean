import Workflow.Proofs.Capture
import Workflow.Proofs.Schema.Document
import Workflow.Proofs.Splice
import Workflow.Proofs.Validation

/-!
# What was learned is shown

An API call learns what it gives from a sample or from a live test. The schema is written down among
its parameters, where anything may stand, and whoever asks for what the node gives reads it there
again, if it counts as given and is a schema, and lays it over the fields that every API call has.
A schema that does not come through all this would be lost without a word. None is
(`Node.schemas_of_keeps`), since what is inferred is never too deep to be read.

What was learned stays until something else is learned about the node, its parameters are updated,
or it is deleted with or without its flow (`FlowTask.Spares`). All other tasks may rename the node,
redirect the references in its address, and change what is around it, but they leave the schema
alone (`FlowTask.keepsAt_of_run`). So it is kept by any run of them (`Memory.KeepsAt.of_reaches`),
and what is kept is shown (`Memory.KeepsAt.shows`).
-/

namespace Workflow

open Outcome

/-! ## The node -/

/-- **An API call that keeps a schema** among its parameters. -/
def Node.Keeps (schema : Schema) (n : Node) : Prop :=
  n.type = Builtin.apiCallName ∧
    Entries.get? n.parameters SchemaRule.outputKey = some schema.toJson

namespace Node

variable {n : Node} {schema : Schema}

theorem keeps_keeping (htype : n.type = Builtin.apiCallName) (schema : Schema) :
    (n.keeping schema).Keeps schema :=
  ⟨htype, Entries.get?_put_self _ _ _⟩

theorem Keeps.redirected (h : n.Keeps schema) (old new : String) :
    (n.redirected old new).Keeps schema := by
  refine ⟨(Flow.redirected_type n old new).trans h.1, ?_⟩
  rw [Node.redirected, if_pos h.1, get?_adjust, if_neg (by decide), get?_adjust,
    if_neg (by decide)]
  exact h.2

/-- **A schema that was inferred is shown**, laid over the fields that every API call has. -/
theorem schemas_of_keeps {v : Json} (h : n.Keeps (Schema.infer v Schema.defaultDepth)) :
    ∃ known out, n.schemas Builtin.registry = .ok known ∧ known.outputKnowledge = .defined ∧
      Schema.layerOver SchemaRule.apiCallBase (Schema.infer v Schema.defaultDepth) = .ok out ∧
      known.output = some out := by
  obtain ⟨out, hout⟩ :=
    Schema.exists_layerOver_apiCallBase (Schema.infer v Schema.defaultDepth)
  have hcached : SchemaRule.cached n.parameters SchemaRule.outputKey
      = some (Schema.infer v Schema.defaultDepth) :=
    SchemaRule.cached_toJson h.2 (Schema.ofJson_infer v)
  have hschemas : n.schemas Builtin.registry
      = .ok (n.withSides Builtin.apiCall.input (some out)) := by
    have htype : Builtin.registry.get? n.type = some Builtin.apiCall := by
      rw [h.1]
      rfl
    rw [schemas, htype]
    dsimp only
    rw [if_neg (by rw [h.1]; decide), if_pos h.1, apiCallSchemas, hcached]
    dsimp only
    rw [hout]
    rfl
  exact ⟨_, out, hschemas, rfl, hout, rfl⟩

end Node

/-! ## The flow -/

namespace Flow

variable {f g : Flow} {s : Setting} {id node : String} {schema : Schema} {m n : Node}

/-- **A flow in which a node keeps a schema.** -/
def KeepsAt (node : String) (schema : Schema) (f : Flow) : Prop :=
  ∃ n, f.findNode? node = some n ∧ n.Keeps schema

theorem find?_replaceIn_of_ne (h : m.id ≠ node) (ns : List Node) :
    (replaceIn m ns).find? (·.id == node) = ns.find? (·.id == node) := by
  induction ns with
  | nil => rfl
  | cons k ns ih =>
    rw [replaceIn]
    split
    · next hk =>
      rw [List.find?_cons_of_neg (by simpa using h), List.find?_cons_of_neg (by simpa [hk] using h)]
    · rw [List.find?_cons, List.find?_cons, ih]

/-- A node in the place of another is no concern of the others. -/
theorem findNode?_replaceNode_of_ne (h : m.id ≠ node) :
    (f.replaceNode m).findNode? node = f.findNode? node :=
  find?_replaceIn_of_ne h f.nodes

theorem find?_eraseP_of_ne (h : id ≠ node) (ns : List Node) :
    (ns.eraseP fun n => n.id == id).find? (·.id == node) = ns.find? (·.id == node) := by
  induction ns with
  | nil => rfl
  | cons k ns ih =>
    by_cases hk : k.id = id
    · rw [List.eraseP_cons_of_pos (by simpa using hk),
        List.find?_cons_of_neg (by simpa [hk] using h)]
    · rw [List.eraseP_cons_of_neg (by simpa using hk), List.find?_cons, List.find?_cons, ih]

/-- The node that is found where references were redirected. -/
theorem findNode?_redirect (id old new : String) : (f.redirect id old new).findNode? node
    = (f.findNode? node).map fun n => if n.id = id then n else n.redirected old new := by
  show (f.nodes.map _).find? _ = (f.nodes.find? _).map _
  rw [List.find?_map]
  congr 2
  funext n
  show ((if n.id = id then n else n.redirected old new).id == node) = _
  split
  · rfl
  · rw [redirected_id]

theorem KeepsAt.of_nodes (h : f.KeepsAt node schema) (hg : g.nodes = f.nodes) :
    g.KeepsAt node schema := by
  obtain ⟨n, hn, hkeeps⟩ := h
  exact ⟨n, by rwa [findNode?, hg], hkeeps⟩

theorem KeepsAt.append (h : f.KeepsAt node schema) (hg : g.nodes = f.nodes ++ [n]) :
    g.KeepsAt node schema := by
  obtain ⟨m, hm, hkeeps⟩ := h
  refine ⟨m, ?_, hkeeps⟩
  rw [findNode?, hg, List.find?_append, show f.nodes.find? _ = some m from hm, Option.some_or]

theorem KeepsAt.redirectedTo (h : f.KeepsAt node schema) (hg : f.RedirectedTo id g) :
    g.KeepsAt node schema := by
  obtain rfl | ⟨old, new, rfl⟩ := hg
  · exact h
  · obtain ⟨n, hn, hkeeps⟩ := h
    refine ⟨_, by rw [findNode?_redirect, hn, Option.map_some], ?_⟩
    split
    · exact hkeeps
    · exact hkeeps.redirected old new

/-- A node in the place of one of the same id keeps what that one kept, or is another one. -/
theorem KeepsAt.replaceNode (h : f.KeepsAt node schema) (hn : f.findNode? id = some n)
    (hid : m.id = id) (hm : id = node → n.Keeps schema → m.Keeps schema) :
    (f.replaceNode m).KeepsAt node schema := by
  obtain ⟨k, hk, hkeeps⟩ := h
  by_cases hnode : id = node
  · obtain rfl : k = n := by
      rw [hnode, hk] at hn
      exact Option.some.inj hn
    exact ⟨m, findNode?_replaceNode hk (hid.trans hnode), hm hnode hkeeps⟩
  · exact ⟨k, by rwa [findNode?_replaceNode_of_ne (hid ▸ hnode)], hkeeps⟩

/-- **An update that brings no parameters** to the node leaves it the schema. -/
theorem KeepsAt.updateNode {update : NodeUpdate} (h : f.KeepsAt node schema)
    (hg : f.updateNode s id update = .ok (g, m)) (hnone : id = node → update.parameters = none) :
    g.KeepsAt node schema := by
  obtain ⟨n, k, hn, hk, rfl, hid, htype, -, hparameters⟩ := updateNode_inv hg
  obtain rfl : n.id = id := id_of_findNode? hn
  -- the others keep it where references are redirected, and the node itself is not redirected
  by_cases hnode : n.id = node
  · obtain ⟨k', hk', hkeeps⟩ := h
    obtain rfl : k' = n := by
      rw [← hnode, hn] at hk'
      exact (Option.some.inj hk').symm
    obtain ⟨k'', hk'', -⟩ := hk.sameGraph.exists_node hn
    have hsame : m.parameters = k'.parameters := by
      rw [hparameters.eq_overlaid hkeeps.1, NodeUpdate.overlaid, hnone hnode]
    refine ⟨m, findNode?_replaceNode (hnode ▸ hk'') (hid.trans hnode), htype.trans hkeeps.1, ?_⟩
    rw [hsame]
    exact hkeeps.2
  · obtain ⟨k', hk', hkeeps⟩ := h.redirectedTo hk
    exact ⟨k', by rwa [findNode?_replaceNode_of_ne (hid ▸ hnode)], hkeeps⟩

end Flow

/-! ## What spares a node -/

/-- **A task that spares what a node has learned**: it does not delete the node, brings it no
parameters, and learns nothing else about it. -/
def FlowTask.Spares (node : String) : FlowTask → Prop
  | .edit (.deleteNode id) => id ≠ node
  | .edit (.updateNode id update) => id = node → update.parameters = none
  | task => task.learner? ≠ some node

namespace FlowTask

variable {w : Surroundings} {siblings : Outcome (List Flow)} {f g : Flow} {node : String}
  {schema : Schema}

/-- **A task that spares a node leaves it the schema.** -/
theorem keepsAt_of_run {task : FlowTask} {effect : Effect}
    (h : task.run w siblings f = .ok effect) (hg : effect.changed = some g)
    (hspares : task.Spares node) (hf : f.KeepsAt node schema) : g.KeepsAt node schema := by
  obtain ⟨e, result, rfl, he⟩ | ⟨id, v, m, hlearner, hm⟩ := run_learned h hg
  · cases Edit.makes_of_apply he with
    | addNode hadd =>
      obtain ⟨rfl, -⟩ := Flow.addNode_ok hadd
      exact hf.append rfl
    | updateNode hupdate => exact hf.updateNode hupdate hspares
    | moveNode hmove =>
      obtain ⟨n, place, hn, -, rfl, rfl⟩ := Flow.moveNode_inv hmove
      have hid := Flow.id_of_findNode? hn
      exact hf.replaceNode hn hid fun _ hkeeps => hkeeps
    | deleteNode hdelete =>
      obtain ⟨-, rfl⟩ := Flow.deleteNode_ok hdelete
      obtain ⟨n, hn, hkeeps⟩ := hf
      exact ⟨n, (Flow.find?_eraseP_of_ne hspares _).trans hn, hkeeps⟩
    | connect hconnect =>
      obtain ⟨-, -, -, -, -, -, -, -, -, rfl⟩ := Flow.connect_ok hconnect
      exact hf.of_nodes rfl
    | disconnect hdisconnect =>
      obtain ⟨-, rfl⟩ := Flow.disconnect_ok hdisconnect
      exact hf.of_nodes rfl
    | splice hsplice =>
      obtain ⟨_, _, _, -, -, -, -, -, -, -, -, -, -, -, -, -, rfl⟩ := Flow.splice_ok hsplice
      exact hf.append rfl
  · obtain ⟨n, hn, rfl, rfl⟩ := Flow.keepSchema_inv hm
    have hother : id ≠ node := by
      cases task with
      | resolveSchema | testApiCall => exact fun he => hspares (he ▸ hlearner)
      | _ => cases hlearner
    have hid := Flow.id_of_findNode? hn
    exact hf.replaceNode hn hid fun hnode => absurd hnode hother

end FlowTask

/-- **A command that spares what a node has learned**: where it is carried out it does not delete the
flow of the node, and the task that it asks for on the flow spares the node. -/
def Command.Spares (id node : String) (w : Surroundings) (m : Memory) (c : Command) : Prop :=
  ∀ p f, c.run w m = .ok p → FlowStore.needBy m (c.argument "flow_id") = .ok f → f.id = id →
    c.name ≠ "delete_flow" ∧ ∀ task, c.task w f = .ok task → task.Spares node

/-- A store in memory in which a node of a flow keeps a schema. -/
def Memory.KeepsAt (id node : String) (schema : Schema) (m : Memory) : Prop :=
  ∃ f, m.find? id = some f ∧ f.KeepsAt node schema

namespace Memory

variable {m m' : Memory} {id node : String} {schema : Schema}

/-- A store in memory keeps the documents that are found in it. -/
theorem keeps_find? (m : Memory) : LawfulStore.Keeps m m.find? :=
  fun _ => rfl

theorem id_of_find? {f : Flow} (hf : m.find? id = some f) : f.id = id :=
  LawfulStore.id_eq m.keeps_find? hf

/-- A flow that is found in memory is the one that is stored. -/
theorem find?_of_needBy {v : Json} {f : Flow} (hf : FlowStore.needBy m v = .ok f) :
    m.find? f.id = some f := by
  obtain ⟨id, d, hd, hread⟩ := FlowStore.needBy_ok m.keeps_find? hf
  cases hread
  rwa [id_of_find? hd]

/-- **One step that spares a node** leaves it the schema. -/
theorem KeepsAt.step (h : m.KeepsAt id node schema) {w : Surroundings} {c : Command}
    (hspares : c.Spares id node w m) : (c.step w m).1.KeepsAt id node schema := by
  have hkept := m.keeps_find?
  obtain ⟨f, hf, hkeeps⟩ := h
  have hid : f.id = id := id_of_find? hf
  unfold Command.step
  split
  · next m' reply hrun =>
    cases Command.ran_of_run hkept hrun with
    | create hname name app description hcreate =>
      obtain ⟨hfresh, hdocs⟩ := LawfulStore.create_ok hkept hcreate
      refine ⟨f, (hdocs id).trans ?_, hkeeps⟩
      rw [Docs.put_of_ne]
      · exact hf
      · rintro rfl
        exact absurd (hf.symm.trans hfresh) (by simp)
    | list | typeSchemas => exact ⟨f, hf, hkeeps⟩
    | @delete g hname hneed =>
      refine ⟨f, (LawfulStore.delete_keeps g.id hkept id).trans ?_, hkeeps⟩
      rw [Docs.drop_of_ne]
      · exact hf
      · exact fun he => (hspares _ g hrun hneed he.symm).1 hname
    | @task _ _ g task effect hneed htask hdone hconclude =>
      obtain ⟨-, ⟨rfl, -⟩ | ⟨k, hk, -, hdocs⟩⟩ := Command.conclude_change hkept hconclude
      · exact ⟨f, hf, hkeeps⟩
      have hsame : k.id = g.id := by rw [FlowTask.run_frame hdone hk]
      by_cases hg : g.id = id
      · -- the task was carried out on the flow of the node
        obtain rfl : g = f := by
          have hstored := find?_of_needBy hneed
          rw [hg, hf] at hstored
          exact (Option.some.inj hstored).symm
        have hlater :=
          FlowTask.keepsAt_of_run hdone hk ((hspares _ g hrun hneed hg).2 task htask) hkeeps
        refine ⟨k.saved w.now, (hdocs id).trans ?_, hlater.of_nodes rfl⟩
        rw [← hg, ← hsame]
        exact Docs.put_self
      · refine ⟨f, (hdocs id).trans ?_, hkeeps⟩
        rw [Docs.put_of_ne]
        · exact hf
        · exact fun he => hg (hsame.symm.trans he.symm)
  · exact ⟨f, hf, hkeeps⟩

/-- **A run that spares a node** leaves it the schema. -/
theorem KeepsAt.of_reaches (h : m.KeepsAt id node schema)
    (hm : Reaches (Command.Spares id node) m m') : m'.KeepsAt id node schema := by
  induction hm with
  | start => exact h
  | step _ w c hspares ih => exact ih.step hspares

end Memory

/-! ## What is learned -/

/-- **An operation learns a schema about a node**: it resolves a sample to it, or it makes a live test
of the node and tells that the schema was kept. -/
inductive Operation.Learns (w : Surroundings) (m : Memory) (id node : String) (schema : Schema) :
    Memory → Prop
  /-- From a sample. -/
  | resolved {sample : Json} {resolution : Resolution} {m' : Memory}
      (hrun : (onFlow id (.resolveSchema node sample)).run w m = .ok (m', .resolution resolution))
      (hschema : resolution.output = some schema) : Learns w m id node schema m'
  /-- From the response to a live test. -/
  | tested {mocks : Json} {save : Bool} {report : LiveTest.Report} {sent : Option Request}
      {m' : Memory}
      (hrun : (onFlow id (.testApiCall node mocks save)).run w m = .ok (m', .testReport report sent))
      (hsaved : report.schemaSaved = true) (hschema : report.outputSchema = some schema) :
      Learns w m id node schema m'

/-- **A store shows a schema at a node**: whoever asks for what the node gives, with the built-in
types, is told that it is defined, and the schema laid over the fields that every API call has. The
question leaves the store as it is. -/
def Memory.Shows (id node : String) (schema : Schema) (m : Memory) : Prop :=
  ∀ w : Surroundings, w.registry = Builtin.registry →
    ∃ known out, (Operation.onFlow id (.nodeSchemas node)).run w m = .ok (m, .nodeSchemas known) ∧
      known.outputKnowledge = .defined ∧ known.output = some out ∧
      Schema.layerOver SchemaRule.apiCallBase schema = .ok out

namespace FlowTask

variable {w : Surroundings} {f g : Flow} {n : Node} {node : String} {effect : Effect}
  {schema : Schema}

/-- **What is told of a sample** of an API call is what is kept. -/
theorem resolve_inv {sample : Json} {r : Resolution} (h : resolve w f node sample = .ok effect)
    (hn : f.findNode? node = some n) (htype : n.type = Builtin.apiCallName)
    (hreply : effect.reply = .resolution r) (hschema : r.output = some schema) :
    (∃ v, schema = Schema.infer v Schema.defaultDepth) ∧
      effect.changed = some (f.replaceNode (n.keeping schema)) := by
  obtain ⟨k, hk, h⟩ := bind_eq_ok.1 h
  obtain rfl : k = n := Option.some.inj ((Flow.needNode_eq_ok.1 hk).symm.trans hn)
  rw [if_pos htype] at h
  obtain ⟨v, -, h⟩ := bind_eq_ok.1 h
  obtain ⟨⟨g, m⟩, hg, h⟩ := bind_eq_ok.1 h
  cases pure_eq_ok.1 h
  cases hreply
  cases hschema
  obtain ⟨k', hk', rfl, rfl⟩ := Flow.keepSchema_inv hg
  obtain rfl : k' = k := Option.some.inj (hk'.symm.trans hn)
  exact ⟨⟨v, rfl⟩, rfl⟩

/-- **What is told of a live test** that has kept a schema is what is kept. -/
theorem test_inv {mocks : Json} {save : Bool} {report : LiveTest.Report} {sent : Option Request}
    (h : test w f node mocks save = .ok effect) (hn : f.findNode? node = some n)
    (hreply : effect.reply = .testReport report sent) (hsaved : report.schemaSaved = true)
    (hschema : report.outputSchema = some schema) :
    (∃ v, schema = Schema.infer v Schema.defaultDepth) ∧
      effect.changed = some (f.replaceNode (n.keeping schema)) := by
  obtain ⟨k, hk, h⟩ := bind_eq_ok.1 h
  obtain ⟨-, h⟩ := refuse_eq_ok.1 h
  obtain ⟨run, hrun, h⟩ := bind_eq_ok.1 h
  split at h
  · next learned hsave hlearned =>
    obtain ⟨⟨g, m⟩, hg, h⟩ := bind_eq_ok.1 h
    cases pure_eq_ok.1 h
    cases hreply
    obtain rfl : learned = schema := Option.some.inj (hlearned.symm.trans hschema)
    obtain ⟨k', hk', rfl, rfl⟩ := Flow.keepSchema_inv hg
    obtain rfl : k' = n := Option.some.inj (hk'.symm.trans hn)
    exact ⟨LiveTest.inferred_of_success hrun (Bool.and_eq_true_iff.1 hsave).1 hlearned, rfl⟩
  · cases pure_eq_ok.1 h
    cases hreply
    exact absurd (LiveTest.schemaSaved_of_run hrun) (by simp [hsaved])

end FlowTask

/-- The node of a stored flow, which must be there. -/
def FlowStore.needNode {σ : Type} [FlowStore σ] (s : σ) (id node : String) : Outcome Node := do
  let f ← need s id
  f.needNode node

namespace Operation

section

variable {σ : Type} [FlowStore σ] {w : Surroundings} {s s' : σ} {id : String} {f : Flow}
  {task : FlowTask} {reply : Reply}

/-- **A task on a flow** that is loaded: it is carried out, and its effect is concluded. -/
theorem run_onFlow_eq_ok (hf : FlowStore.load s id = .ok (some f)) :
    (onFlow id task).run w s = .ok (s', reply) ↔
      ∃ effect, task.run w (FlowStore.siblings s f) f = .ok effect ∧
        conclude w s effect = .ok (s', reply) := by
  rw [run, FlowStore.need_of_load hf, ok_bind]
  exact bind_eq_ok

/-- **What is told of a node** is read off the flow, and the store is left as it is. -/
theorem run_nodeSchemas (node : String) : (onFlow id (.nodeSchemas node)).run w s = do
    let n ← FlowStore.needNode s id node
    let known ← n.schemas w.registry
    return (s, .nodeSchemas known) := by
  simp only [run, FlowTask.run, FlowStore.needNode, bind_assoc, pure_bind, conclude]
  rfl

/-- What is told of a node depends on nothing else in the store. -/
theorem map_run_nodeSchemas {node : String}
    (h : FlowStore.needNode s' id node = FlowStore.needNode s id node) :
    ((onFlow id (.nodeSchemas node)).run w s').map Prod.snd
      = ((onFlow id (.nodeSchemas node)).run w s).map Prod.snd := by
  rw [run_nodeSchemas, run_nodeSchemas, h]
  cases FlowStore.needNode s id node with
  | error failure => rfl
  | ok n =>
    rw [ok_bind, ok_bind]
    cases n.schemas w.registry <;> rfl

end

variable {w : Surroundings} {m m' : Memory} {id node : String} {schema : Schema} {f : Flow}
  {n : Node}

/-- **What an operation that learns leaves**: the schema was inferred, the flow is saved with it at
the node, and the other flows are as they were. -/
theorem Learns.saved (h : Learns w m id node schema m')
    (hf : FlowStore.load m id = .ok (some f)) (hn : f.findNode? node = some n)
    (htype : n.type = Builtin.apiCallName) :
    (∃ v, schema = Schema.infer v Schema.defaultDepth) ∧
      m'.find? id = some ((f.replaceNode (n.keeping schema)).saved w.now) ∧
      ∀ id', id' ≠ id → m'.find? id' = m.find? id' := by
  -- both operations have the effect that the schema is kept
  obtain ⟨effect, reply, hconclude, hlearned⟩ : ∃ effect reply,
      conclude w m effect = .ok (m', reply) ∧
        (effect.reply = reply → (∃ v, schema = Schema.infer v Schema.defaultDepth) ∧
          effect.changed = some (f.replaceNode (n.keeping schema))) := by
    cases h with
    | resolved hrun hschema =>
      obtain ⟨effect, htask, hconclude⟩ := (run_onFlow_eq_ok hf).1 hrun
      exact ⟨effect, _, hconclude, fun hreply =>
        FlowTask.resolve_inv htask hn htype hreply hschema⟩
    | tested hrun hsaved hschema =>
      obtain ⟨effect, htask, hconclude⟩ := (run_onFlow_eq_ok hf).1 hrun
      exact ⟨effect, _, hconclude, fun hreply =>
        FlowTask.test_inv htask hn hreply hsaved hschema⟩
  obtain ⟨hreply, hchange⟩ := Command.conclude_change m.keeps_find? hconclude
  obtain ⟨hinferred, hchanged⟩ := hlearned hreply.symm
  obtain ⟨-, hnone⟩ | ⟨g, hg, -, hdocs⟩ := hchange
  · cases hnone.symm.trans hchanged
  · obtain rfl := Option.some.inj (hg.symm.trans hchanged)
    obtain rfl : f.id = id := Memory.id_of_find? (Except.ok.inj hf)
    exact ⟨hinferred, (hdocs f.id).trans Docs.put_self,
      fun id' hne => (hdocs id').trans (Docs.put_of_ne hne)⟩

/-- What was learned is kept. -/
theorem Learns.keepsAt (h : Learns w m id node schema m')
    (hf : FlowStore.load m id = .ok (some f)) (hn : f.findNode? node = some n)
    (htype : n.type = Builtin.apiCallName) : m'.KeepsAt id node schema := by
  obtain ⟨-, hfound, -⟩ := h.saved hf hn htype
  have hid : n.id = node := Flow.id_of_findNode? hn
  exact ⟨_, hfound, n.keeping schema, Flow.findNode?_replaceNode hn hid,
    Node.keeps_keeping htype schema⟩

/-- **An operation that learns about a node** leaves all others as they are. -/
theorem Learns.needNode_eq (h : Learns w m id node schema m')
    (hf : FlowStore.load m id = .ok (some f)) (hn : f.findNode? node = some n)
    (htype : n.type = Builtin.apiCallName) {id' node' : String}
    (hother : (id', node') ≠ (id, node)) :
    FlowStore.needNode m' id' node' = FlowStore.needNode m id' node' := by
  obtain ⟨-, hfound, hothers⟩ := h.saved hf hn htype
  by_cases hsame : id' = id
  · -- another node of the flow that was saved
    subst hsame
    have hne : n.id ≠ node' := by
      rintro rfl
      exact hother (by rw [Flow.id_of_findNode? hn])
    have hload : FlowStore.load m' id' = .ok _ := congrArg Except.ok hfound
    have hnode : ((f.replaceNode (n.keeping schema)).saved w.now).findNode? node'
        = f.findNode? node' := Flow.findNode?_replaceNode_of_ne hne
    rw [FlowStore.needNode, FlowStore.needNode, FlowStore.need_of_load hload,
      FlowStore.need_of_load hf, ok_bind, ok_bind, Flow.needNode, Flow.needNode, hnode]
    rfl
  · have hload : FlowStore.load m' id' = FlowStore.load m id' :=
      congrArg Except.ok (hothers id' hsame)
    rw [FlowStore.needNode, FlowStore.needNode, FlowStore.need, FlowStore.need, hload]

end Operation

namespace Memory

variable {m m' : Memory} {id node : String} {schema : Schema} {w : Surroundings}

/-- **A store that keeps a schema that was inferred shows it.** -/
theorem KeepsAt.shows {v : Json} (h : m.KeepsAt id node (Schema.infer v Schema.defaultDepth)) :
    m.Shows id node (Schema.infer v Schema.defaultDepth) := by
  obtain ⟨f, hf, n, hn, hkeeps⟩ := h
  intro w hw
  obtain ⟨known, out, hknown, hdefined, hout, houtput⟩ := Node.schemas_of_keeps hkeeps
  refine ⟨known, out, ?_, hdefined, houtput, hout⟩
  have hload : FlowStore.load m id = .ok (some f) := congrArg Except.ok hf
  rw [Operation.run_nodeSchemas, FlowStore.needNode, FlowStore.need_of_load hload, ok_bind,
    Flow.needNode_eq_ok.2 hn, ok_bind, hw, hknown, ok_bind]
  rfl

/-- **What was learned is shown.** When a schema was learned about an API call, from a sample or from
a live test, the store shows it from then on, for as long as commands spare the node. About every
other node, of this flow and of all others, it tells what it told before. -/
theorem shows_of_learns {f : Flow} {n : Node} (hf : FlowStore.load m id = .ok (some f))
    (hn : f.findNode? node = some n) (htype : n.type = Builtin.apiCallName)
    (hlearns : Operation.Learns w m id node schema m') :
    (∀ m'', Reaches (Command.Spares id node) m' m'' → m''.Shows id node schema) ∧
      ∀ id' node', (id', node') ≠ (id, node) → ∀ w' : Surroundings,
        ((Operation.onFlow id' (.nodeSchemas node')).run w' m').map Prod.snd =
          ((Operation.onFlow id' (.nodeSchemas node')).run w' m).map Prod.snd := by
  refine ⟨fun m'' hm => ?_, fun id' node' hother w' =>
    Operation.map_run_nodeSchemas (hlearns.needNode_eq hf hn htype hother)⟩
  have hkeeps := (hlearns.keepsAt hf hn htype).of_reaches hm
  obtain ⟨⟨v, rfl⟩, -⟩ := hlearns.saved hf hn htype
  exact hkeeps.shows

end Memory

/-! ### A run -/

/-- A store with two API calls, the second of which refers to the first in its address. -/
def sampleListed : Memory where
  flows := [{
    id := "flow1", name := "Pair", createdAt := "", updatedAt := ""
    nodes := [
      { id := "api1", type := Builtin.apiCallName, name := "Request", slug := some "request" },
      { id := "detail1", type := Builtin.apiCallName, name := "Detail", slug := some "detail"
        parameters := [("url", .str "http://api.test/\x7b\x7b request.id \x7d\x7d")] }] }]

/-- A sample whose status is no number, as the status of an API call is. -/
def sampleAnswer : Json := .obj [("status", .str "none"), ("items", .arr [.int 1])]

/-- The command that renames the first API call. -/
def sampleSearching : Command where
  name := "update_node"
  arguments := [("flow_id", .str "flow1"), ("node_id", .str "api1"), ("name", .str "Search")]

/-- The renaming of another node spares a node, in any store. -/
theorem spares_sampleSearching (w : Surroundings) (m : Memory) :
    sampleSearching.Spares "flow1" "detail1" w m := by
  intro p f _ _ _
  refine ⟨by decide, fun task htask => ?_⟩
  obtain ⟨e, he, htask⟩ := bind_eq_ok.1 htask
  cases pure_eq_ok.1 htask
  obtain ⟨id, hid, he⟩ := bind_eq_ok.1 he
  obtain ⟨n, -, he⟩ := bind_eq_ok.1 he
  cases pure_eq_ok.1 he
  exact fun _ => rfl

/-- What the second API call gives is learned from the sample, and shown when the first one has
another name and the address of the second one has followed. -/
theorem shows_of_learns_sampleListed :
    ∃ m', Operation.Learns (numberedSurroundings "") sampleListed "flow1" "detail1"
        (.object none [("status", .string none none), ("items", .array none (.number none))]
          ["status", "items"] false) m' ∧
      ((sampleSearching.step (numberedSurroundings "") m').1.find? "flow1").map
          (fun f => f.nodes[1]?.map (Node.text? · .url))
        = some (some (some "http://api.test/\x7b\x7b search.id \x7d\x7d")) ∧
      (sampleSearching.step (numberedSurroundings "") m').1.Shows "flow1" "detail1"
        (.object none [("status", .string none none), ("items", .array none (.number none))]
          ["status", "items"] false) := by
  have hrun : (Operation.onFlow "flow1" (.resolveSchema "detail1" sampleAnswer)).run
      (numberedSurroundings "") sampleListed = .ok (_, .resolution ⟨_, _, some _⟩) := rfl
  have hlearns := Operation.Learns.resolved hrun rfl
  refine ⟨_, hlearns, by decide +kernel, ?_⟩
  exact (Memory.shows_of_learns rfl rfl rfl hlearns).1 _
    (.step .start _ _ (spares_sampleSearching _ _))

end Workflow
