import Workflow.Command
import Workflow.Proofs.Edit
import Workflow.Proofs.LiveTest
import Workflow.Proofs.Store

/-!
# Runs

A run is any number of commands, each of them carried out or refused, and what the commands draw
on – node types, fresh ids, the time, endpoints – may be different for each of them. `Reaches`
says which stores a run can come to when every command satisfies a condition.

How a command is carried out is said once, in `Command.ran_of_run`, and what it can do to the
documents of a store follows from that (`Command.step_change`): nothing, or one of the changes that
`Command.Change` lists. A property of flows is kept by a whole run if it is kept by each of
these (`Reaches.all`), and for the tasks on a flow this comes down to the edits and the keeping
of a schema (`FlowTask.run_changed`).
-/

namespace Workflow

open Outcome

/-! ## What a task saves -/

namespace FlowTask

variable {w : Surroundings} {siblings : Outcome (List Flow)} {f g : Flow}

theorem resolve_changed {node : String} {sample : Json} {effect : Effect}
    (h : resolve w f node sample = .ok effect) (hg : effect.changed = some g) :
    ∃ v m, f.keepSchema node (Schema.infer v Schema.defaultDepth) = .ok (g, m) := by
  unfold resolve at h
  obtain ⟨n, -, h⟩ := bind_eq_ok.1 h
  split at h
  · obtain ⟨value, -, h⟩ := bind_eq_ok.1 h
    obtain ⟨⟨k, m⟩, hk, h⟩ := bind_eq_ok.1 h
    cases pure_eq_ok.1 h
    cases hg
    exact ⟨value, m, hk⟩
  · split at h
    · obtain ⟨schema, -, h⟩ := bind_eq_ok.1 h
      cases pure_eq_ok.1 h
      cases hg
    · obtain ⟨known, -, h⟩ := bind_eq_ok.1 h
      cases pure_eq_ok.1 h
      cases hg

theorem test_changed {node : String} {mocks : Json} {save : Bool} {effect : Effect}
    (h : test w f node mocks save = .ok effect) (hg : effect.changed = some g) :
    save = true ∧ ∃ v m, f.keepSchema node (Schema.infer v Schema.defaultDepth) = .ok (g, m) := by
  unfold test at h
  obtain ⟨n, -, h⟩ := bind_eq_ok.1 h
  obtain ⟨-, h⟩ := refuse_eq_ok.1 h
  obtain ⟨run, hrun, h⟩ := bind_eq_ok.1 h
  split at h
  · next schema hsave hschema =>
    obtain ⟨⟨k, m⟩, hk, h⟩ := bind_eq_ok.1 h
    cases pure_eq_ok.1 h
    cases hg
    obtain ⟨hsuccess, hasked⟩ := Bool.and_eq_true_iff.1 hsave
    obtain ⟨v, rfl⟩ := LiveTest.inferred_of_success hrun hsuccess hschema
    exact ⟨hasked, v, m, hk⟩
  · cases pure_eq_ok.1 h
    cases hg

/-- The node at which a task keeps what it learns. -/
def learner? : FlowTask → Option String
  | .resolveSchema node _ => some node
  | .testApiCall node _ true => some node
  | _ => none

/-- **What a task saves** is what an edit has made of the flow, or the flow with a schema kept that
was inferred from a value, at the node that the task learns about. -/
theorem run_learned {task : FlowTask} {effect : Effect}
    (h : task.run w siblings f = .ok effect) (hg : effect.changed = some g) :
    (∃ e result, task = .edit e ∧ e.apply f ⟨w.registry, w.freshId, siblings⟩ = .ok (g, result)) ∨
      ∃ node v m, task.learner? = some node ∧
        f.keepSchema node (Schema.infer v Schema.defaultDepth) = .ok (g, m) := by
  cases task with
  | tell | listNodes | listConnections =>
    cases h
    cases hg
  | edit e =>
    obtain ⟨⟨k, result⟩, hk, h⟩ := bind_eq_ok.1 h
    cases pure_eq_ok.1 h
    cases hg
    exact .inl ⟨e, result, rfl, hk⟩
  | nodeSchemas node =>
    obtain ⟨n, -, h⟩ := bind_eq_ok.1 h
    obtain ⟨known, -, h⟩ := bind_eq_ok.1 h
    cases pure_eq_ok.1 h
    cases hg
  | flowSchemas | validate | validateConnection =>
    obtain ⟨report, -, h⟩ := bind_eq_ok.1 h
    cases pure_eq_ok.1 h
    cases hg
  | resolveSchema node sample =>
    obtain ⟨v, m, hm⟩ := resolve_changed h hg
    exact .inr ⟨node, v, m, rfl, hm⟩
  | testApiCall node mocks save =>
    obtain ⟨rfl, v, m, hm⟩ := test_changed h hg
    exact .inr ⟨node, v, m, rfl, hm⟩

/-- What a task saves, whichever node it may have learned about. -/
theorem run_changed {task : FlowTask} {effect : Effect}
    (h : task.run w siblings f = .ok effect) (hg : effect.changed = some g) :
    (∃ e result, task = .edit e ∧ e.apply f ⟨w.registry, w.freshId, siblings⟩ = .ok (g, result)) ∨
      ∃ node v m, f.keepSchema node (Schema.infer v Schema.defaultDepth) = .ok (g, m) := by
  obtain he | ⟨node, v, m, -, hm⟩ := run_learned h hg
  · exact .inl he
  · exact .inr ⟨node, v, m, hm⟩

/-- **No task touches anything but** the nodes and the connections of a flow. -/
theorem run_frame {task : FlowTask} {effect : Effect}
    (h : task.run w siblings f = .ok effect) (hg : effect.changed = some g) :
    g = { f with nodes := g.nodes, connections := g.connections } := by
  obtain ⟨e, result, -, he⟩ | ⟨node, v, m, hm⟩ := run_changed h hg
  · exact (Edit.makes_of_apply he).frame
  · obtain ⟨n, -, -, rfl⟩ := Flow.keepSchema_inv hm
    rfl

end FlowTask

/-! ## What a command changes -/

variable {σ : Type} [FlowStore σ] {w : Surroundings} {s s' : σ} {docs : Docs}

/-- **How a command is carried out**: what it leaves of a store, and what it answers. -/
inductive Command.Ran (w : Surroundings) (s : σ) (c : Command) : σ → Reply → Prop
  /-- A flow without nodes is created. -/
  | create {s' : σ} (hname : c.name = "create_flow") (name : String)
      (app description : Option String)
      (hcreate : FlowStore.create s (Operation.newFlow w name app description) = .ok s') :
      Ran w s c s' (.flow (Operation.newFlow w name app description))
  /-- Flows are listed. -/
  | list {flows : List Flow} (hname : c.name = "list_flows") : Ran w s c s (.flows flows)
  /-- The schemas of a node type are told. -/
  | typeSchemas {schemas : TypeSchemas} (hname : c.name = "get_node_type_schema") :
      Ran w s c s (.typeSchemas schemas)
  /-- A flow is deleted. -/
  | delete {f : Flow} (hname : c.name = "delete_flow")
      (hf : FlowStore.needBy s (c.argument "flow_id") = .ok f) :
      Ran w s c (FlowStore.delete s f.id) .done
  /-- A flow is loaded, a task runs on it, and what the task has changed is saved. -/
  | task {s' : σ} {reply : Reply} {f : Flow} {task : FlowTask} {effect : Effect}
      (hf : FlowStore.needBy s (c.argument "flow_id") = .ok f) (htask : c.task w f = .ok task)
      (hrun : task.run w (FlowStore.siblings s f) f = .ok effect)
      (hconclude : Operation.conclude w s effect = .ok (s', reply)) : Ran w s c s' reply

/-- **What carrying out a command can do** to the documents of a store. -/
inductive Command.Change (w : Surroundings) (s : σ) (docs : Docs) (c : Command) : Docs → Prop
  /-- Nothing. -/
  | none : Change w s docs c docs
  /-- A flow without nodes is stored under a fresh id. -/
  | create (name : String) (app description : Option String) (hfresh : docs (w.freshId 1) = none) :
      Change w s docs c (docs.put (Operation.newFlow w name app description))
  /-- A flow is deleted. -/
  | delete {f : Flow} (hf : FlowStore.needBy s (c.argument "flow_id") = .ok f) :
      Change w s docs c (docs.drop f.id)
  /-- A flow is loaded, a task changes it, and the guard lets the save through. -/
  | save {f g : Flow} {task : FlowTask} {effect : Effect}
      (hf : FlowStore.needBy s (c.argument "flow_id") = .ok f) (htask : c.task w f = .ok task)
      (hrun : task.run w (FlowStore.siblings s f) f = .ok effect) (hg : effect.changed = some g)
      (hsave : docs.save g w.now = .ok (g.saved w.now)) :
      Change w s docs c (docs.put (g.saved w.now))

namespace Command

variable {c : Command}

theorem createFlow_ok {op : Operation} (h : c.createFlow = .ok op) :
    ∃ name app description, op = .createFlow name app description := by
  unfold createFlow at h
  simp only [Checked.orFail_eq_ok, Checked.seq_eq_ok, Checked.map_eq_ok] at h
  obtain ⟨_, description, ⟨_, name, ⟨app, -, rfl⟩, -, rfl⟩, -, rfl⟩ := h
  exact ⟨name, app, description, rfl⟩

/-- What is no text is the name of no node type. -/
theorem unknownType_ne_ok {α : Type} {v : Json} {a : α} : unknownType v ≠ .ok a := by
  intro h
  unfold unknownType at h
  split at h
  · obtain ⟨_, -, h⟩ := bind_eq_ok.1 h
    cases h
  · cases h

theorem typeSchemas_ok {op : Operation} (h : c.typeSchemas = .ok op) :
    ∃ type, op = .typeSchemas type := by
  unfold typeSchemas at h
  split at h
  · cases h
    exact ⟨_, rfl⟩
  · exact absurd h unknownType_ne_ok

variable [LawfulStore σ]

theorem ran_of_run {reply : Reply} (h : LawfulStore.Keeps s docs)
    (hs : c.run w s = .ok (s', reply)) : c.Ran w s s' reply := by
  unfold run at hs
  obtain ⟨-, hs⟩ := refuse_eq_ok.1 hs
  split at hs
  · next hname =>
    obtain ⟨op, hop, hs⟩ := bind_eq_ok.1 hs
    obtain ⟨name, app, description, rfl⟩ := createFlow_ok hop
    obtain ⟨t, ht, hs⟩ := bind_eq_ok.1 hs
    cases pure_eq_ok.1 hs
    exact .create hname name app description ht
  · next hname =>
    obtain ⟨flows, -, hs⟩ := bind_eq_ok.1 hs
    cases pure_eq_ok.1 hs
    exact .list hname
  · next hname =>
    obtain ⟨op, hop, hs⟩ := bind_eq_ok.1 hs
    obtain ⟨type, rfl⟩ := typeSchemas_ok hop
    obtain ⟨schemas, -, hs⟩ := bind_eq_ok.1 hs
    cases pure_eq_ok.1 hs
    exact .typeSchemas hname
  · next hname =>
    obtain ⟨f, hf, hs⟩ := bind_eq_ok.1 hs
    obtain ⟨k, -, hs⟩ := bind_eq_ok.1 hs
    cases pure_eq_ok.1 hs
    exact .delete hname hf
  · obtain ⟨f, hf, hasked⟩ := bind_eq_ok.1 hs
    obtain ⟨task, htask, hop⟩ := bind_eq_ok.1 hasked
    obtain ⟨k, hk, hdone⟩ := bind_eq_ok.1 hop
    -- the flow that the operation loads is the one that its arguments were read for
    obtain rfl : k = f := Except.ok.inj (hk.symm.trans (FlowStore.need_of_needBy h hf))
    obtain ⟨effect, hrun, hsaved⟩ := bind_eq_ok.1 hdone
    exact .task hf htask hrun hsaved

/-- Saving what a task has changed, if it has changed anything. -/
theorem conclude_change {effect : Effect} {reply : Reply} (h : LawfulStore.Keeps s docs)
    (hs : Operation.conclude w s effect = .ok (s', reply)) :
    reply = effect.reply ∧ (s' = s ∧ effect.changed = none ∨
      ∃ g, effect.changed = some g ∧ docs.save g w.now = .ok (g.saved w.now) ∧
        LawfulStore.Keeps s' (docs.put (g.saved w.now))) := by
  unfold Operation.conclude at hs
  split at hs
  · next hnone =>
    cases hs
    exact ⟨rfl, .inl ⟨rfl, hnone⟩⟩
  · next g hsome =>
    obtain ⟨⟨t, k⟩, hsave, hs⟩ := bind_eq_ok.1 hs
    cases pure_eq_ok.1 hs
    obtain ⟨hguard, hkeeps⟩ := LawfulStore.save_ok h hsave
    obtain rfl := (Docs.save_eq_ok.1 hguard).2
    exact ⟨rfl, .inr ⟨g, hsome, hguard, hkeeps⟩⟩

theorem run_change {reply : Reply} (h : LawfulStore.Keeps s docs)
    (hs : c.run w s = .ok (s', reply)) :
    ∃ docs', LawfulStore.Keeps s' docs' ∧ c.Change w s docs docs' := by
  cases ran_of_run h hs with
  | create hname name app description hcreate =>
    obtain ⟨hfresh, hkeeps⟩ := LawfulStore.create_ok h hcreate
    exact ⟨_, hkeeps, .create name app description hfresh⟩
  | list | typeSchemas => exact ⟨docs, h, .none⟩
  | @delete f hname hf => exact ⟨_, LawfulStore.delete_keeps f.id h, .delete hf⟩
  | task hf htask hrun hconclude =>
    obtain ⟨-, ⟨rfl, -⟩ | ⟨g, hg, hguard, hkeeps⟩⟩ := conclude_change h hconclude
    · exact ⟨docs, h, .none⟩
    · exact ⟨_, hkeeps, .save hf htask hrun hg hguard⟩

/-- **What one step does**, whether the command is carried out or refused. -/
theorem step_change (h : LawfulStore.Keeps s docs) (w : Surroundings) (c : Command) :
    ∃ docs', LawfulStore.Keeps (c.step w s).1 docs' ∧ c.Change w s docs docs' := by
  unfold step
  split
  · next s' reply hs => exact run_change h hs
  · exact ⟨docs, h, .none⟩

end Command

/-! ## The edit that is asked for -/

/-- **The edit that a command asks for**, and the flow that it finds. -/
def Command.edit? (w : Surroundings) (s : σ) (c : Command) : Option (Flow × Edit) :=
  match FlowStore.needBy s (c.argument "flow_id") with
  | .error _ => none
  | .ok f =>
    match c.task w f with
    | .ok (.edit e) => some (f, e)
    | _ => none

theorem Command.edit?_eq_some {c : Command} {f : Flow} {e : Edit}
    (hf : FlowStore.needBy s (c.argument "flow_id") = .ok f) (htask : c.task w f = .ok (.edit e)) :
    c.edit? w s = some (f, e) := by
  simp only [edit?, hf, htask]

/-! ## Runs of commands -/

/-- **The stores that a run can come to** when every command satisfies a condition where it is
given. -/
inductive Reaches (Allowed : Surroundings → σ → Command → Prop) (s₀ : σ) : σ → Prop
  /-- No command was given. -/
  | start : Reaches Allowed s₀ s₀
  /-- One more command was carried out or refused. -/
  | step {s : σ} (h : Reaches Allowed s₀ s) (w : Surroundings) (c : Command) (hc : Allowed w s c) :
      Reaches Allowed s₀ (c.step w s).1

/-- A condition may be weakened, in view of the store that a run has come to. -/
theorem Reaches.imp {Allowed Allowed' : Surroundings → σ → Command → Prop} {s₀ : σ}
    (himp : ∀ {w s c}, Reaches Allowed s₀ s → Allowed w s c → Allowed' w s c)
    (h : Reaches Allowed s₀ s) : Reaches Allowed' s₀ s := by
  induction h with
  | start => exact .start
  | step h w c hc ih => exact .step ih w c (himp h hc)

/-- The store that commands lead to that are given one after the other. -/
def Command.stepAll (s : σ) (run : List (Surroundings × Command)) : σ :=
  run.foldl (fun s next => (next.2.step next.1 s).1) s

/-- **A property of flows that a whole run keeps.** It must hold of new flows, must be about
nothing that a store changes by itself, and must be kept by every task that a command asks
for. -/
theorem Reaches.all [LawfulStore σ] {Allowed : Surroundings → σ → Command → Prop} {s₀ : σ}
    {P : Flow → Prop} (hwritten : ∀ f : Flow, P f → P f.written)
    (hsaved : ∀ (f : Flow) (now : String), P f → P (f.saved now))
    (hnew : ∀ w name app description, P (Operation.newFlow w name app description))
    (htask : ∀ {w s c f task siblings effect g}, Allowed w s c →
      FlowStore.needBy s (c.argument "flow_id") = .ok f → c.task w f = .ok task →
      FlowTask.run w siblings f task = .ok effect → effect.changed = some g → P f → P g)
    (h : Reaches Allowed s₀ s) (h₀ : FlowStore.All P s₀) : FlowStore.All P s := by
  induction h with
  | start => exact h₀
  | @step s _ w c hc ih =>
    obtain ⟨docs, hkeeps, hP⟩ := ih
    obtain ⟨docs', hkeeps', hchange⟩ := Command.step_change hkeeps w c
    refine ⟨docs', hkeeps', fun id k hk => ?_⟩
    cases hchange with
    | none => exact hP id k hk
    | create name app description =>
      obtain ⟨rfl, rfl⟩ | ⟨-, hk⟩ := Docs.put_eq_some.1 hk
      · exact hnew w name app description
      · exact hP id k hk
    | delete => exact hP id k (Docs.drop_eq_some.1 hk).2
    | save hf hasked hrun hg =>
      obtain ⟨rfl, rfl⟩ | ⟨-, hk⟩ := Docs.put_eq_some.1 hk
      · refine hsaved _ _ (htask hc hf hasked hrun hg ?_)
        obtain ⟨_, d, hd, hread⟩ := FlowStore.needBy_ok hkeeps hf
        obtain rfl | rfl := LawfulStore.readBack_ok hread
        · exact hP _ _ hd
        · exact hwritten d (hP _ d hd)
      · exact hP id k hk

/-- What all documents have, all loaded flows have. -/
theorem FlowStore.All.of_load [LawfulStore σ] {P : Flow → Prop}
    (hwritten : ∀ f : Flow, P f → P f.written) (h : FlowStore.All P s) {id : String} {f : Flow}
    (hf : FlowStore.load s id = .ok (some f)) : P f := by
  obtain ⟨docs, hkeeps, hP⟩ := h
  obtain ⟨d, hd, hread⟩ := (FlowStore.load_eq_some hkeeps).1 hf
  obtain rfl | rfl := LawfulStore.readBack_ok hread
  · exact hP id _ hd
  · exact hwritten d (hP id d hd)

/-- What all documents have, a flow has that is found by a value. -/
theorem FlowStore.All.of_needBy [LawfulStore σ] {P : Flow → Prop}
    (hwritten : ∀ f : Flow, P f → P f.written) (h : FlowStore.All P s) {v : Json} {f : Flow}
    (hf : FlowStore.needBy s v = .ok f) : P f := by
  obtain ⟨docs, hkeeps, hP⟩ := h
  obtain ⟨id, d, hd, hread⟩ := FlowStore.needBy_ok hkeeps hf
  obtain rfl | rfl := LawfulStore.readBack_ok hread
  · exact hP id _ hd
  · exact hwritten d (hP id d hd)

/-- The built-in node types, and ids that are numbered under a name. -/
def numberedSurroundings (name : String) : Surroundings where
  registry := Builtin.registry
  freshId n := name ++ toString n
  now := ""
  endpoint _ := .timeout

end Workflow
