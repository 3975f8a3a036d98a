import Workflow.Proofs.Readable

/-!
# Operations are atomic and local

An operation is carried out as a whole or not at all, and it changes one flow at most. An edit works
on the flow that was loaded, often checks what it is asked for when half of it is done, and the store
sees the flow again only when all checks have passed. So there is nothing to be undone when an
operation is refused, and what an operation leaves can be told by its name and its answer
(`Command.Does`): a flow more, a flow less, one flow saved once more, or the store as it was.

The answer to an edit is not made up beside the flow: the nodes and the connections in it are those
that stand in the flow afterwards (`Edit.Result.IsShown`), and a schema that an answer tells is the
one that the node keeps. On a table this is so only as long as what was saved can be read. A table
takes documents that it cannot give back (`Flow.Keepable`), and after such a save the answer is the
last that is seen of the node.
-/

namespace Workflow

open Outcome

/-! ## What is told of an edit -/

/-- **Whether a flow shows what is told of an edit** that was made of another flow. A node is the last
one of the flow, or the one that is found under its id; connections are the last ones. -/
def Edit.Result.IsShown (f g : Flow) : Edit.Result → Prop
  | .node n => g.nodes = f.nodes ++ [n] ∨ g.findNode? n.id = some n
  | .connection c => g.connections = f.connections ++ [c]
  | .splice n before after => g.nodes = f.nodes ++ [n] ∧
      ∃ kept, kept.Sublist f.connections ∧ g.connections = kept ++ [before, after]
  | .nothing => True

theorem Edit.isShown_of_apply {f g : Flow} {s : Setting} {e : Edit} {result : Edit.Result}
    (h : e.apply f s = .ok (g, result)) : result.IsShown f g := by
  cases e with
  | addNode =>
    obtain ⟨⟨k, n⟩, hk, h⟩ := bind_eq_ok.1 h
    cases pure_eq_ok.1 h
    obtain ⟨rfl, -⟩ := Flow.addNode_ok hk
    exact .inl rfl
  | updateNode =>
    obtain ⟨⟨k, n⟩, hk, h⟩ := bind_eq_ok.1 h
    cases pure_eq_ok.1 h
    exact .inr (Flow.findNode?_of_updateNode hk)
  | moveNode =>
    obtain ⟨⟨k, m⟩, hk, h⟩ := bind_eq_ok.1 h
    cases pure_eq_ok.1 h
    obtain ⟨n, place, hn, -, rfl, rfl⟩ := Flow.moveNode_inv hk
    exact .inr (Flow.findNode?_replaceNode (Flow.id_of_findNode? hn ▸ hn) rfl)
  | connect =>
    obtain ⟨⟨k, c⟩, hk, h⟩ := bind_eq_ok.1 h
    cases pure_eq_ok.1 h
    obtain ⟨-, -, -, -, -, -, -, -, -, rfl⟩ := Flow.connect_ok hk
    exact rfl
  | splice =>
    obtain ⟨⟨k, x, before, after⟩, hk, h⟩ := bind_eq_ok.1 h
    cases pure_eq_ok.1 h
    obtain ⟨-, -, -, -, -, -, -, -, -, -, -, -, -, -, -, -, rfl⟩ := Flow.splice_ok hk
    exact ⟨rfl, _, List.filter_sublist, rfl⟩
  | deleteNode | disconnect =>
    obtain ⟨k, hk, h⟩ := bind_eq_ok.1 h
    cases pure_eq_ok.1 h
    trivial

/-! ## What is told of a task -/

/-- Whether an answer says that a schema was learned that is kept: that of an API call of the flow,
or one that a live test has saved. -/
def Reply.keepsSchema (f : Flow) : Reply → Bool
  | .resolution r => (f.findNode? r.node).any fun n => n.type == Builtin.apiCallName
  | .testReport r _ => r.schemaSaved
  | _ => false

/-- **Whether a flow shows what is told of a task** that has changed another flow: what is told of an
edit, or the schema that is kept. -/
def Reply.IsShown (f g : Flow) : Reply → Prop
  | .edited result => result.IsShown f g
  | .resolution r => ∃ n, g.findNode? r.node = some n ∧
      Entries.get? n.parameters SchemaRule.outputKey = some (Schema.optionToJson r.output)
  | .testReport r _ => ∃ n ∈ g.nodes,
      Entries.get? n.parameters SchemaRule.outputKey = some (Schema.optionToJson r.outputSchema)
  | _ => False

/-- A save leaves what is shown. -/
theorem Reply.IsShown.saved {f g : Flow} {reply : Reply} (h : reply.IsShown f g) (now : String) :
    reply.IsShown f (g.saved now) := by
  cases reply with
  | edited result => cases result <;> exact h
  | resolution | testReport => exact h
  | _ => cases h

namespace FlowTask

variable {w : Surroundings} {siblings : Outcome (List Flow)} {f g : Flow} {effect : Effect}

/-- Whether a task is an edit. -/
def isEdit : FlowTask → Bool
  | .edit _ => true
  | _ => false

/-- A schema that is kept is the one that the node has then. -/
theorem exists_of_keepSchema {node : String} {schema : Schema} {m : Node}
    (h : f.keepSchema node schema = .ok (g, m)) :
    ∃ n, g.findNode? node = some n ∧
      Entries.get? n.parameters SchemaRule.outputKey = some schema.toJson := by
  obtain ⟨n, hn, rfl, rfl⟩ := Flow.keepSchema_inv h
  have hid : (n.keeping schema).id = node := (Flow.id_of_findNode? hn : n.id = node)
  exact ⟨_, Flow.findNode?_replaceNode hn hid, Entries.get?_put_self _ _ _⟩

/-- **What a task tells of what it changes**: it changes the flow when it is an edit or keeps a
schema, and then the flow shows what is told. -/
theorem run_told {task : FlowTask} (h : task.run w siblings f = .ok effect) :
    (effect.changed = none ∧ task.isEdit = false ∧ effect.reply.keepsSchema f = false) ∨
      ∃ g, effect.changed = some g ∧ (task.isEdit || effect.reply.keepsSchema f) = true ∧
        effect.reply.IsShown f g := by
  cases task with
  | tell | listNodes | listConnections =>
    cases h
    exact .inl ⟨rfl, rfl, rfl⟩
  | edit e =>
    obtain ⟨⟨g, result⟩, hg, h⟩ := bind_eq_ok.1 h
    cases pure_eq_ok.1 h
    exact .inr ⟨g, rfl, rfl, Edit.isShown_of_apply hg⟩
  | nodeSchemas node =>
    obtain ⟨n, -, h⟩ := bind_eq_ok.1 h
    obtain ⟨known, -, h⟩ := bind_eq_ok.1 h
    cases pure_eq_ok.1 h
    exact .inl ⟨rfl, rfl, rfl⟩
  | flowSchemas | validate | validateConnection =>
    obtain ⟨report, -, h⟩ := bind_eq_ok.1 h
    cases pure_eq_ok.1 h
    exact .inl ⟨rfl, rfl, rfl⟩
  | resolveSchema node sample =>
    obtain ⟨n, hn, h⟩ := bind_eq_ok.1 h
    have hn : f.findNode? node = some n := Flow.needNode_eq_ok.1 hn
    split at h
    · next htype =>
      obtain ⟨value, -, h⟩ := bind_eq_ok.1 h
      obtain ⟨⟨g, m⟩, hg, h⟩ := bind_eq_ok.1 h
      cases pure_eq_ok.1 h
      exact .inr ⟨g, rfl, by simp [Reply.keepsSchema, hn, htype], exists_of_keepSchema hg⟩
    · next htype =>
      have hquiet : ∀ {isResolved : Bool} {output : Option Schema},
          (Reply.resolution ⟨node, isResolved, output⟩).keepsSchema f = false := by
        simp [Reply.keepsSchema, hn, htype]
      split at h
      · obtain ⟨schema, -, h⟩ := bind_eq_ok.1 h
        cases pure_eq_ok.1 h
        exact .inl ⟨rfl, rfl, hquiet⟩
      · obtain ⟨known, -, h⟩ := bind_eq_ok.1 h
        cases pure_eq_ok.1 h
        exact .inl ⟨rfl, rfl, hquiet⟩
  | testApiCall node mocks save =>
    obtain ⟨n, -, h⟩ := bind_eq_ok.1 h
    obtain ⟨-, h⟩ := refuse_eq_ok.1 h
    obtain ⟨run, hrun, h⟩ := bind_eq_ok.1 h
    split at h
    · next schema hsave hschema =>
      obtain ⟨⟨g, m⟩, hg, h⟩ := bind_eq_ok.1 h
      cases pure_eq_ok.1 h
      obtain ⟨n, hn, hkept⟩ := exists_of_keepSchema hg
      exact .inr ⟨g, rfl, rfl, n, Flow.mem_of_findNode? hn, by rw [hschema]; exact hkept⟩
    · cases pure_eq_ok.1 h
      exact .inl ⟨rfl, rfl, LiveTest.schemaSaved_of_run hrun⟩

end FlowTask

/-! ## What a command does -/

namespace Command

/-- The names of the operations that edit a flow. -/
def editing : List String := [
  "add_node", "update_node", "update_node_position", "delete_node", "add_connection",
  "delete_connection", "insert_transformer"]

/-- **Whether a command that was answered so has changed a flow**: it edits the flow, or the answer
says that a schema is kept. -/
def mutates (c : Command) (f : Flow) (reply : Reply) : Bool :=
  editing.contains c.name || reply.keepsSchema f

variable {w : Surroundings} {c : Command} {f : Flow} {task : FlowTask}

/-- The tasks that a name of an edit asks for are edits, and no others are. -/
theorem isEdit_of_task (h : c.task w f = .ok task) : task.isEdit = editing.contains c.name := by
  have hread : ∀ {α : Type} {x : Outcome α} {k : α → FlowTask} {b : Bool},
      (do return k (← x)) = .ok task → (∀ a, (k a).isEdit = b) → task.isEdit = b := by
    intro α x k b h hk
    obtain ⟨a, -, h⟩ := bind_eq_ok.1 h
    cases pure_eq_ok.1 h
    exact hk a
  unfold Command.task at h
  split at h
  case h_17 => cases h
  -- each name asks for a task of one kind, at once or when an argument was read
  all_goals
    next hname =>
    rw [hname]
    first
    | exact hread h fun _ => rfl
    | cases h; rfl

/-- A command that creates or deletes a flow asks for no task. -/
theorem name_ne_of_task (h : c.task w f = .ok task) :
    c.name ≠ "create_flow" ∧ c.name ≠ "delete_flow" := by
  unfold Command.task at h
  constructor
  · intro hname
    rw [hname] at h
    cases h
  · intro hname
    rw [hname] at h
    cases h

variable {σ : Type} [FlowStore σ]

/-- **What a command does** to a store, and what it answers, one case for each kind of change. -/
inductive Does (c : Command) (s : σ) : σ → Outcome Reply → Prop
  /-- The command is refused, and the store is what it was. -/
  | refuse {failure : Failure} : Does c s s (.error failure)
  /-- The answer tells something, and the store is what it was. -/
  | tell {reply : Reply} (hname : c.name ≠ "create_flow" ∧ c.name ≠ "delete_flow")
      (hmutates : ∀ f, FlowStore.needBy s (c.argument "flow_id") = .ok f →
        c.mutates f reply = false) :
      Does c s s (.ok reply)
  /-- A flow is there that was not, and the answer tells it. -/
  | create {s' : σ} {f : Flow} (hname : c.name = "create_flow")
      (hbefore : FlowStore.load s f.id = .ok none) (hafter : FlowStore.load s' f.id = .ok (some f))
      (hothers : ∀ id, id ≠ f.id → FlowStore.load s' id = FlowStore.load s id) :
      Does c s s' (.ok (.flow f))
  /-- The flow that was asked for is gone. -/
  | delete {s' : σ} {f : Flow} (hname : c.name = "delete_flow")
      (hf : FlowStore.needBy s (c.argument "flow_id") = .ok f)
      (hbefore : FlowStore.load s f.id = .ok (some f)) (hafter : FlowStore.load s' f.id = .ok none)
      (hothers : ∀ id, id ≠ f.id → FlowStore.load s' id = FlowStore.load s id) :
      Does c s s' (.ok .done)
  /-- The flow that was asked for was saved once more. Nothing of it is new but its nodes and its
  connections, and what the answer tells is there. -/
  | mutate {s' : σ} {f g : Flow} {reply : Reply}
      (hf : FlowStore.needBy s (c.argument "flow_id") = .ok f) (hmutates : c.mutates f reply = true)
      (hbefore : FlowStore.load s f.id = .ok (some f))
      (hafter : FlowStore.load s' f.id = .ok (some g))
      (hframe : g = { f with
        nodes := g.nodes
        connections := g.connections
        version := f.version + 1
        updatedAt := g.updatedAt })
      (hshown : reply.IsShown f g)
      (hothers : ∀ id, id ≠ f.id → FlowStore.load s' id = FlowStore.load s id) :
      Does c s s' (.ok reply)

end Command

/-! ## Stores that load what they keep -/

/-- **Documents that are loaded as they are.** -/
def Docs.Faithful (σ : Type) [FlowStore σ] [LawfulStore σ] (docs : Docs) : Prop :=
  ∀ id f, docs id = some f → LawfulStore.readBack σ f = .ok f

namespace Docs.Faithful

variable {σ : Type} [FlowStore σ] [LawfulStore σ] {s : σ} {docs : Docs} {f : Flow}

theorem put (h : docs.Faithful σ) (hf : LawfulStore.readBack σ f = .ok f) :
    (docs.put f).Faithful σ := by
  intro id g hg
  obtain ⟨rfl, rfl⟩ | ⟨-, hg⟩ := Docs.put_eq_some.1 hg
  · exact hf
  · exact h id g hg

theorem drop (h : docs.Faithful σ) (gone : String) : (docs.drop gone).Faithful σ :=
  fun id g hg => h id g (Docs.drop_eq_some.1 hg).2

theorem load_eq (h : docs.Faithful σ) (hkeeps : LawfulStore.Keeps s docs) (id : String) :
    FlowStore.load s id = .ok (docs id) :=
  FlowStore.load_eq_docs hkeeps (h id)

/-- A flow that is found is a document. -/
theorem eq_some_of_needBy (h : docs.Faithful σ) (hkeeps : LawfulStore.Keeps s docs) {v : Json}
    (hf : FlowStore.needBy s v = .ok f) : docs f.id = some f := by
  obtain ⟨id, d, hd, hread⟩ := FlowStore.needBy_ok hkeeps hf
  obtain rfl : d = f := Except.ok.inj ((h id d hd).symm.trans hread)
  rwa [LawfulStore.id_eq hkeeps hd]

/-- Where one document is put, the others are loaded as before. -/
theorem load_of_put {s' : σ} (h : docs.Faithful σ) (hkeeps : LawfulStore.Keeps s docs)
    (hkeeps' : LawfulStore.Keeps s' (docs.put f)) (hf : LawfulStore.readBack σ f = .ok f) :
    FlowStore.load s' f.id = .ok (some f) ∧
      ∀ id, id ≠ f.id → FlowStore.load s' id = FlowStore.load s id := by
  refine ⟨?_, fun id hid => ?_⟩
  · rw [(h.put hf).load_eq hkeeps', Docs.put_self]
  · rw [(h.put hf).load_eq hkeeps', h.load_eq hkeeps, Docs.put_of_ne hid]

end Docs.Faithful

/-- Where a task that has changed a flow is carried out, the flow was saved. -/
theorem Operation.exists_save_of_conclude {σ : Type} [FlowStore σ] {w : Surroundings} {s : σ}
    {effect : Effect} {g : Flow} {x : σ × Reply} (hg : effect.changed = some g)
    (h : conclude w s effect = .ok x) : ∃ p, FlowStore.save s g w.now = .ok p := by
  unfold conclude at h
  rw [hg] at h
  obtain ⟨p, hsave, -⟩ := bind_eq_ok.1 h
  exact ⟨p, hsave⟩

namespace Command

variable {σ : Type} [FlowStore σ] [LawfulStore σ] {w : Surroundings} {c : Command} {s s' : σ}
  {docs : Docs} {reply : Reply}

/-- **What a task does**: nothing, or one flow is saved once more. -/
theorem does_of_task {f : Flow} {task : FlowTask} {effect : Effect}
    (hkeeps : LawfulStore.Keeps s docs) (hdocs : docs.Faithful σ)
    (hf : FlowStore.needBy s (c.argument "flow_id") = .ok f) (htask : c.task w f = .ok task)
    (hrun : task.run w (FlowStore.siblings s f) f = .ok effect)
    (hconclude : Operation.conclude w s effect = .ok (s', reply))
    (hsaved : ∀ g, effect.changed = some g →
      LawfulStore.readBack σ (g.saved w.now) = .ok (g.saved w.now)) : c.Does s s' (.ok reply) := by
  have hmutates : ∀ {b : Bool}, (task.isEdit || effect.reply.keepsSchema f) = b →
      c.mutates f effect.reply = b := by
    intro b hb
    rwa [mutates, ← isEdit_of_task htask]
  obtain ⟨rfl, hs'⟩ := conclude_change hkeeps hconclude
  obtain ⟨hchanged, hedit, hkept⟩ | ⟨g, hg, hchanges, hshown⟩ := FlowTask.run_told hrun
  · obtain ⟨rfl, -⟩ | ⟨g, hg, -⟩ := hs'
    · refine .tell (name_ne_of_task htask) fun k hk => ?_
      obtain rfl : k = f := Except.ok.inj (hk.symm.trans hf)
      exact hmutates (by rw [hedit, hkept, Bool.or_self])
    · rw [hchanged] at hg
      cases hg
  · obtain ⟨rfl, hnone⟩ | ⟨k, hk, -, hkeeps'⟩ := hs'
    · rw [hnone] at hg
      cases hg
    · obtain rfl : g = k := Option.some.inj (hg.symm.trans hk)
      have hframe := FlowTask.run_frame hrun hg
      have hid : g.id = f.id := by rw [hframe]
      obtain ⟨hafter, hothers⟩ := hdocs.load_of_put hkeeps hkeeps' (hsaved g hg)
      rw [show (g.saved w.now).id = f.id from hid] at hafter hothers
      refine .mutate hf (hmutates hchanges) ?_ hafter (congrArg (Flow.saved · w.now) hframe)
        (hshown.saved w.now) hothers
      rw [hdocs.load_eq hkeeps, hdocs.eq_some_of_needBy hkeeps hf]

/-- **What one step does** to a store that loads all documents as they are, if what is created or
saved is loaded so as well. -/
theorem does_step (hkeeps : LawfulStore.Keeps s docs) (hdocs : docs.Faithful σ)
    (hnew : ∀ name app description, LawfulStore.readBack σ
      (Operation.newFlow w name app description) = .ok (Operation.newFlow w name app description))
    (hsaved : ∀ {f task effect g p}, FlowStore.needBy s (c.argument "flow_id") = .ok f →
      c.task w f = .ok task → task.run w (FlowStore.siblings s f) f = .ok effect →
      effect.changed = some g → FlowStore.save s g w.now = .ok p →
      LawfulStore.readBack σ (g.saved w.now) = .ok (g.saved w.now)) :
    c.Does s (c.step w s).1 (c.step w s).2 := by
  unfold step
  split
  · next s' reply hs =>
    cases ran_of_run hkeeps hs with
    | create hname name app description hcreate =>
      obtain ⟨hfresh, hkeeps'⟩ := LawfulStore.create_ok hkeeps hcreate
      obtain ⟨hafter, hothers⟩ :=
        hdocs.load_of_put hkeeps hkeeps' (hnew name app description)
      exact .create hname (by rw [hdocs.load_eq hkeeps, hfresh]) hafter hothers
    | list hname | typeSchemas hname =>
      refine .tell (by rw [hname]; decide) fun f _ => ?_
      rw [mutates, hname]
      rfl
    | @delete f hname hf =>
      have hkeeps' := LawfulStore.delete_keeps f.id hkeeps
      refine .delete hname hf ?_ ?_ fun id hid => ?_
      · rw [hdocs.load_eq hkeeps, hdocs.eq_some_of_needBy hkeeps hf]
      · rw [(hdocs.drop f.id).load_eq hkeeps', Docs.drop_self]
      · rw [(hdocs.drop f.id).load_eq hkeeps', hdocs.load_eq hkeeps, Docs.drop_of_ne hid]
    | task hf htask hrun hconclude =>
      refine does_of_task hkeeps hdocs hf htask hrun hconclude fun g hg => ?_
      obtain ⟨p, hsave⟩ := Operation.exists_save_of_conclude hg hconclude
      exact hsaved hf htask hrun hg hsave
  · exact .refuse

end Command

/-- **Operations are atomic and local.** Whatever command is given to a store in memory, it is refused
and the store is what it was, or it does to one flow what its name and its answer say, and nothing
else. The same holds for a table that was used by commands which bring nothing into a flow that
cannot be kept, when the command does not bring such a thing either. -/
theorem atomic_step {t : Table} (ht : Reaches Command.BringsKeepable FlowStore.empty t) (s : Memory)
    (w : Surroundings) (c : Command) :
    c.Does s (c.step w s).1 (c.step w s).2 ∧
      (c.BringsKeepable w t → c.Does t (c.step w t).1 (c.step w t).2) := by
  constructor
  · have hkeeps : LawfulStore.Keeps s s.find? := fun _ => rfl
    exact Command.does_step hkeeps (fun _ _ _ => rfl) (fun _ _ _ => rfl) fun _ _ _ _ _ => rfl
  · intro hc
    obtain ⟨docs, hkeeps, hall⟩ := keepable_of_reaches ht
    have hdocs : docs.Faithful Table := fun id f hf =>
      (hall id f hf).flow_ofFlow (hkeeps.fits hf)
    refine Command.does_step hkeeps hdocs
      (fun _ _ _ => Flow.Keepable.flow_ofFlow (List.forall_mem_nil _) rfl) ?_
    intro f task effect g p hf htask hrun hg hsave
    have hf' : f.Keepable := hall f.id f (hdocs.eq_some_of_needBy hkeeps hf)
    have hg' : g.Keepable := hc.changed hf htask hrun hg hf'
    exact Flow.Keepable.flow_ofFlow (show (g.saved w.now).Keepable from hg')
      (Table.fitsWord_saved (Table.fitsColumn_of_save hsave) w.now)

/-! ### A run -/

/-- A table with a flow of three nodes, the second of which is called a view. -/
def samplePlaced : Table :=
  Command.stepAll FlowStore.empty samplePlaces

/-- The command that gives the view a parameter and another name. -/
def sampleRenaming (name : String) : Command where
  name := "update_node"
  arguments := [("flow_id", .str "flow1"), ("node_id", .str "view1"), ("name", .str name),
    ("parameters", .obj [("note", .str "new")])]

/-- A name that another node has is refused, though the parameter was laid over the others before.
With a name of its own the node is saved, and loaded with the parameter. -/
theorem atomic_step_samplePlaced :
    ((sampleRenaming "Search").step (numberedSurroundings "") samplePlaced).2.isOk = false ∧
    (sampleRenaming "Search").Does samplePlaced
      ((sampleRenaming "Search").step (numberedSurroundings "") samplePlaced).1
      ((sampleRenaming "Search").step (numberedSurroundings "") samplePlaced).2 ∧
    ((FlowStore.load ((sampleRenaming "Detail").step (numberedSurroundings "") samplePlaced).1
        "flow1").toOption.join.bind fun f => (f.findNode? "view1").map fun n =>
          (f.version, n.name, (Entries.get? n.parameters "note").bind Json.text?)) =
      some (5, "Detail", some "new") ∧
    (sampleRenaming "Detail").Does samplePlaced
      ((sampleRenaming "Detail").step (numberedSurroundings "") samplePlaced).1
      ((sampleRenaming "Detail").step (numberedSurroundings "") samplePlaced).2 := by
  have hregistry : Builtin.registry.Keepable := by decide +kernel
  have hreaches : Reaches Command.BringsKeepable FlowStore.empty samplePlaced := by
    refine .step (.step (.step (.step (.step .start _ _ ?_) _ _ ?_) _ _ ?_) _ _ ?_) _ _ ?_
    all_goals exact ⟨hregistry, by decide +kernel⟩
  refine ⟨by decide +kernel, ?_, by decide +kernel, ?_⟩
  · exact (atomic_step hreaches FlowStore.empty _ _).2 ⟨hregistry, by decide +kernel⟩
  · exact (atomic_step hreaches FlowStore.empty _ _).2 ⟨hregistry, by decide +kernel⟩

end Workflow
