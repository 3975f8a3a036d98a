import Workflow.Proofs.Capture
import Workflow.Proofs.Clients

/-!
# Works of clients

What clients of a store do is more than any change of a flow (`Act`): they carry out tasks. A
client loads a flow, the task runs on the copy – a live test sends its request then –, and what
the task has changed is saved. `Work` is one step of this, and the steps come in any order.

**A captured schema never outlives its request** (`KeepsRequests`). Where an API call has a schema,
some save that succeeded has stored it, and it is still about the request that the node had in the
document that was saved. The reason is in two parts. What a task makes of the flow that it was
given is about the same request (`FlowTask.run_isAbout`), and what it was given is what was stored
when the save succeeded, for the version would have been another one otherwise
(`Scene.load_of_save`).
-/

namespace Workflow

open Outcome

/-! ## What stores keep of values -/

namespace Json

/-- **What is kept of values**, as far as it matters to captured schemas. -/
structure IsKeeping (keep : Json → Json) : Prop where
  /-- Null is kept. -/
  null : keep .null = .null
  /-- What is kept is kept again. -/
  keep_keep (v : Json) : keep (keep v) = keep v
  /-- What counts as given when it was kept did so before. -/
  isTruthy {v : Json} : (keep v).isTruthy = true → v.isTruthy = true
  /-- Equality is kept. -/
  alike {v w : Json} : Alike v w → Alike (keep v) (keep w)
  /-- References are kept. -/
  redirectText (old new : String) (v : Json) :
    keep (Node.redirectText old new v) = Node.redirectText old new (keep v)

theorem isKeeping_id : IsKeeping id :=
  ⟨rfl, fun _ => rfl, id, id, fun _ _ _ => rfl⟩

theorem isKeeping_written : IsKeeping written where
  null := rfl
  keep_keep := written_written
  isTruthy := isTruthy_of_written
  alike := Alike.written
  redirectText old new v := by
    cases v with
    | float x =>
      show written (float x) = Node.redirectText old new (written (float x))
      unfold written
      split <;> rfl
    | _ => rfl

end Json

/-- What is kept of a node. -/
def Node.kept (keep : Json → Json) (n : Node) : Node :=
  { n with parameters := Entries.mapValues keep n.parameters }

/-- What is kept of a flow. -/
def Flow.kept (keep : Json → Json) (f : Flow) : Flow :=
  { f with nodes := f.nodes.map (Node.kept keep) }

/-- **A store that keeps of all values the same**, whichever flow they stand in. -/
class UniformStore (σ : Type) [FlowStore σ] [LawfulStore σ] where
  /-- What is kept of a value. -/
  keep : Json → Json
  /-- Captured schemas and requests survive it. -/
  isKeeping : Json.IsKeeping keep
  /-- A flow is loaded as far as it was kept. -/
  readBack_ok {d f : Flow} : LawfulStore.readBack σ d = .ok f → f = d.kept keep

instance : UniformStore Memory where
  keep := id
  isKeeping := Json.isKeeping_id
  readBack_ok := by
    intro d f h
    have hnode : Node.kept id = id := funext fun n => by simp [Node.kept, Entries.mapValues]
    rw [← Except.ok.inj h, Flow.kept, hnode, List.map_id]

instance : UniformStore Table where
  keep := Json.written
  isKeeping := Json.isKeeping_written
  readBack_ok := by
    intro d f h
    have hnode : Node.kept Json.written = Node.written := funext fun n => by
      rw [Node.kept, Node.written, Json.writtenMembers_eq_mapValues]
    obtain rfl := (Row.flow_ofFlow.1 h).2.2
    rw [Flow.kept, hnode, Flow.written]

namespace Node

variable {keep : Json → Json} {n m : Node} {key : String}

theorem value_kept (h : Json.IsKeeping keep) : (n.kept keep).value key = keep (n.value key) := by
  show (Entries.get? (Entries.mapValues keep n.parameters) key).getD .null = _
  rw [Entries.get?_mapValues, value]
  cases Entries.get? n.parameters key with
  | none => exact h.null.symm
  | some v => rfl

theorem kept_kept (h : Json.IsKeeping keep) (n : Node) : (n.kept keep).kept keep = n.kept keep := by
  simp [kept, Entries.mapValues, h.keep_keep]

theorem redirectAll_kept (h : Json.IsKeeping keep) (renamings : List (String × String)) (v : Json) :
    keep (redirectAll renamings v) = redirectAll renamings (keep v) := by
  induction renamings generalizing v with
  | nil => rfl
  | cons r renamings ih => exact (ih _).trans (congrArg _ (h.redirectText r.1 r.2 v))

/-- **What is kept of a node** is about what is kept of the other one. -/
theorem IsAbout.kept {renamings : List (String × String)} (h : Json.IsKeeping keep)
    (habout : n.IsAbout renamings m) : (n.kept keep).IsAbout renamings (m.kept keep) where
  id := habout.id
  type := habout.type
  schema := by rw [value_kept h, value_kept h, habout.schema]
  method := by
    rw [value_kept h, value_kept h]
    exact h.alike habout.method
  url := by
    rw [value_kept h, value_kept h, ← redirectAll_kept h]
    exact h.alike habout.url

/-- Equal addresses are equal when their references have followed: only texts have any, and a
text equals itself only. -/
theorem alike_redirectText {v w : Json} (old new : String) (h : Json.Alike v w) :
    Json.Alike (redirectText old new v) (redirectText old new w) := by
  obtain rfl | h := h
  · exact .refl _
  · cases v with
    | str s =>
      rw [Json.same_str_iff.1 h]
      exact .refl _
    | _ =>
      cases w with
      | str t => cases Json.eq_str_of_same h
      | _ => exact .inr h

theorem alike_redirectAll {v w : Json} (renamings : List (String × String)) (h : Json.Alike v w) :
    Json.Alike (redirectAll renamings v) (redirectAll renamings w) := by
  induction renamings generalizing v w with
  | nil => exact h
  | cons r renamings ih => exact ih (alike_redirectText r.1 r.2 h)

/-- A node is about what the node was about that it is about. -/
theorem IsAbout.trans {k : Node} {renamings earlier : List (String × String)}
    (hnm : n.IsAbout renamings m) (hmk : m.IsAbout earlier k) :
    n.IsAbout (earlier ++ renamings) k where
  id := hmk.id.trans hnm.id
  type := hmk.type.trans hnm.type
  schema := hnm.schema.trans hmk.schema
  method := hnm.method.trans hmk.method
  url := by
    rw [redirectAll, List.foldl_append]
    exact hnm.url.trans (alike_redirectAll renamings hmk.url)

end Node

/-! ## Works -/

/-- What a task has made of a flow is a draft of it: it has its id and its version. -/
theorem FlowTask.draft_of_run {w : Surroundings} {siblings : Outcome (List Flow)} {task : FlowTask}
    {f g : Flow} {effect : Effect} (h : task.run w siblings f = .ok effect)
    (hg : effect.changed = some g) : f.draft (fun _ => g) = g := by
  rw [run_frame h hg]
  rfl

/-- **A step of a client that carries out tasks.** -/
inductive Work (ι : Type) where
  /-- A flow without nodes is created. -/
  | create (w : Surroundings) (name : String) (app description : Option String)
  /-- A client loads a flow. -/
  | load (client : ι) (flow : String)
  /-- A client saves what a task has made of the flow that it loaded last, given what was told of
  the other flows of the app. -/
  | save (client : ι) (w : Surroundings) (siblings : Outcome (List Flow)) (task : FlowTask)
  /-- A flow is deleted. -/
  | delete (flow : String)

/-- Whether an update gives each parameter once. -/
def Work.IsProper {ι : Type} : Work ι → Prop
  | .save _ _ _ task => task.IsProper
  | _ => True

/-- **A save that succeeded**: the task, the flow that it was given, and what it has made of it. -/
structure Saved where
  /-- What the task drew on. -/
  surroundings : Surroundings
  /-- The task. -/
  task : FlowTask
  /-- The flow as it was loaded. -/
  before : Flow
  /-- The flow as it was saved. -/
  after : Flow

namespace Saved

/-- Whether the task has stored a schema at a node. -/
def Stores (saved : Saved) (node : String) : Prop :=
  saved.task.Stores saved.surroundings node

/-- The renaming of another node, if the task was one. -/
def renaming? (saved : Saved) (node : String) : Option (String × String) :=
  saved.task.renaming? saved.before saved.after node

end Saved

namespace Scene

variable {ι σ : Type} [DecidableEq ι] [FlowStore σ]

/-- What a work asks of the store: nothing, where there is nothing to save. -/
def act? (a : Scene ι σ) : Work ι → Option (Act ι)
  | .create w name app description => some (.create (Operation.newFlow w name app description))
  | .load client flow => some (.load client flow)
  | .save client w siblings task =>
    match a.held client with
    | none => none
    | some f =>
      match task.run w siblings f with
      | .ok ⟨_, some g⟩ => some (.save client (fun _ => g) w.now)
      | _ => none
  | .delete flow => some (.delete flow)

/-- **One work.** -/
def work (a : Scene ι σ) (x : Work ι) : Scene ι σ :=
  (a.act? x).elim a a.act

/-- **Works**, in the order of the list. -/
def works (a : Scene ι σ) (xs : List (Work ι)) : Scene ι σ :=
  xs.foldl work a

/-- What works ask of the store. -/
def acts (a : Scene ι σ) : List (Work ι) → List (Act ι)
  | [] => []
  | x :: xs => (a.act? x).toList ++ acts (a.work x) xs

/-- The save of a flow that a work is, if it succeeds. -/
def saved? (a : Scene ι σ) (flow : String) : Work ι → Option Saved
  | .save client w siblings task =>
    match a.held client with
    | none => none
    | some f =>
      match task.run w siblings f with
      | .ok ⟨_, some g⟩ =>
        match FlowStore.save a.store g w.now with
        | .ok _ => if f.id = flow then some ⟨w, task, f, g⟩ else none
        | .error _ => none
      | _ => none
  | _ => none

/-- The saves of a flow among works. -/
def saves (a : Scene ι σ) (flow : String) : List (Work ι) → List Saved
  | [] => []
  | x :: xs => (a.saved? flow x).toList ++ saves (a.work x) flow xs

theorem works_eq_run (a : Scene ι σ) (xs : List (Work ι)) : a.works xs = a.run (a.acts xs) := by
  induction xs generalizing a with
  | nil => rfl
  | cons x xs ih =>
    show (a.work x).works xs = a.run ((a.act? x).toList ++ (a.work x).acts xs)
    rw [run_append, ih]
    unfold work
    cases a.act? x <;> rfl

theorem works_append (a : Scene ι σ) (xs ys : List (Work ι)) :
    a.works (xs ++ ys) = (a.works xs).works ys :=
  List.foldl_append ..

theorem acts_append (a : Scene ι σ) (xs ys : List (Work ι)) :
    a.acts (xs ++ ys) = a.acts xs ++ (a.works xs).acts ys := by
  induction xs generalizing a with
  | nil => rfl
  | cons x xs ih =>
    show (a.act? x).toList ++ (a.work x).acts (xs ++ ys) = _
    rw [ih, ← List.append_assoc]
    rfl

theorem saves_append (a : Scene ι σ) (flow : String) (xs ys : List (Work ι)) :
    a.saves flow (xs ++ ys) = a.saves flow xs ++ (a.works xs).saves flow ys := by
  induction xs generalizing a with
  | nil => rfl
  | cons x xs ih =>
    show (a.saved? flow x).toList ++ (a.work x).saves flow (xs ++ ys) = _
    rw [ih, ← List.append_assoc]
    rfl

/-- What comes back in a part of a run comes back in the whole run. -/
theorem Revives.append {a : Scene ι σ} {xs : List (Act ι)} (h : a.Revives xs) (ys : List (Act ι)) :
    a.Revives (xs ++ ys) := by
  obtain ⟨before, between, f, after, rfl, hthere, hgone⟩ := h
  exact ⟨before, between, f, after ++ ys, by simp, hthere, hgone⟩

/-! ## What a work does -/

/-- **What a work can do** to the documents of a store. -/
inductive WorkChange (a : Scene ι σ) (docs : Docs) : Work ι → Docs → Prop
  /-- Nothing, and it is no save that succeeds. -/
  | none {x : Work ι} (h : ∀ flow, a.saved? flow x = none) : WorkChange a docs x docs
  /-- A flow without nodes is created. -/
  | create {w : Surroundings} {name : String} {app description : Option String} :
      WorkChange a docs (.create w name app description)
        (docs.put (Operation.newFlow w name app description))
  /-- What a task has made of the flow that the client holds is saved. -/
  | save {client : ι} {w : Surroundings} {siblings : Outcome (List Flow)} {task : FlowTask}
      {f g : Flow} {effect : Effect} (hheld : a.held client = some f)
      (hrun : task.run w siblings f = .ok effect) (hg : effect.changed = some g)
      (hsaved : ∀ flow, a.saved? flow (.save client w siblings task)
        = if f.id = flow then some ⟨w, task, f, g⟩ else none)
      (hsave : ∃ s, FlowStore.save a.store g w.now = .ok (s, g.saved w.now)) :
      WorkChange a docs (.save client w siblings task) (docs.put (g.saved w.now))
  /-- A flow is deleted. -/
  | delete {flow : String} : WorkChange a docs (.delete flow) (docs.drop flow)

section Change

variable [LawfulStore σ] {a : Scene ι σ} {docs : Docs}

/-- A work that asks nothing of the store. -/
theorem idle_change (h : LawfulStore.Keeps a.store docs) {x : Work ι} (hact : a.act? x = none)
    (hsaved : ∀ flow, a.saved? flow x = none) :
    ∃ docs', LawfulStore.Keeps (a.work x).store docs' ∧ a.WorkChange docs x docs' := by
  refine ⟨docs, ?_, .none hsaved⟩
  rw [work, hact]
  exact h

/-- The save of what a task has made of the flow that the client holds. -/
theorem save_change (h : LawfulStore.Keeps a.store docs) {client : ι} {w : Surroundings}
    {siblings : Outcome (List Flow)} {task : FlowTask} {reply : Reply} {f g : Flow}
    (hheld : a.held client = some f) (hrun : task.run w siblings f = .ok ⟨reply, some g⟩) :
    ∃ docs', LawfulStore.Keeps (a.work (.save client w siblings task)).store docs' ∧
      a.WorkChange docs (.save client w siblings task) docs' := by
  have hdraft : f.draft (fun _ => g) = g := FlowTask.draft_of_run hrun rfl
  have hwork : a.work (.save client w siblings task) = a.act (.save client (fun _ => g) w.now) := by
    simp only [work, act?, hheld, hrun, Option.elim_some]
  cases hs : FlowStore.save a.store g w.now with
  | error e =>
    refine ⟨docs, ?_, .none fun flow => by simp only [saved?, hheld, hrun, hs]⟩
    rw [hwork, act_save_error hheld (hdraft.symm ▸ hs)]
    exact h
  | ok saved =>
    obtain ⟨s, k⟩ := saved
    obtain ⟨hguard, hkeeps⟩ := LawfulStore.save_ok h hs
    obtain rfl := (Docs.save_eq_ok.1 hguard).2
    refine ⟨_, ?_, .save hheld hrun rfl (fun flow => ?_) ⟨s, hs⟩⟩
    · rwa [hwork, act_save_ok hheld (hdraft.symm ▸ hs)]
    · simp only [saved?, hheld, hrun, hs]

/-- **What one work does.** -/
theorem work_change (h : LawfulStore.Keeps a.store docs) (x : Work ι) :
    ∃ docs', LawfulStore.Keeps (a.work x).store docs' ∧ a.WorkChange docs x docs' := by
  cases x with
  | create w name app description =>
    show ∃ docs', LawfulStore.Keeps
      (a.act (.create (Operation.newFlow w name app description))).store docs' ∧ _
    unfold act
    dsimp only
    split
    · next s hs => exact ⟨_, (LawfulStore.create_ok h hs).2, .create⟩
    · exact ⟨docs, h, .none fun flow => rfl⟩
  | load client flow =>
    refine ⟨docs, ?_, .none fun flow => rfl⟩
    show LawfulStore.Keeps (a.act (.load client flow)).store docs
    unfold act
    dsimp only
    split <;> exact h
  | save client w siblings task =>
    cases hheld : a.held client with
    | none =>
      exact idle_change h (by simp only [act?, hheld]) fun flow => by simp only [saved?, hheld]
    | some f =>
      cases hrun : task.run w siblings f with
      | error e =>
        exact idle_change h (by simp only [act?, hheld, hrun]) fun flow => by
          simp only [saved?, hheld, hrun]
      | ok effect =>
        obtain ⟨reply, _ | g⟩ := effect
        · exact idle_change h (by simp only [act?, hheld, hrun]) fun flow => by
            simp only [saved?, hheld, hrun]
        · exact save_change h hheld hrun
  | delete flow => exact ⟨_, LawfulStore.delete_keeps flow h, .delete⟩

/-- **A save that succeeds** replaces the flow that its client has loaded: it would have met
another version otherwise. -/
theorem load_of_save {s₀ s : σ} {xs : List (Work ι)} {client : ι} {f g k : Flow} {now : String}
    (hsound : FlowStore.All (fun _ => True) s₀)
    (hrevives : ¬ (start ι s₀).Revives ((start ι s₀).acts xs))
    (hheld : ((start ι s₀).works xs).held client = some f) (hdraft : f.draft (fun _ => g) = g)
    (hs : FlowStore.save ((start ι s₀).works xs).store g now = .ok (s, k)) :
    FlowStore.load ((start ι s₀).works xs).store f.id = .ok (some f) := by
  rw [works_eq_run] at hheld hs ⊢
  have hpromise : NoLostUpdate σ fun _ => False := noLostUpdate_of_fits fun _ _ h => h.elim
  have hsafe := hpromise ι s₀ _ hsound hrevives client f (fun _ => g) now hheld
  unfold SavesSafely at hsafe
  extract_lets a at hsafe
  rw [hdraft, hs] at hsafe
  exact hsafe.2.2.1.current

end Change

/-! ## Captured schemas -/

section Captured

variable [LawfulStore σ] [UniformStore σ]

/-- **A node of a flow that is kept**, as far as it is kept. -/
def Holds (a : Scene ι σ) (flow : String) (n : Node) : Prop :=
  ∃ docs d, LawfulStore.Keeps a.store docs ∧ docs flow = some d ∧
    n ∈ (d.kept (UniformStore.keep σ)).nodes

/-- **A schema was captured by a work**, after which there were others: the work has stored it at
the node, none of the later ones has stored another one there, and it is about the request that
the node had when the work was done. -/
structure Captures (a : Scene ι σ) (x : Work ι) (after : List (Work ι)) (flow : String)
    (n : Node) : Prop where
  /-- The work is a save that has stored a schema at the node. -/
  stores : ∃ saved, a.saved? flow x = some saved ∧ saved.Stores n.id
  /-- No later save has. -/
  last : ∀ later ∈ (a.work x).saves flow after, ¬ later.Stores n.id
  /-- The request is the one that the node had, but for renamings of other nodes. -/
  isAbout : ∃ m, (a.work x).Holds flow m ∧
    n.IsAbout (((a.work x).saves flow after).filterMap (Saved.renaming? · n.id)) m

/-- **Where an API call has a schema**, some work has captured it. -/
def IsCaptured (a : Scene ι σ) (xs : List (Work ι)) (flow : String) (n : Node) : Prop :=
  n.type = Builtin.apiCallName → (n.value SchemaRule.outputKey).isTruthy = true →
    ∃ before x after, xs = before ++ x :: after ∧ (a.works before).Captures x after flow n

variable {a : Scene ι σ} {xs : List (Work ι)} {x : Work ι} {flow : String} {n m : Node}

/-- **One work more** leaves a schema captured, when it does not store one at the node itself and
the node is about what it was about. -/
theorem IsCaptured.snoc (h : a.IsCaptured xs flow m)
    (habout : n.IsAbout
      (((a.works xs).saved? flow x).toList.filterMap (Saved.renaming? · n.id)) m)
    (hlast : ∀ saved, (a.works xs).saved? flow x = some saved → ¬ saved.Stores n.id) :
    a.IsCaptured (xs ++ [x]) flow n := by
  intro htype hschema
  have hid : m.id = n.id := habout.id
  obtain ⟨before, y, after, rfl, hstores, hlater, k, hk, hkabout⟩ :=
    h (habout.type.trans htype) (habout.schema ▸ hschema)
  rw [hid] at hstores hlater hkabout
  have hsaves : ((a.works before).work y).saves flow (after ++ [x])
      = ((a.works before).work y).saves flow after
        ++ ((a.works (before ++ y :: after)).saved? flow x).toList := by
    rw [saves_append, works_append]
    exact congrArg _ (List.append_nil _)
  refine ⟨before, y, after ++ [x], by simp, hstores, fun later hlater' => ?_, k, hk, ?_⟩
  · rw [hsaves, List.mem_append, Option.mem_toList] at hlater'
    exact hlater'.elim (hlater later) (hlast later)
  · rw [hsaves, List.filterMap_append]
    exact habout.trans hkabout

/-- Where no save of the flow succeeds, all stays as it is. -/
theorem IsCaptured.snoc_of_eq_none (h : a.IsCaptured xs flow n)
    (hnone : (a.works xs).saved? flow x = none) : a.IsCaptured (xs ++ [x]) flow n := by
  refine h.snoc ?_ fun saved hsaved => ?_
  · rw [hnone]
    exact .refl n
  · rw [hnone] at hsaved
    cases hsaved

/-- **A save that succeeds** leaves all schemas captured, when they were so in the flow that the
task was given: it has stored a schema at the node, or left the node a schema with its request. -/
theorem isCaptured_of_saved? {saved : Saved} {siblings : Outcome (List Flow)} {effect : Effect}
    (hsaved : (a.works xs).saved? flow x = some saved)
    (hrun : saved.task.run saved.surroundings siblings saved.before = .ok effect)
    (hg : effect.changed = some saved.after) (hproper : saved.task.IsProper)
    (hbefore : ∀ m ∈ saved.before.nodes,
      m.kept (UniformStore.keep σ) = m ∧ a.IsCaptured xs flow m)
    (hholds : ((a.works xs).work x).Holds flow n)
    (hn : n ∈ (saved.after.kept (UniformStore.keep σ)).nodes) :
    a.IsCaptured (xs ++ [x]) flow n := by
  have hkeeping : Json.IsKeeping (UniformStore.keep σ) := UniformStore.isKeeping
  intro htype hschema
  by_cases hstores : saved.Stores n.id
  · have hlast : ∀ later ∈ ((a.works xs).work x).saves flow [], ¬ later.Stores n.id :=
      fun _ hlater => absurd hlater List.not_mem_nil
    exact ⟨xs, x, [], rfl, ⟨saved, hsaved, hstores⟩, hlast, n, hholds, .refl n⟩
  · obtain ⟨p, hp, rfl⟩ := List.mem_map.1 hn
    have hpschema : (p.value SchemaRule.outputKey).isTruthy = true := by
      rw [Node.value_kept hkeeping] at hschema
      exact hkeeping.isTruthy hschema
    obtain ⟨m, hm, habout⟩ := FlowTask.run_isAbout hrun hg hproper hp htype hpschema hstores
    obtain ⟨hkept, hcaptured⟩ := hbefore m hm
    refine hcaptured.snoc ?_ (fun other hother => ?_) htype hschema
    · rw [hsaved]
      have hone : (some saved).toList.filterMap (Saved.renaming? · p.id)
          = (saved.renaming? p.id).toList := by
        cases h : saved.renaming? p.id <;> simp [h]
      exact hone ▸ hkept ▸ habout.kept hkeeping
    · cases hsaved.symm.trans hother
      exact hstores

/-- A flow that was loaded has its schemas captured as the flow has that is stored, and what was
loaded is kept as it is. -/
theorem isCaptured_of_load {docs : Docs} {f : Flow}
    (hkeeps : LawfulStore.Keeps (a.works xs).store docs)
    (hload : FlowStore.load (a.works xs).store flow = .ok (some f))
    (hall : ∀ d, docs flow = some d → ∀ n ∈ (d.kept (UniformStore.keep σ)).nodes,
      a.IsCaptured xs flow n) :
    ∀ m ∈ f.nodes, m.kept (UniformStore.keep σ) = m ∧ a.IsCaptured xs flow m := by
  obtain ⟨d, hd, hread⟩ := (FlowStore.load_eq_some hkeeps).1 hload
  obtain rfl := UniformStore.readBack_ok hread
  intro m hm
  refine ⟨?_, hall d hd m hm⟩
  obtain ⟨p, -, rfl⟩ := List.mem_map.1 hm
  exact Node.kept_kept UniformStore.isKeeping p

/-- **No captured schema outlives its request.** The induction is on the works, the last one
first. -/
theorem isCaptured {s₀ : σ} (h₀ : LawfulStore.Keeps s₀ fun _ => none) (xs : List (Work ι))
    (hproper : ∀ x ∈ xs, x.IsProper)
    (hrevives : ¬ (start ι s₀).Revives ((start ι s₀).acts xs)) :
    ∃ docs, LawfulStore.Keeps ((start ι s₀).works xs).store docs ∧
      ∀ flow d, docs flow = some d → ∀ n ∈ (d.kept (UniformStore.keep σ)).nodes,
        (start ι s₀).IsCaptured xs flow n := by
  induction xs using List.reverseRecOn with
  | nil => exact ⟨_, h₀, by rintro flow d ⟨⟩⟩
  | append_singleton xs x ih =>
    have hearlier : ¬ (start ι s₀).Revives ((start ι s₀).acts xs) := fun h => hrevives (by
      rw [acts_append]
      exact h.append _)
    obtain ⟨docs, hkeeps, hall⟩ := ih (fun y hy => hproper y (List.mem_append_left _ hy)) hearlier
    obtain ⟨docs', hkeeps', hchange⟩ := work_change hkeeps x
    have hwork : ((start ι s₀).works (xs ++ [x])) = ((start ι s₀).works xs).work x := by
      rw [works_append]
      rfl
    refine ⟨docs', hwork ▸ hkeeps', fun flow d hd n hn => ?_⟩
    cases hchange with
    | none hnone => exact (hall flow d hd n hn).snoc_of_eq_none (hnone flow)
    | create =>
      obtain ⟨rfl, rfl⟩ | ⟨-, hd⟩ := Docs.put_eq_some.1 hd
      · cases hn
      · exact (hall flow d hd n hn).snoc_of_eq_none rfl
    | delete =>
      exact (hall flow d (Docs.drop_eq_some.1 hd).2 n hn).snoc_of_eq_none rfl
    | @save client w siblings task f g effect hheld hrun hg hsaved hsave =>
      have hdraft : f.draft (fun _ => g) = g := FlowTask.draft_of_run hrun hg
      have hgid : (g.saved w.now).id = f.id := (congrArg Flow.id hdraft).symm
      by_cases hflow : flow = f.id
      · subst hflow
        rw [← hgid, Docs.put_self] at hd
        obtain rfl := Option.some.inj hd
        -- what the task was given is what was stored
        obtain ⟨s, hs⟩ := hsave
        have hload : FlowStore.load ((start ι s₀).works xs).store f.id = .ok (some f) :=
          load_of_save ⟨_, h₀, fun _ _ _ => trivial⟩ hearlier hheld hdraft hs
        refine isCaptured_of_saved? ((hsaved f.id).trans (if_pos rfl)) hrun hg
          (hproper _ (List.mem_append_right _ List.mem_cons_self))
          (isCaptured_of_load hkeeps hload (hall f.id)) ⟨_, _, hkeeps', ?_, hn⟩ hn
        rw [← hgid, Docs.put_self]
      · rw [Docs.put_of_ne (hgid ▸ hflow)] at hd
        refine (hall flow d hd n hn).snoc_of_eq_none ?_
        rw [hsaved, if_neg fun h => hflow h.symm]

end Captured

end Scene

/-- **A captured schema never outlives its request**: whatever clients do in whatever order, from
an empty store on and as long as no id comes back, each schema that an API call has in a flow – as
the flow is kept, and as it is loaded – was captured by a work and is about the request that the
node had then. -/
def KeepsRequests (σ : Type) [FlowStore σ] [LawfulStore σ] [UniformStore σ] : Prop :=
  ∀ (ι : Type) [DecidableEq ι] (xs : List (Work ι)), (∀ x ∈ xs, x.IsProper) →
    let a := Scene.start ι (FlowStore.empty : σ)
    ¬ a.Revives (a.acts xs) →
      FlowStore.All (fun d => ∀ n ∈ (d.kept (UniformStore.keep σ)).nodes,
        a.IsCaptured xs d.id n) (a.works xs).store ∧
      ∀ flow f, FlowStore.load (a.works xs).store flow = .ok (some f) →
        ∀ n ∈ f.nodes, a.IsCaptured xs flow n

theorem keepsRequests_of_uniform (σ : Type) [FlowStore σ] [LawfulStore σ] [UniformStore σ] :
    KeepsRequests σ := by
  intro ι _ xs hproper a hrevives
  obtain ⟨docs, hkeeps, hall⟩ := Scene.isCaptured LawfulStore.empty_keeps xs hproper hrevives
  refine ⟨⟨docs, hkeeps, fun flow d hd n hn => ?_⟩, fun flow f hload n hn => ?_⟩
  · rw [LawfulStore.id_eq hkeeps hd]
    exact hall flow d hd n hn
  · obtain ⟨d, hd, hread⟩ := (FlowStore.load_eq_some hkeeps).1 hload
    rw [UniformStore.readBack_ok hread] at hn
    exact hall flow d hd n hn

/-- **Both stores keep requests** beside the schemas that were captured for them. -/
theorem keepsRequests : KeepsRequests Memory ∧ KeepsRequests Table :=
  ⟨keepsRequests_of_uniform Memory, keepsRequests_of_uniform Table⟩

/-! ### A run -/

/-- A run of two clients. One of them adds two API calls, the second of which refers to the first,
and captures a schema for the second. The other one has loaded the flow before, and is refused when
it changes the address; then it renames the first API call. -/
def sampleCapture : List (Work Bool) := [
  .create (numberedSurroundings "flow") "Pair" none none,
  .load false "flow1",
  .save false (numberedSurroundings "source") (.ok [])
    (.edit (.addNode Builtin.apiCallName "Source" none [])),
  .load false "flow1",
  .save false (numberedSurroundings "detail") (.ok []) (.edit (.addNode Builtin.apiCallName "Detail"
    none [("url", .str "http://api.test/\x7b\x7b source.id \x7d\x7d")])),
  .load true "flow1",
  .load false "flow1",
  .save false (numberedSurroundings "") (.ok []) (.resolveSchema "detail1" (.str "[1]")),
  .save true (numberedSurroundings "") (.ok []) (.edit (.updateNode "detail1"
    { parameters := some [("url", .str "http://api.test/")] })),
  .load true "flow1",
  .save true (numberedSurroundings "") (.ok [])
    (.edit (.updateNode "source1" { name := some "Search" }))]

/-- Whether a work creates a flow. -/
def Work.creates {ι : Type} : Work ι → Bool
  | .create .. => true
  | _ => false

namespace Scene

variable {ι σ : Type} [DecidableEq ι] [FlowStore σ] {xs : List (Work ι)} {f : Flow}

omit [DecidableEq ι] [FlowStore σ] in
theorem creates_of_act? {a : Scene ι σ} {x : Work ι} (h : a.act? x = some (.create f)) :
    x.creates = true := by
  cases x with
  | create => rfl
  | load | delete => cases h
  | save client w siblings task =>
    rw [act?] at h
    repeat' split at h
    all_goals cases h

theorem exists_creates_of_mem_acts {a : Scene ι σ} (h : .create f ∈ a.acts xs) :
    ∃ x ∈ xs, x.creates = true := by
  induction xs generalizing a with
  | nil => cases h
  | cons x xs ih =>
    obtain h | h := List.mem_append.1 h
    · exact ⟨x, List.mem_cons_self, creates_of_act? (Option.mem_toList.1 h)⟩
    · obtain ⟨y, hy, hcreates⟩ := ih h
      exact ⟨y, List.mem_cons_of_mem _ hy, hcreates⟩

/-- No id comes back where one flow is created and no other. -/
theorem not_revives_of_creates [LawfulStore σ] {w : Surroundings} {name : String}
    {app description : Option String} (h : ∀ x ∈ xs, x.creates = false) :
    ¬ (start ι (FlowStore.empty : σ)).Revives
      ((start ι (FlowStore.empty : σ)).acts (.create w name app description :: xs)) := by
  have hkeeps : LawfulStore.Keeps (start ι (FlowStore.empty : σ)).store fun _ => none :=
    LawfulStore.empty_keeps
  rintro ⟨before, between, f, after, heq, hthere, -⟩
  cases before with
  | nil => exact (hasFlow_iff hkeeps).1 hthere rfl
  | cons y before =>
    -- the first act is that of the first work, and so the flow is created by another one
    have hrest : ((start ι (FlowStore.empty : σ)).work (.create w name app description)).acts xs
        = before ++ between ++ .create f :: after := List.tail_eq_of_cons_eq heq
    obtain ⟨x, hx, hcreates⟩ := exists_creates_of_mem_acts
      (hrest ▸ List.mem_append_right _ List.mem_cons_self)
    rw [h x hx] at hcreates
    cases hcreates

end Scene

/-- The run of the two clients: the save that was refused has not changed the address, the other one
has, and the schema is about the request that it was captured for. -/
theorem keepsRequests_sampleCapture :
    ∃ f, FlowStore.load ((Scene.start Bool (FlowStore.empty : Table)).works sampleCapture).store
        "flow1" = .ok (some f) ∧
      ∃ n ∈ f.nodes, n.value "url" = .str "http://api.test/\x7b\x7b search.id \x7d\x7d" ∧
        n.type = Builtin.apiCallName ∧ (n.value SchemaRule.outputKey).isTruthy = true ∧
        (Scene.start Bool (FlowStore.empty : Table)).IsCaptured sampleCapture "flow1" n := by
  have hrun : ∃ o ∈ (FlowStore.load
        ((Scene.start Bool (FlowStore.empty : Table)).works sampleCapture).store "flow1").toOption,
      ∃ f ∈ o, ∃ n ∈ f.nodes[1]?,
        (n.value "url").text? = some "http://api.test/\x7b\x7b search.id \x7d\x7d" ∧
        n.type = Builtin.apiCallName ∧ (n.value SchemaRule.outputKey).isTruthy = true := by
    decide +kernel
  have hproper : ∀ x ∈ sampleCapture, x.IsProper := by
    simp [sampleCapture, Work.IsProper, FlowTask.IsProper, Entries.Distinct, Entries.keys]
  have hcreates : ∀ x ∈ sampleCapture.tail, x.creates = false := by
    decide
  obtain ⟨o, ho, f, hf, n, hn, hurl, htype, hschema⟩ := hrun
  have hload : FlowStore.load ((Scene.start Bool (FlowStore.empty : Table)).works
      sampleCapture).store "flow1" = .ok (some f) := by
    cases hresult : FlowStore.load ((Scene.start Bool (FlowStore.empty : Table)).works
        sampleCapture).store "flow1" with
    | error e =>
      rw [hresult] at ho
      cases ho
    | ok o' =>
      rw [hresult] at ho
      cases ho
      rw [Option.mem_def.1 hf]
  refine ⟨f, hload, n, List.mem_of_getElem? hn, ?_, htype, hschema, ?_⟩
  · cases hvalue : n.value "url" with
    | str s =>
      rw [hvalue] at hurl
      rw [Option.some.inj hurl]
    | _ =>
      rw [hvalue] at hurl
      cases hurl
  · exact (keepsRequests.2 Bool sampleCapture hproper (Scene.not_revives_of_creates hcreates)).2
      "flow1" f hload n (List.mem_of_getElem? hn)

end Workflow
