import Workflow.Proofs.Entries
import Workflow.Proofs.Naming
import Workflow.Proofs.Run

/-!
# Tool names of an app

The tool names of an app are different, although each edit sees one flow and the others only as
they were listed for it. Three edits write a tool name. Adding a trigger and renaming one pick a
name that no other trigger of the app has, and the trigger that is renamed is left out of the
search by its id, so ids must not stand twice in an app either. The third one is an update that
brings a tool name among its parameters: it is written as it was given, and no other trigger is
looked at. So the names stay different as long as no update does that
(`Edit.overridesTool`).

The triggers of an app are those of many documents, and what a run keeps is a property of all
documents at once (`Docs.Named`), not of each of them.
-/

namespace Workflow

open Outcome

/-- The value that stands for the tool name of a node. -/
def Node.tool? (n : Node) : Option Json :=
  Entries.get? n.parameters Node.toolNameKey

namespace Flow

variable {f g : Flow} {s : Setting}

/-- Whether a trigger of a flow has a tool name. -/
def Tool (f : Flow) (id tool : String) : Prop :=
  ∃ n ∈ f.nodes, n.type = Builtin.triggerName ∧ n.id = id ∧ n.tool? = some (.str tool)

/-- Whether all triggers of a flow have texts for tool names. -/
def NamesTriggers (f : Flow) : Prop :=
  ∀ n ∈ f.nodes, n.type = Builtin.triggerName → ∃ tool, n.tool? = some (.str tool)

/-! ## The name that is picked -/

/-- A trigger takes the text that it has for a tool name. -/
theorem mem_toolNames {flows : List Flow} {except : Option String} {names : List Json} {k : Flow}
    {id tool : String} (h : toolNames flows except = .ok names) (hk : k ∈ flows)
    (hid : some id ≠ except) (htool : k.Tool id tool) (hne : tool ≠ "") :
    Json.str tool ∈ names := by
  obtain ⟨n, hn, htrigger, rfl, hvalue⟩ := htool
  have hmem : n ∈ triggers flows except := by
    refine List.mem_filter.2 ⟨List.mem_flatMap.2 ⟨k, hk, hn⟩, ?_⟩
    simp [htrigger, hid]
  have htakes : n.toolName? = .ok (some (.str tool)) := by
    unfold Node.toolName?
    rw [show Entries.get? n.parameters Node.toolNameKey = some (.str tool) from hvalue]
    simp [Option.filter, Json.isTruthy, hne, Json.isKey]
  unfold toolNames at h
  obtain ⟨all, hall, h⟩ := bind_eq_ok.1 h
  cases pure_eq_ok.1 h
  obtain ⟨name, hname, he⟩ := exists_of_mapM_eq_ok hall hmem
  rw [htakes] at he
  cases he
  exact List.mem_filterMap.2 ⟨_, hname, rfl⟩

/-- Whether a tool name is free for a trigger of a flow: no other trigger of the app has it, as
far as the app is known. -/
def Free (f : Flow) (s : Setting) (id tool : String) : Prop :=
  ∃ others, s.siblings = .ok others ∧ ∀ k ∈ f :: others, ∀ other, k.Tool other tool → other = id

/-- **The name that is picked** is free for the trigger that is left out of the search, and for
any trigger if none is left out. -/
theorem toolNameFor_ok {name tool : String} {except : Option String} {id : String}
    (h : f.toolNameFor s name except = .ok tool) (hid : except = none ∨ except = some id) :
    f.Free s id tool := by
  unfold toolNameFor at h
  obtain ⟨others, hothers, h⟩ := bind_eq_ok.1 h
  unfold freshToolName at h
  obtain ⟨names, hnames, h⟩ := bind_eq_ok.1 h
  cases pure_eq_ok.1 h
  refine ⟨others, hothers, fun k hk other htool => ?_⟩
  by_contra hne
  have hexcept : some other ≠ except := by
    obtain rfl | rfl := hid
    · exact nofun
    · exact fun he => hne (Option.some.inj he)
  refine Naming.toolName_not_mem name (names.filterMap Json.text?) ?_
  have hmem := mem_toolNames hnames hk hexcept htool (Naming.toolName_ne_empty name)
  exact List.mem_filterMap.2 ⟨_, hmem, rfl⟩

/-! ## What an edit does to tool names -/

/-- Whether a node, if it is a trigger, stands in a flow with the tool name that it has. -/
def HasTrigger (f : Flow) (m : Node) : Prop :=
  m.type = Builtin.triggerName → ∃ n ∈ f.nodes, n.type = Builtin.triggerName ∧ n.id = m.id ∧
    n.tool? = m.tool?

theorem hasTrigger_of_mem {m : Node} (h : m ∈ f.nodes) : f.HasTrigger m :=
  fun htrigger => ⟨m, h, htrigger, rfl, rfl⟩

/-- **The tool names stay different**: each trigger has the tool name that it had, or one that is
free for it, and at most one trigger has another one. -/
structure Retools (s : Setting) (f g : Flow) : Prop where
  /-- The flow stays itself. -/
  id_eq : g.id = f.id
  /-- The flow stays in its app. -/
  app_eq : g.app = f.app
  /-- Triggers still have tool names. -/
  named : f.NamesTriggers → g.NamesTriggers
  /-- A tool name is an old one or a free one. -/
  tools : ∃ id, ∀ other tool, g.Tool other tool →
    f.Tool other tool ∨ other = id ∧ f.Free s id tool

/-- The nodes of a flow are looked at one by one. -/
theorem Retools.of_nodes (id : String) (hid : g.id = f.id) (happ : g.app = f.app)
    (h : ∀ m ∈ g.nodes, f.HasTrigger m ∨
      m.id = id ∧ ∃ tool, m.tool? = some (.str tool) ∧ f.Free s id tool) : f.Retools s g := by
  refine ⟨hid, happ, fun hnamed m hm htrigger => ?_, id, ?_⟩
  · obtain hold | ⟨-, tool, htool, -⟩ := h m hm
    · obtain ⟨n, hn, hn', -, hsame⟩ := hold htrigger
      exact hsame ▸ hnamed n hn hn'
    · exact ⟨tool, htool⟩
  · rintro _ tool ⟨m, hm, htrigger, rfl, htool⟩
    obtain hold | ⟨hmid, tool', htool', hfree⟩ := h m hm
    · obtain ⟨n, hn, hn', hnid, hsame⟩ := hold htrigger
      exact .inl ⟨n, hn, hn', hnid, hsame.trans htool⟩
    · cases Option.some.inj (htool'.symm.trans htool)
      exact .inr ⟨hmid, hfree⟩

/-- No trigger gets another tool name. -/
theorem Retools.of_old (hid : g.id = f.id) (happ : g.app = f.app)
    (h : ∀ m ∈ g.nodes, f.HasTrigger m) : f.Retools s g :=
  .of_nodes "" hid happ fun m hm => .inl (h m hm)

/-- A node that is not another trigger than the one in whose place it is put. -/
theorem hasTrigger_replaceNode {id : String} {n m : Node} (hn : f.findNode? id = some n)
    (hmid : m.id = n.id) (htype : m.type = n.type) (htool : m.tool? = n.tool?) :
    ∀ k ∈ (f.replaceNode m).nodes, f.HasTrigger k := by
  intro k hk
  obtain rfl | hk := mem_of_mem_replaceIn hk
  · exact fun htrigger => ⟨n, mem_of_findNode? hn, htype ▸ htrigger, hmid.symm, htool.symm⟩
  · exact hasTrigger_of_mem hk

theorem Retools.keepSchema {id : String} {schema : Schema} {m : Node}
    (h : f.keepSchema id schema = .ok (g, m)) : f.Retools s g := by
  obtain ⟨n, hn, rfl, rfl⟩ := keepSchema_inv h
  refine .of_old rfl rfl (hasTrigger_replaceNode hn rfl rfl ?_)
  exact Entries.get?_put_ne _ _ (by decide)

/-- **A new trigger** gets a free tool name. -/
theorem tool?_of_addNode {type name : String} {position : Option (Checked Position)}
    {parameters : Entries Json} {n : Node}
    (h : f.addNode s type name position parameters = .ok (g, n))
    (htrigger : n.type = Builtin.triggerName) :
    ∃ tool, n.tool? = some (.str tool) ∧ f.Free s n.id tool := by
  obtain ⟨-, -, rfl, -, -, -, -, defaults, own, -, -, hown⟩ := addNode_ok h
  rw [if_pos htrigger] at hown
  obtain ⟨tool, htool, hown⟩ := hown
  refine ⟨tool, ?_, toolNameFor_ok htool (.inl rfl)⟩
  rw [Node.tool?, hown]
  exact Entries.get?_foldl_putNew_of_get? (Entries.get?_put_self _ _ _)

/-- **A trigger that is updated** gets a free tool name if it is renamed, and otherwise has the one
that is left when the parameters of the update are laid over its own. -/
theorem tool?_of_updateNode {id : String} {update : NodeUpdate} {n m : Node}
    (hn : f.findNode? id = some n) (h : f.updateNode s id update = .ok (g, m))
    (htrigger : n.type = Builtin.triggerName) :
    (∃ tool, m.tool? = some (.str tool) ∧ f.Free s m.id tool) ∨
      update.newName? n = none ∧ m.tool? = (update.overlaid n).tool? := by
  obtain ⟨n', k, hn', -, -, hmid, -, -, hparameters⟩ := updateNode_inv h
  obtain rfl : n' = n := Option.some.inj (hn'.symm.trans hn)
  unfold UpdatedParameters at hparameters
  split at hparameters
  · rw [RenamedParameters, if_pos (by simpa using htrigger)] at hparameters
    obtain ⟨tool, htool, hparameters⟩ := hparameters
    refine .inl ⟨tool, ?_, ?_⟩
    · rw [Node.tool?, hparameters]
      exact Entries.get?_put_self _ _ _
    · rw [hmid]
      exact toolNameFor_ok htool (.inr (by simp))
  · next hname => exact .inr ⟨hname, by rw [Node.tool?, Node.tool?, hparameters]⟩

/-- No trigger but the updated one is touched by an update. -/
theorem hasTrigger_of_updateNode {id : String} {update : NodeUpdate} {m : Node}
    (h : f.updateNode s id update = .ok (g, m)) : ∀ j ∈ g.nodes, j = m ∨ f.HasTrigger j := by
  obtain ⟨n, k, -, hk, rfl, -⟩ := updateNode_inv h
  intro j hj
  refine (mem_of_mem_replaceIn hj).imp_right fun hj htrigger => ?_
  have hne : j.type ≠ Builtin.apiCallName := by
    rw [htrigger]
    decide
  exact hasTrigger_of_mem (hk.mem hj hne) htrigger

end Flow

/-- **Where the tool name of a node comes from** after an edit. -/
inductive Edit.Retooled (f : Flow) (s : Setting) (m : Node) : Edit → Prop
  /-- The node is no trigger, or a trigger that had this tool name before. -/
  | old {e : Edit} (h : f.HasTrigger m) : Retooled f s m e
  /-- It was picked for this trigger. -/
  | picked {e : Edit} (tool : String) (htool : m.tool? = some (.str tool))
      (hfree : f.Free s m.id tool) : Retooled f s m e
  /-- It is what an update has left of it. -/
  | left {id : String} {update : NodeUpdate} {n : Node} (hn : f.findNode? id = some n)
      (htrigger : n.type = Builtin.triggerName) (hname : update.newName? n = none)
      (hid : m.id = n.id) (htool : m.tool? = (update.overlaid n).tool?) :
      Retooled f s m (.updateNode id update)

/-- **What an edit does to tool names**: of one trigger at most it changes the one that it had. -/
theorem Edit.Makes.retooled {f g : Flow} {s : Setting} {e : Edit}
    (htransform : s.registry.categoryOf Builtin.triggerName ≠ some .transform)
    (h : e.Makes f s g) :
    ∃ id, ∀ m ∈ g.nodes, e.Retooled f s m ∧ (f.HasTrigger m ∨ m.id = id) := by
  -- where no trigger is touched it does not matter which one could be
  have hold : (∀ m ∈ g.nodes, f.HasTrigger m) →
      ∃ id, ∀ m ∈ g.nodes, e.Retooled f s m ∧ (f.HasTrigger m ∨ m.id = id) :=
    fun h => ⟨"", fun m hm => ⟨.old (h m hm), .inl (h m hm)⟩⟩
  cases h with
  | @addNode _ _ _ _ n h =>
    obtain ⟨rfl, -⟩ := Flow.addNode_ok h
    refine ⟨n.id, fun m hm => ?_⟩
    obtain hm | hm := List.mem_append.1 hm
    · exact ⟨.old (Flow.hasTrigger_of_mem hm), .inl (Flow.hasTrigger_of_mem hm)⟩
    · obtain rfl := List.mem_singleton.1 hm
      by_cases htrigger : m.type = Builtin.triggerName
      · obtain ⟨tool, htool, hfree⟩ := Flow.tool?_of_addNode h htrigger
        exact ⟨.picked tool htool hfree, .inr rfl⟩
      · exact ⟨.old fun h => absurd h htrigger, .inr rfl⟩
  | @updateNode _ update x h =>
    obtain ⟨n, k, hn, -, -, hxid, htype, -⟩ := Flow.updateNode_inv h
    refine ⟨x.id, fun m hm => ?_⟩
    obtain rfl | hm := Flow.hasTrigger_of_updateNode h m hm
    · by_cases htrigger : n.type = Builtin.triggerName
      · obtain ⟨tool, htool, hfree⟩ | ⟨hname, htool⟩ := Flow.tool?_of_updateNode hn h htrigger
        · exact ⟨.picked tool htool hfree, .inr rfl⟩
        · exact ⟨.left hn htrigger hname hxid htool, .inr rfl⟩
      · exact ⟨.old fun h => absurd (htype ▸ h) htrigger, .inr rfl⟩
    · exact ⟨.old hm, .inl hm⟩
  | moveNode h =>
    obtain ⟨n, place, hn, -, rfl, rfl⟩ := Flow.moveNode_inv h
    exact hold (Flow.hasTrigger_replaceNode hn rfl rfl rfl)
  | deleteNode h =>
    obtain ⟨-, rfl⟩ := Flow.deleteNode_ok h
    exact hold fun m hm => Flow.hasTrigger_of_mem (List.eraseP_sublist.subset hm)
  | connect h =>
    obtain ⟨-, -, -, -, -, -, -, -, -, rfl⟩ := Flow.connect_ok h
    exact hold fun m hm => Flow.hasTrigger_of_mem hm
  | disconnect h =>
    obtain ⟨-, rfl⟩ := Flow.disconnect_ok h
    exact hold fun m hm => Flow.hasTrigger_of_mem hm
  | splice h =>
    -- a node that is put between two others is no trigger, as triggers are no transforms
    obtain ⟨m, n, t, -, -, ht, hcheck, -, -, htype, -, -, -, -, -, -, rfl⟩ := Flow.splice_ok h
    refine hold fun k hk => ?_
    obtain hk | hk := List.mem_append.1 hk
    · exact Flow.hasTrigger_of_mem hk
    · obtain rfl := List.mem_singleton.1 hk
      intro htrigger
      have hcategory := Flow.categoryOf_of_checkSplice ht hcheck
      rw [← htype, htrigger] at hcategory
      exact absurd hcategory htransform

/-- **Whether an update brings a tool name of its own** for a trigger that it does not rename. -/
def Edit.overridesTool (f : Flow) : Edit → Bool
  | .updateNode node update =>
    match f.findNode? node, update.parameters with
    | some n, some parameters =>
      n.type == Builtin.triggerName && (update.newName? n).isNone
        && Entries.has parameters Node.toolNameKey
    | _, _ => false
  | _ => false

/-- An update that brings no tool name of its own leaves the one that a trigger has. -/
theorem NodeUpdate.tool?_overlaid {update : NodeUpdate} {n : Node}
    (h : ∀ parameters, update.parameters = some parameters →
      Entries.has parameters Node.toolNameKey = false) : (update.overlaid n).tool? = n.tool? := by
  unfold overlaid
  split
  · next parameters hparameters =>
    refine (Entries.get?_merge_of_not_has (h parameters hparameters)).trans ?_
    split
    · exact Entries.get?_put_ne _ _ (by decide)
    · rfl
  · rfl

/-- **The tool names stay different in every edit** but one that brings a tool name of its own. -/
theorem Edit.Makes.retools {f g : Flow} {s : Setting} {e : Edit}
    (htransform : s.registry.categoryOf Builtin.triggerName ≠ some .transform)
    (hkeep : e.overridesTool f = false) (h : e.Makes f s g) : f.Retools s g := by
  have hframe := h.frame
  obtain ⟨id, h⟩ := h.retooled htransform
  refine .of_nodes id (by rw [hframe]) (by rw [hframe]) fun m hm => ?_
  obtain ⟨hretooled, hold | hid⟩ := h m hm
  · exact .inl hold
  · cases hretooled with
    | old hold => exact .inl hold
    | picked tool htool hfree => exact .inr ⟨hid, tool, htool, hid ▸ hfree⟩
    | left hn htrigger hname hmid htool =>
      refine .inl fun _ => ⟨_, Flow.mem_of_findNode? hn, htrigger, hmid.symm, ?_⟩
      rw [htool, NodeUpdate.tool?_overlaid]
      intro parameters hparameters
      simpa [overridesTool, hn, hparameters, htrigger, hname] using hkeep

/-! ## All documents -/

namespace Flow

variable {f g : Flow}

/-- Whether the tool names of two flows must be different: they are one flow, or of one app. -/
def Shares (f g : Flow) : Prop :=
  f.id = g.id ∨ ∃ app, f.app = some app ∧ g.app = some app

theorem Shares.symm (h : f.Shares g) : g.Shares f :=
  h.imp Eq.symm fun ⟨app, hf, hg⟩ => ⟨app, hg, hf⟩

/-- Whether a flow has nothing but the nodes and tool names of another one. -/
structure Within (f g : Flow) : Prop where
  /-- It is of the same id. -/
  id_eq : f.id = g.id
  /-- It is in the same app. -/
  app_eq : f.app = g.app
  /-- It has no other nodes. -/
  nodeIds : (f.nodes.map Node.id).Sublist (g.nodes.map Node.id)
  /-- Its triggers have tool names if the others have. -/
  named : g.NamesTriggers → f.NamesTriggers
  /-- It has no other tool names. -/
  tools : ∀ id tool, f.Tool id tool → g.Tool id tool

theorem Within.refl (f : Flow) : f.Within f :=
  ⟨rfl, rfl, .refl _, fun h => h, fun _ _ h => h⟩

/-- A tool name is a text, and is kept. -/
theorem tool?_written_iff {n : Node} {tool : String} :
    n.written.tool? = some (.str tool) ↔ n.tool? = some (.str tool) := by
  rw [Node.tool?, Node.written, Json.get?_writtenMembers, Option.map_eq_some_iff]
  constructor
  · rintro ⟨v, hv, htool⟩
    rw [Json.written_eq_str] at htool
    exact htool ▸ hv
  · intro h
    exact ⟨_, h, rfl⟩

theorem tool_written_iff {id tool : String} : f.written.Tool id tool ↔ f.Tool id tool := by
  constructor
  · rintro ⟨_, hm, htrigger, hid, htool⟩
    obtain ⟨n, hn, rfl⟩ := List.mem_map.1 hm
    exact ⟨n, hn, htrigger, hid, tool?_written_iff.1 htool⟩
  · rintro ⟨n, hn, htrigger, hid, htool⟩
    exact ⟨n.written, List.mem_map_of_mem hn, htrigger, hid, tool?_written_iff.2 htool⟩

theorem within_written (f : Flow) : f.written.Within f := by
  refine ⟨rfl, rfl, ?_, fun hnamed m hm htrigger => ?_, fun id tool => tool_written_iff.1⟩
  · rw [written, List.map_map]
    exact .refl _
  · obtain ⟨n, hn, rfl⟩ := List.mem_map.1 hm
    obtain ⟨tool, htool⟩ := hnamed n hn htrigger
    exact ⟨tool, tool?_written_iff.2 htool⟩

end Flow

namespace Docs

variable {docs docs' : Docs} {f g : Flow}

/-- **The documents of a store in which tool names are different**, and node ids are. -/
structure Named (docs : Docs) : Prop where
  /-- A document stands under its id. -/
  id_eq : ∀ {id f}, docs id = some f → f.id = id
  /-- No id of a node stands twice in a flow. -/
  nodup : ∀ {id f}, docs id = some f → (f.nodes.map Node.id).Nodup
  /-- No id of a node stands in two flows. -/
  apart : ∀ {id id' f g x}, docs id = some f → docs id' = some g →
    x ∈ f.nodes.map Node.id → x ∈ g.nodes.map Node.id → id = id'
  /-- All triggers have texts for tool names. -/
  named : ∀ {id f}, docs id = some f → f.NamesTriggers
  /-- Triggers with one tool name are one trigger. -/
  unique : ∀ {id id' f g x y tool}, docs id = some f → docs id' = some g → f.Shares g →
    f.Tool x tool → g.Tool y tool → x = y

/-- Documents go, or lose nodes, or have none. -/
theorem Named.of_within (h : docs.Named) (hid : ∀ {id f}, docs' id = some f → f.id = id)
    (hsub : ∀ {id f}, docs' id = some f → f.nodes = [] ∨ ∃ g, docs id = some g ∧ f.Within g) :
    docs'.Named where
  id_eq := hid
  nodup := by
    intro id f hf
    obtain hnil | ⟨g, hg, hfg⟩ := hsub hf
    · rw [hnil]
      exact .nil
    · exact (h.nodup hg).sublist hfg.nodeIds
  apart := by
    intro id id' f g x hf hg hxf hxg
    obtain hnil | ⟨f', hf', hff'⟩ := hsub hf
    · rw [hnil] at hxf
      cases hxf
    · obtain hnil | ⟨g', hg', hgg'⟩ := hsub hg
      · rw [hnil] at hxg
        cases hxg
      · exact h.apart hf' hg' (hff'.nodeIds.subset hxf) (hgg'.nodeIds.subset hxg)
  named := by
    intro id f hf
    obtain hnil | ⟨g, hg, hfg⟩ := hsub hf
    · intro n hn
      rw [hnil] at hn
      cases hn
    · exact hfg.named (h.named hg)
  unique := by
    intro id id' f g x y tool hf hg hshares hx hy
    obtain hnil | ⟨f', hf', hff'⟩ := hsub hf
    · obtain ⟨n, hn, -⟩ := hx
      rw [hnil] at hn
      cases hn
    · obtain hnil | ⟨g', hg', hgg'⟩ := hsub hg
      · obtain ⟨n, hn, -⟩ := hy
        rw [hnil] at hn
        cases hn
      · refine h.unique hf' hg' ?_ (hff'.tools _ _ hx) (hgg'.tools _ _ hy)
        rw [Flow.Shares, ← hff'.id_eq, ← hgg'.id_eq, ← hff'.app_eq, ← hgg'.app_eq]
        exact hshares

/-- Whether a tool name is free in an app: no other trigger has it than the given one. -/
def Free (docs : Docs) (f : Flow) (id tool : String) : Prop :=
  ∀ {id' g}, docs id' = some g → f.Shares g → ∀ other, g.Tool other tool → other = id

/-- **A document is replaced** by one with the same nodes and tool names, but for nodes that are
new to all documents and a tool name that is free in the app. -/
theorem Named.put (h : docs.Named) (hf : docs f.id = some f) (hid : g.id = f.id)
    (happ : g.app = f.app) (hnodup : (g.nodes.map Node.id).Nodup)
    (hnodes : ∀ x ∈ g.nodes.map Node.id, x ∈ f.nodes.map Node.id ∨
      ∀ {id d}, docs id = some d → x ∉ d.nodes.map Node.id)
    (hnamed : g.NamesTriggers)
    (htools : ∃ x, ∀ y tool, g.Tool y tool → f.Tool y tool ∨ y = x ∧ docs.Free f x tool) :
    (docs.put g).Named := by
  -- what stands in a new document stood in an old one, or is new to all of them
  have hcases : ∀ {id d}, docs.put g id = some d → id = f.id ∧ d = g ∨ docs id = some d := by
    intro id d hd
    exact (Docs.put_eq_some.1 hd).imp (fun ⟨he, hg⟩ => ⟨he.trans hid, hg⟩) And.right
  have hnode : ∀ {id d x}, docs.put g id = some d → x ∈ d.nodes.map Node.id →
      (∃ e, docs id = some e ∧ x ∈ e.nodes.map Node.id) ∨
        id = f.id ∧ ∀ {id d}, docs id = some d → x ∉ d.nodes.map Node.id := by
    intro id d x hd hx
    obtain ⟨rfl, rfl⟩ | hold := hcases hd
    · exact (hnodes x hx).imp (fun hx => ⟨f, hf, hx⟩) fun hx => ⟨rfl, hx⟩
    · exact .inl ⟨d, hold, hx⟩
  obtain ⟨z, htools⟩ := htools
  have htool : ∀ {id d y tool}, docs.put g id = some d → d.Tool y tool →
      ∃ e, docs id = some e ∧ e.id = d.id ∧ e.app = d.app ∧
        (e.Tool y tool ∨ e = f ∧ y = z ∧ docs.Free f z tool) := by
    intro id d y tool hd hy
    obtain ⟨rfl, rfl⟩ | hold := hcases hd
    · refine ⟨f, hf, hid.symm, happ.symm, (htools y tool hy).imp_right ?_⟩
      exact fun hy => ⟨rfl, hy⟩
    · exact ⟨d, hold, rfl, rfl, .inl hy⟩
  refine ⟨?_, ?_, ?_, ?_, ?_⟩
  · intro id d hd
    obtain ⟨rfl, rfl⟩ | hold := hcases hd
    · exact hid
    · exact h.id_eq hold
  · intro id d hd
    obtain ⟨rfl, rfl⟩ | hold := hcases hd
    · exact hnodup
    · exact h.nodup hold
  · intro id id' d d' x hd hd' hx hx'
    obtain ⟨e, he, hxe⟩ | ⟨rfl, hnew⟩ := hnode hd hx
    · obtain ⟨e', he', hxe'⟩ | ⟨-, hnew⟩ := hnode hd' hx'
      · exact h.apart he he' hxe hxe'
      · exact absurd hxe (hnew he)
    · obtain ⟨e', he', hxe'⟩ | ⟨rfl, -⟩ := hnode hd' hx'
      · exact absurd hxe' (hnew he')
      · rfl
  · intro id d hd
    obtain ⟨rfl, rfl⟩ | hold := hcases hd
    · exact hnamed
    · exact h.named hold
  · intro id id' d d' x y tool hd hd' hshares hx hy
    obtain ⟨e, he, heid, heapp, hx⟩ := htool hd hx
    obtain ⟨e', he', heid', heapp', hy⟩ := htool hd' hy
    have hshares : e.Shares e' := by
      rw [Flow.Shares, heid, heid', heapp, heapp']
      exact hshares
    obtain hx | ⟨rfl, rfl, hfree⟩ := hx
    · obtain hy | ⟨rfl, rfl, hfree⟩ := hy
      · exact h.unique he he' hshares hx hy
      · exact hfree he hshares.symm x hx
    · obtain hy | ⟨-, rfl, -⟩ := hy
      · exact (hfree he' hshares y hy).symm
      · rfl

/-- **Triggers are told apart by their tool names**: every trigger has one, and no two triggers of
one flow or of two flows of one app have the same. -/
structure NamesTools (docs : Docs) : Prop where
  /-- All triggers have texts for tool names. -/
  named : ∀ id f, docs id = some f → ∀ n ∈ Flow.triggers [f] none,
    ∃ tool, n.tool? = some (.str tool)
  /-- No two triggers of a flow have the same tool name. -/
  within : ∀ id f, docs id = some f →
    (Flow.triggers [f] none).Pairwise fun m n => m.tool? ≠ n.tool?
  /-- No two triggers of two flows of an app have the same tool name. -/
  across : ∀ id id' f g app, docs id = some f → docs id' = some g → id ≠ id' →
    f.app = some app → g.app = some app →
    ∀ m ∈ Flow.triggers [f] none, ∀ n ∈ Flow.triggers [g] none, m.tool? ≠ n.tool?

theorem mem_triggers {n : Node} :
    n ∈ Flow.triggers [f] none ↔ n ∈ f.nodes ∧ n.type = Builtin.triggerName := by
  simp [Flow.triggers]

theorem Named.namesTools (h : docs.Named) : docs.NamesTools := by
  -- triggers with one tool name have one id
  have hunique : ∀ {id id' f g m n}, docs id = some f → docs id' = some g → f.Shares g →
      m ∈ Flow.triggers [f] none → n ∈ Flow.triggers [g] none → m.tool? = n.tool? →
      m.id = n.id := by
    intro id id' f g m n hf hg hshares hm hn he
    rw [mem_triggers] at hm hn
    obtain ⟨tool, htool⟩ := h.named hf m hm.1 hm.2
    exact h.unique hf hg hshares ⟨m, hm.1, hm.2, rfl, htool⟩ ⟨n, hn.1, hn.2, rfl, he ▸ htool⟩
  refine ⟨fun id f hf n hn => ?_, fun id f hf => ?_, fun id id' f g app hf hg hne happ happ' m hm n
    hn he => ?_⟩
  · rw [mem_triggers] at hn
    exact h.named hf n hn.1 hn.2
  · have hnodup : ((Flow.triggers [f] none).map Node.id).Nodup := by
      refine (h.nodup hf).sublist (List.Sublist.map _ ?_)
      simp [Flow.triggers]
    refine (List.pairwise_map.1 hnodup).imp_of_mem fun hm hn hne he => ?_
    exact hne (hunique hf hf (.inl rfl) hm hn he)
  · have hid := hunique hf hg (.inr ⟨app, happ, happ'⟩) hm hn he
    rw [mem_triggers] at hm hn
    exact hne (h.apart hf hg (List.mem_map_of_mem hm.1) (hid ▸ List.mem_map_of_mem hn.1))

end Docs

/-! ## Runs -/

/-- The flows of a store, each as it is loaded. -/
def FlowStore.loaded {σ : Type} [FlowStore σ] (s : σ) : Docs := fun id =>
  match FlowStore.load s id with
  | .ok f => f
  | .error _ => none

theorem FlowStore.loaded_eq_some {σ : Type} [FlowStore σ] {s : σ} {f : Flow} {id : String} :
    loaded s id = some f ↔ load s id = .ok (some f) := by
  unfold loaded
  cases load s id <;> simp

section

variable {σ : Type} [FlowStore σ] [LawfulStore σ]

/-- Whether a node of a document of a store has an id. -/
def FlowStore.Uses (s : σ) (x : String) : Prop :=
  ∃ docs, LawfulStore.Keeps s docs ∧ ∃ id f, docs id = some f ∧ x ∈ f.nodes.map Node.id

/-- **A command that leaves tool names to the program**: it brings none for a trigger that it does
not rename, a new node has an id that is new to the store, and triggers are no transforms. -/
structure Command.LeavesTools (w : Surroundings) (s : σ) (c : Command) : Prop where
  /-- Triggers are no transforms. -/
  registry : w.registry.categoryOf Builtin.triggerName ≠ some .transform
  /-- No tool name is brought. -/
  keeps : ∀ p ∈ c.edit? w s, p.2.overridesTool p.1 = false
  /-- The id of a new node is new. -/
  fresh : ∀ p ∈ c.edit? w s, p.2.addsNode = true → ¬ FlowStore.Uses s (w.freshId 1)

variable {w : Surroundings} {s : σ} {docs docs' : Docs} {c : Command} {f g : Flow}

/-- A tool name that is free as far as the app was listed is free in the app. -/
theorem Flow.Free.inDocs [LawfulListing σ] {t : Setting} {x tool : String}
    (hkeeps : LawfulStore.Keeps s docs) (ht : t.siblings = FlowStore.siblings s f)
    (h : f.Free t x tool) : (docs.put f).Free f x tool := by
  obtain ⟨others, hothers, h⟩ := h
  rw [ht] at hothers
  intro id d hd hshares y hy
  obtain ⟨rfl, rfl⟩ | ⟨hne, hd⟩ := Docs.put_eq_some.1 hd
  · exact h d List.mem_cons_self y hy
  · have hid : d.id = id := LawfulStore.id_eq hkeeps hd
    obtain he | ⟨app, happ, happ'⟩ := hshares
    · exact absurd (he.trans hid).symm hne
    · obtain ⟨k, hk, hread⟩ := FlowStore.mem_siblings hkeeps hothers happ hd happ' hne
      refine h k (List.mem_cons_of_mem _ hk) y ?_
      obtain rfl | rfl := LawfulStore.readBack_ok hread
      · exact hy
      · exact Flow.tool_written_iff.2 hy

/-- **A task leaves the tool names different.** -/
theorem Command.LeavesTools.named [LawfulListing σ] {task : FlowTask} {effect : Effect}
    (hc : c.LeavesTools w s) (h : docs.Named) (hkeeps : LawfulStore.Keeps s docs)
    (hf : FlowStore.needBy s (c.argument "flow_id") = .ok f) (htask : c.task w f = .ok task)
    (hrun : task.run w (FlowStore.siblings s f) f = .ok effect) (hg : effect.changed = some g) :
    (docs.put (g.saved w.now)).Named := by
  obtain ⟨id, d, hd, hread⟩ := FlowStore.needBy_ok hkeeps hf
  -- the flow that is loaded has the nodes and the tool names of the document
  have hwithin : f.Within d := by
    obtain rfl | rfl := LawfulStore.readBack_ok hread
    · exact .refl f
    · exact d.within_written
  have hid : id = f.id := (h.id_eq hd).symm.trans hwithin.id_eq.symm
  have hloaded : (docs.put f).Named := by
    refine h.of_within (fun {id' e} he => ?_) fun {id' e} he => .inr ?_
    · obtain ⟨rfl, rfl⟩ | ⟨-, he⟩ := Docs.put_eq_some.1 he
      · rfl
      · exact h.id_eq he
    · obtain ⟨rfl, rfl⟩ | ⟨-, he⟩ := Docs.put_eq_some.1 he
      · exact ⟨d, by rw [← hid, hd], hwithin⟩
      · exact ⟨e, he, .refl e⟩
  -- what the task has made of it
  have hmade : f.Retools ⟨w.registry, w.freshId, FlowStore.siblings s f⟩ g ∧
      ((g.nodes.map Node.id).Sublist (f.nodes.map Node.id) ∨
        g.nodes.map Node.id = f.nodes.map Node.id ++ [w.freshId 1] ∧
          ¬ FlowStore.Uses s (w.freshId 1)) := by
    obtain ⟨e, result, rfl, he⟩ | ⟨node, schema, m, hm⟩ := FlowTask.run_changed hrun hg
    · have hedit := Command.edit?_eq_some hf htask
      have hmakes := Edit.makes_of_apply he
      refine ⟨hmakes.retools hc.registry (hc.keeps _ hedit), hmakes.nodeIds.imp_right ?_⟩
      exact fun ⟨hadds, hids⟩ => ⟨hids, hc.fresh _ hedit hadds⟩
    · exact ⟨.keepSchema hm, .inl ((Flow.keepSchema_ok hm).nodeIds_eq ▸ .refl _)⟩
  obtain ⟨hretools, hids⟩ := hmade
  have hunused : ¬ FlowStore.Uses s (w.freshId 1) → ∀ {id d}, docs.put f id = some d →
      w.freshId 1 ∉ d.nodes.map Node.id := by
    intro hnew id' e he hmem
    obtain ⟨rfl, rfl⟩ | ⟨-, he⟩ := Docs.put_eq_some.1 he
    · exact hnew ⟨docs, hkeeps, id, d, hd, hwithin.nodeIds.subset hmem⟩
    · exact hnew ⟨docs, hkeeps, id', e, he, hmem⟩
  have hput : docs.put (g.saved w.now) = (docs.put f).put (g.saved w.now) := by
    have hgid : (g.saved w.now).id = f.id := hretools.id_eq
    rw [Docs.put, Docs.put, Docs.put, hgid, Function.update_idem]
  have hself : docs.put f f.id = some f := Docs.put_self
  rw [hput]
  refine hloaded.put hself hretools.id_eq hretools.app_eq ?_ ?_
    (hretools.named (hloaded.named hself)) ?_
  · obtain hsub | ⟨hadded, hnew⟩ := hids
    · exact (hloaded.nodup hself).sublist hsub
    · show (g.nodes.map Node.id).Nodup
      rw [hadded, List.nodup_append]
      refine ⟨hloaded.nodup hself, by simp, fun a ha b hb hab => ?_⟩
      obtain rfl := List.mem_singleton.1 hb
      exact hunused hnew hself (hab ▸ ha)
  · intro x hx
    obtain hsub | ⟨hadded, hnew⟩ := hids
    · exact .inl (hsub.subset hx)
    · rw [show (g.saved w.now).nodes = g.nodes from rfl, hadded, List.mem_append,
        List.mem_singleton] at hx
      refine hx.imp_right ?_
      rintro rfl
      exact hunused hnew
  · obtain ⟨x, htools⟩ := hretools.tools
    refine ⟨x, fun y tool hy => (htools y tool hy).imp_right ?_⟩
    exact fun ⟨hyx, hfree⟩ => ⟨hyx, hfree.inDocs hkeeps rfl⟩

/-- **One step leaves the tool names different.** -/
theorem Command.Change.named [LawfulListing σ] (hchange : c.Change w s docs docs')
    (hc : c.LeavesTools w s) (h : docs.Named) (hkeeps : LawfulStore.Keeps s docs) :
    docs'.Named := by
  cases hchange with
  | none => exact h
  | create name app description =>
    refine h.of_within (fun {id f} hf => ?_) fun {id f} hf => ?_
    · obtain ⟨rfl, rfl⟩ | ⟨-, hf⟩ := Docs.put_eq_some.1 hf
      · rfl
      · exact h.id_eq hf
    · obtain ⟨rfl, rfl⟩ | ⟨-, hf⟩ := Docs.put_eq_some.1 hf
      · exact .inl rfl
      · exact .inr ⟨f, hf, .refl f⟩
  | delete =>
    have hold : ∀ {other id f}, docs.drop other id = some f → docs id = some f :=
      fun hf => (Docs.drop_eq_some.1 hf).2
    exact h.of_within (fun hf => h.id_eq (hold hf)) fun hf => .inr ⟨_, hold hf, .refl _⟩
  | save hf htask hrun hg => exact hc.named h hkeeps hf htask hrun hg

/-- **The tool names of an app stay different in a run** of commands that leave them to the
program, whatever the commands are, with whatever arguments, and whether they are carried out or
refused – in the documents as they are kept, and as they are loaded. -/
theorem namesTools_of_reaches [LawfulListing σ]
    (h : Reaches Command.LeavesTools FlowStore.empty s) :
    (∃ docs, LawfulStore.Keeps s docs ∧ docs.NamesTools) ∧ (FlowStore.loaded s).NamesTools := by
  have hnamed : ∃ docs, LawfulStore.Keeps s docs ∧ docs.Named := by
    induction h with
    | start => exact ⟨_, LawfulStore.empty_keeps, by constructor <;> intros <;> contradiction⟩
    | @step s _ w c hc ih =>
      obtain ⟨docs, hkeeps, hnamed⟩ := ih
      obtain ⟨docs', hkeeps', hchange⟩ := Command.step_change hkeeps w c
      exact ⟨docs', hkeeps', hchange.named hc hnamed hkeeps⟩
  obtain ⟨docs, hkeeps, hnamed⟩ := hnamed
  refine ⟨⟨docs, hkeeps, hnamed.namesTools⟩, Docs.Named.namesTools ?_⟩
  have hload : ∀ {id f}, FlowStore.loaded s id = some f → ∃ d, docs id = some d ∧ f.Within d := by
    intro id f hf
    obtain ⟨d, hd, hread⟩ := (FlowStore.load_eq_some hkeeps).1 (FlowStore.loaded_eq_some.1 hf)
    refine ⟨d, hd, ?_⟩
    obtain rfl | rfl := LawfulStore.readBack_ok hread
    · exact .refl f
    · exact d.within_written
  refine hnamed.of_within (fun hf => ?_) fun hf => .inr (hload hf)
  obtain ⟨d, hd, hwithin⟩ := hload hf
  exact hwithin.id_eq.trans (hnamed.id_eq hd)

end

theorem Memory.uses_iff {m : Memory} {x : String} :
    FlowStore.Uses m x ↔ ∃ f ∈ m.flows, x ∈ f.nodes.map Node.id := by
  constructor
  · rintro ⟨docs, hkeeps, id, f, hf, hx⟩
    exact ⟨f, List.mem_of_find?_eq_some ((hkeeps id).trans hf), hx⟩
  · rintro ⟨f, hf, hx⟩
    exact ⟨m.find?, fun _ => rfl, f.id, f, Keyed.find?_eq_some_of_mem m.distinct hf, hx⟩

instance (m : Memory) (x : String) : Decidable (FlowStore.Uses m x) :=
  decidable_of_iff _ Memory.uses_iff.symm

/-- A run that creates two flows of an app, adds a trigger to each under one name, and renames the
second one. -/
def sampleTools : List (Surroundings × Command) := [
  (numberedSurroundings "one", ⟨"create_flow", [("name", .str "One"), ("app_id", .str "shop")]⟩),
  (numberedSurroundings "a", ⟨"add_node", [("flow_id", .str "one1"),
    ("node_type", .str Builtin.triggerName), ("name", .str "Search")]⟩),
  (numberedSurroundings "two", ⟨"create_flow", [("name", .str "Two"), ("app_id", .str "shop")]⟩),
  (numberedSurroundings "b", ⟨"add_node", [("flow_id", .str "two1"),
    ("node_type", .str Builtin.triggerName), ("name", .str "Find")]⟩),
  (numberedSurroundings "c", ⟨"update_node", [("flow_id", .str "two1"), ("node_id", .str "b1"),
    ("name", .str "Search")]⟩)]

/-- The run of five commands: the second trigger gets a number. -/
theorem namesTools_of_reaches_sampleTools :
    ((Command.stepAll FlowStore.empty sampleTools : Memory).flows.map fun f =>
        f.nodes.map fun n => n.tool?.bind Json.text?)
      = [[some "search"], [some "search_2"]] ∧
      (FlowStore.loaded (Command.stepAll FlowStore.empty sampleTools : Memory)).NamesTools := by
  refine ⟨by decide +kernel, (namesTools_of_reaches ?_).2⟩
  refine .step (.step (.step (.step (.step .start _ _ ?_) _ _ ?_) _ _ ?_) _ _ ?_) _ _ ?_
  all_goals exact ⟨by decide +kernel, by decide +kernel, by decide +kernel⟩

end Workflow
