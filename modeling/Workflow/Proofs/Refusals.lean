import Workflow.Proofs.Accepted
import Workflow.Proofs.ToolName

/-!
# How operations on graphs are refused

A refusal belongs to one of the sorts that requests are answered with, or it is a defect: a value
was met that has the wrong shape for what was to be done with it. What is checked when a request is
read leaves little that could have a wrong shape (`Operation.isAccepted`), and in memory a flow that
was loaded can always be saved again. So whether an operation on a graph meets a defect comes down
to the parameters of nodes, which may hold anything.

The one parameter that the edits of a flow read with a shape in mind is the tool name of triggers.
When a trigger is added or renamed, those of all other triggers of the app are collected, and a list
or an object has no place among them. Nothing but an update puts one there: it is stored without a
word, and the next trigger that is to be named – in whatever flow of the app – meets it
(`Operation.Stumbles`). `refused_as_declared` says that this is the only way, and that a run without
such an update never gets there.
-/

namespace Workflow

open Outcome

/-! ## Declared refusals -/

namespace Outcome

variable {α β : Type} {x : Outcome α} {k : α → Outcome β}

/-- **An outcome as it is declared**: a value, or a refusal of one of the sorts that requests are
answered with. -/
def IsDeclared (x : Outcome α) : Prop :=
  (∃ a, x = .ok a) ∨ ∃ failure family, x = .error failure ∧ failure.family? = some family

theorem isDeclared_error {failure : Failure} {family : Family}
    (h : failure.family? = some family) : IsDeclared (.error failure : Outcome α) :=
  .inr ⟨failure, family, rfl, h⟩

theorem IsDeclared.bind (hx : IsDeclared x) (hk : ∀ a, x = .ok a → IsDeclared (k a)) :
    IsDeclared (x >>= k) := by
  obtain ⟨a, rfl⟩ | ⟨failure, family, rfl, hfamily⟩ := hx
  · exact hk a rfl
  · exact isDeclared_error hfamily

theorem IsDeclared.map {g : α → β} (hx : IsDeclared x) : IsDeclared (g <$> x) := by
  obtain ⟨a, rfl⟩ | ⟨failure, family, rfl, hfamily⟩ := hx
  · exact .inl ⟨g a, rfl⟩
  · exact isDeclared_error hfamily

/-- A guard whose refusal is declared. -/
theorem isDeclared_refuse {c : Prop} [Decidable c] {failure : Failure} {family : Family}
    {k : PUnit → Outcome β} (h : failure.family? = some family) (hk : ¬ c → IsDeclared (k ⟨⟩)) :
    IsDeclared (if c then (throw failure : Outcome PUnit) >>= k else k ⟨⟩) := by
  split
  · exact isDeclared_error h
  · next hc => exact hk hc

/-- When a step is refused for an item of a list, and for whatever item it is refused the refusal is
the same, then it is that of the list. -/
theorem mapM_eq_error {f : α → Outcome β} {xs : List α} {failure : Failure}
    (hall : ∀ x ∈ xs, (∃ y, f x = .ok y) ∨ f x = .error failure)
    (hx : ∃ x ∈ xs, f x = .error failure) : xs.mapM f = .error failure := by
  induction xs with
  | nil =>
    obtain ⟨x, hx, -⟩ := hx
    cases hx
  | cons x xs ih =>
    obtain ⟨hhead, htail⟩ := List.forall_mem_cons.1 hall
    rw [List.mapM_cons]
    obtain ⟨y, hy⟩ | hrefused := hhead
    · obtain ⟨z, hz, hrefused⟩ := hx
      obtain rfl | hz := List.mem_cons.1 hz
      · rw [hy] at hrefused
        cases hrefused
      · rw [hy, ih htail ⟨z, hz, hrefused⟩]
        rfl
    · rw [hrefused]
      rfl

end Outcome

/-! ## Tool names -/

namespace Node

/-- **A tool name has a place among others** unless it is a list or an object. What does not count
as given takes no place. -/
def HasUsableTool (n : Node) : Prop :=
  ∀ v ∈ n.tool?, v.isTruthy = true → v.isKey = true

instance (n : Node) : Decidable n.HasUsableTool :=
  inferInstanceAs (Decidable (∀ v ∈ n.tool?, _))

theorem hasUsableTool_of_text {n : Node} {tool : String} (h : n.tool? = some (.str tool)) :
    n.HasUsableTool := by
  rintro v hv -
  obtain rfl := Option.some.inj (h.symm.trans hv)
  rfl

/-- The tool name of a node can be read exactly when it has a place among others. -/
theorem toolName?_cases (n : Node) : n.HasUsableTool ∧ (∃ name, n.toolName? = .ok name) ∨
    ¬ n.HasUsableTool ∧ n.toolName? = .error .unusableKey := by
  unfold HasUsableTool toolName? tool?
  cases Entries.get? n.parameters toolNameKey with
  | none => exact .inl ⟨nofun, none, rfl⟩
  | some v =>
    by_cases htruthy : v.isTruthy = true <;> by_cases hkey : v.isKey = true <;>
      simp [Option.filter, htruthy, hkey]

end Node

namespace Flow

variable {f g : Flow} {s : Setting} {flows others : List Flow} {except : Option String}

/-- Whether some trigger of some flows has a tool name without a place among others. -/
def HasUnusable (flows : List Flow) (except : Option String) : Prop :=
  ∃ n ∈ triggers flows except, ¬ n.HasUsableTool

instance (flows : List Flow) (except : Option String) : Decidable (HasUnusable flows except) :=
  inferInstanceAs (Decidable (∃ n ∈ triggers flows except, _))

theorem exists_toolNames (h : ¬ HasUnusable flows except) :
    ∃ names, toolNames flows except = .ok names := by
  refine exists_bind_pure_eq_ok.2 (exists_mapM_eq_ok.2 fun n hn => ?_)
  obtain ⟨-, hname⟩ | ⟨hunusable, -⟩ := n.toolName?_cases
  · exact hname
  · exact absurd ⟨n, hn, hunusable⟩ h

theorem toolNames_eq_error (h : HasUnusable flows except) :
    toolNames flows except = .error .unusableKey := by
  have hrefused : (triggers flows except).mapM Node.toolName? = .error .unusableKey := by
    refine mapM_eq_error (fun n _ => ?_) ?_
    · exact n.toolName?_cases.imp And.right And.right
    · obtain ⟨n, hn, hunusable⟩ := h
      obtain ⟨husable, -⟩ | ⟨-, hrefused⟩ := n.toolName?_cases
      · exact absurd husable hunusable
      · exact ⟨n, hn, hrefused⟩
  rw [toolNames, hrefused]
  rfl

/-- **A tool name is picked** when all others have a place among one another. -/
theorem exists_toolNameFor (hs : s.siblings = .ok others) (name : String)
    (h : ¬ HasUnusable (f :: others) except) : ∃ tool, f.toolNameFor s name except = .ok tool := by
  obtain ⟨names, hnames⟩ := exists_toolNames h
  rw [toolNameFor, hs]
  exact ⟨_, show freshToolName (f :: others) name except = .ok _ by rw [freshToolName, hnames]; rfl⟩

theorem toolNameFor_eq_error (hs : s.siblings = .ok others) (name : String)
    (h : HasUnusable (f :: others) except) :
    f.toolNameFor s name except = .error .unusableKey := by
  rw [toolNameFor, hs]
  show freshToolName (f :: others) name except = _
  rw [freshToolName, toolNames_eq_error h]
  rfl

end Flow

/-! ## What edits draw on -/

theorem Checked.exists_orFail {α : Type} {x : Checked α} (h : x.toOption.isSome = true) :
    ∃ a, x.orFail = .ok a := by
  cases x with
  | ok a => exact ⟨a, rfl⟩
  | bad defects => cases h

theorem Position.exists_orElse {position : Option (Checked Position)}
    (h : (position.all fun p => p.toOption.isSome) = true) (default : Position) :
    ∃ place, Position.orElse default position = .ok place := by
  cases position with
  | none => exact ⟨default, rfl⟩
  | some p => exact Checked.exists_orFail h

namespace KeyedValues

variable {α : Type} {m more : KeyedValues α}

/-- All keys of a map are texts. -/
def HasTextKeys (m : KeyedValues α) : Prop :=
  ∀ entry ∈ m, ∃ key, entry.1 = .str key

theorem hasTextKeys_ofEntries (es : Entries α) : HasTextKeys (ofEntries es) := by
  intro entry hentry
  obtain ⟨e, -, rfl⟩ := List.mem_map.1 hentry
  exact ⟨e.1, rfl⟩

theorem HasTextKeys.put (h : HasTextKeys m) (key : String) (v : α) :
    HasTextKeys (KeyedValues.put m (.str key) v) := by
  induction m with
  | nil => exact List.forall_mem_singleton.2 ⟨key, rfl⟩
  | cons e m ih =>
    obtain ⟨he, hm⟩ := List.forall_mem_cons.1 h
    unfold KeyedValues.put
    split
    · exact List.forall_mem_cons.2 ⟨he, hm⟩
    · exact List.forall_mem_cons.2 ⟨he, ih hm⟩

theorem HasTextKeys.merge (h : HasTextKeys m) (hmore : HasTextKeys more) :
    HasTextKeys (KeyedValues.merge m more) := by
  unfold KeyedValues.merge
  induction more generalizing m with
  | nil => exact h
  | cons e more ih =>
    obtain ⟨⟨key, hkey⟩, hmore⟩ := List.forall_mem_cons.1 hmore
    refine ih (m := KeyedValues.put m e.1 e.2) ?_ hmore
    rw [hkey]
    exact h.put key e.2

theorem HasTextKeys.exists_checked (h : HasTextKeys m) : ∃ es, checked m = .ok es := by
  have hnone : (m.filter fun entry => entry.1.text?.isNone) = [] := by
    refine List.filter_eq_nil_iff.2 fun entry hentry => ?_
    obtain ⟨key, hkey⟩ := h entry hentry
    simp [hkey, Json.text?]
  rw [checked, hnone]
  exact ⟨_, rfl⟩

end KeyedValues

/-! ## Edits -/

/-- **The trigger that an edit gives a tool name**: a new one, or one with an id that gets another
name; none if the edit names no trigger, or is refused before it would. -/
def Edit.names? (f : Flow) : Edit → Option (Option String)
  | .addNode type name _ _ =>
    if type = Builtin.triggerName ∧ ∀ m ∈ f.nodes, m.name ≠ name then some none else none
  | .updateNode node update => do
    let n ← f.findNode? node
    let name ← update.newName? n
    if n.type = Builtin.triggerName ∧ ∀ m ∈ f.nodes, m.id ≠ n.id → m.name ≠ name then
      some (some n.id)
    else none
  | _ => none

namespace Flow

variable {f g : Flow} {s : Setting} {except : Option String}

theorem exists_ownParameters {m : KeyedValues Json} (h : m.HasTextKeys) :
    ∃ own, ownParameters m = .ok own := by
  obtain ⟨own, hown⟩ := h.exists_checked
  rw [ownParameters, hown]
  exact ⟨own, rfl⟩

/-- The titles of the built-in node types can be displayed. -/
theorem exists_title (hs : s.registry = Builtin.registry) {type : String} {t : NodeType}
    (ht : s.registry.get? type = some t) : ∃ title, t.title.display = .ok title := by
  have hall : ∀ t ∈ Builtin.registry.types, t.title.text?.isSome = true := by decide
  rw [hs] at ht
  have htext := hall t (List.mem_of_find?_eq_some ht)
  cases htitle : t.title with
  | str title => exact ⟨title, rfl⟩
  | _ =>
    rw [htitle] at htext
    cases htext

/-- The defaults of a node type are a map with texts for keys, be it a built-in one or none that is
registered. -/
theorem exists_defaults (hs : s.registry = Builtin.registry) (type : String) :
    ∃ defaults : KeyedValues Json,
      (((s.registry.get? type).map NodeType.defaults).getD (.obj [])).toMap = .ok defaults ∧
      defaults.HasTextKeys := by
  have hall : ∀ t ∈ Builtin.registry.types, t.defaults.members?.isSome = true := by decide
  rw [hs]
  cases ht : Builtin.registry.get? type with
  | none => exact ⟨_, rfl, KeyedValues.hasTextKeys_ofEntries []⟩
  | some t =>
    have hmembers := hall t (List.mem_of_find?_eq_some ht)
    cases hdefaults : t.defaults with
    | obj es => exact ⟨_, by simp [hdefaults, Json.toMap], KeyedValues.hasTextKeys_ofEntries es⟩
    | _ =>
      rw [hdefaults] at hmembers
      cases hmembers

/-- **What comes down to naming a trigger**, if one is named, and is as declared otherwise. -/
def ComesToNaming {α : Type} (f : Flow) (s : Setting) (names : Option (Option String))
    (x : Outcome α) : Prop :=
  match names with
  | none => IsDeclared x
  | some except => ∃ name, ∃ done : String → α, x = done <$> f.toolNameFor s name except

theorem ComesToNaming.map {α β : Type} {names : Option (Option String)} {x : Outcome α}
    {g : α → β} (h : f.ComesToNaming s names x) : f.ComesToNaming s names (g <$> x) := by
  cases names with
  | none => exact IsDeclared.map h
  | some except =>
    obtain ⟨name, done, rfl⟩ := h
    exact ⟨name, g ∘ done, by cases f.toolNameFor s name except <;> rfl⟩

theorem comesToNaming_addNode (hs : s.registry = Builtin.registry) {type name : String}
    {position : Option (Checked Position)} {parameters : Entries Json}
    (hposition : (Edit.addNode type name position parameters).isAccepted = true) :
    f.ComesToNaming s ((Edit.addNode type name position parameters).names? f)
      (f.addNode s type name position parameters) := by
  obtain ⟨place, hplace⟩ : ∃ place, Position.orElse {} position = .ok place :=
    Position.exists_orElse hposition {}
  obtain ⟨defaults, hdefaults, hkeys⟩ := exists_defaults hs type
  obtain ⟨own, hown⟩ := exists_ownParameters
    (hkeys.merge (KeyedValues.hasTextKeys_ofEntries parameters))
  show f.ComesToNaming s (if type = Builtin.triggerName ∧ ∀ m ∈ f.nodes, m.name ≠ name then
    some none else none) _
  by_cases hname : ∀ m ∈ f.nodes, m.name ≠ name
  · have hfree : ¬ (f.nodes.any fun n => n.name == name) = true := by simpa using hname
    by_cases htrigger : type = Builtin.triggerName
    · rw [if_pos ⟨htrigger, hname⟩, addNode, if_neg hfree]
      simp only [hdefaults, hplace, hown, ok_bind, if_pos htrigger, bind_pure_comp]
      exact ⟨name, _, rfl⟩
    · rw [if_neg fun h => htrigger h.1, addNode, if_neg hfree]
      simp only [hdefaults, hplace, hown, ok_bind, if_neg htrigger]
      exact .inl ⟨_, rfl⟩
  · rw [if_neg fun h => hname h.2, addNode, if_pos (by simpa using hname)]
    exact isDeclared_error rfl

theorem comesToNaming_rename (n : Node) (name : String) :
    f.ComesToNaming s
      (if n.type = Builtin.triggerName ∧ ∀ m ∈ f.nodes, m.id ≠ n.id → m.name ≠ name then
        some (some n.id) else none)
      (f.rename s n name) := by
  by_cases hname : ∀ m ∈ f.nodes, m.id ≠ n.id → m.name ≠ name
  · have hfree : ¬ (f.nodes.any fun m => m.id != n.id && m.name == name) = true := by
      simpa using hname
    by_cases htrigger : n.type = Builtin.triggerName
    · rw [if_pos ⟨htrigger, hname⟩, rename, if_neg hfree]
      simp only [if_pos htrigger, bind_pure_comp]
      exact ⟨name, _, rfl⟩
    · rw [if_neg fun h => htrigger h.1, rename, if_neg hfree]
      simp only [if_neg htrigger]
      exact .inl ⟨_, rfl⟩
  · rw [if_neg fun h => hname h.2, rename, if_pos (by simpa using hname)]
    exact isDeclared_error rfl

theorem comesToNaming_updateNode {node : String} {update : NodeUpdate}
    (hposition : (Edit.updateNode node update).isAccepted = true) :
    f.ComesToNaming s ((Edit.updateNode node update).names? f) (f.updateNode s node update) := by
  unfold updateNode needNode
  show f.ComesToNaming s (do
    let n ← f.findNode? node
    let name ← update.newName? n
    if n.type = Builtin.triggerName ∧ ∀ m ∈ f.nodes, m.id ≠ n.id → m.name ≠ name then
      some (some n.id) else none) _
  cases hn : f.findNode? node with
  | none => exact isDeclared_error rfl
  | some n =>
    obtain ⟨place, hplace⟩ : ∃ place, Position.orElse n.position update.position = .ok place :=
      Position.exists_orElse hposition n.position
    simp only [ok_bind, Option.bind_eq_bind, Option.bind_some, hplace, NodeUpdate.newName?]
    cases hname : update.name with
    | none => exact .inl ⟨_, rfl⟩
    | some name =>
      by_cases hold : name = n.name
      · simp only [hold, Option.filter_some, ne_eq, not_true, decide_false]
        exact .inl ⟨_, rfl⟩
      · simp only [hold, Option.filter_some, ne_eq, not_false_eq_true, decide_true, if_true,
          Option.bind_some, bind_pure_comp]
        rw [← update.overlaid_type n, ← update.overlaid_id n]
        exact (comesToNaming_rename (update.overlaid n) name).map

/-! ### Edits that name no trigger -/

theorem isDeclared_needNode (id : String) : IsDeclared (f.needNode id) := by
  unfold needNode
  split
  · exact .inl ⟨_, rfl⟩
  · exact isDeclared_error rfl

theorem isDeclared_endNode (role : End) (id : String) : IsDeclared (f.endNode role id) := by
  unfold endNode
  split
  · exact .inl ⟨_, rfl⟩
  · exact isDeclared_error rfl

theorem isDeclared_moveNode {node : String} {position : Checked Position}
    (h : position.toOption.isSome = true) : IsDeclared (f.moveNode node position) := by
  refine (isDeclared_needNode node).bind fun n _ => ?_
  rw [bind_pure_comp]
  exact IsDeclared.map (.inl (Checked.exists_orFail h))

theorem isDeclared_deleteNode (node : String) : IsDeclared (f.deleteNode node) :=
  (isDeclared_needNode node).bind fun _ _ => .inl ⟨_, rfl⟩

theorem isDeclared_checkEnds (r : Registry) (m n : Node) : IsDeclared (checkEnds r m n) := by
  unfold checkEnds
  split
  · exact isDeclared_error rfl
  · split
    · exact isDeclared_error rfl
    · exact .inl ⟨_, rfl⟩

theorem isDeclared_connect (source target : String) (sourceHandle targetHandle : Option String) :
    IsDeclared (f.connect s source sourceHandle target targetHandle) := by
  refine (isDeclared_endNode .source source).bind fun m _ => ?_
  refine (isDeclared_endNode .target target).bind fun n _ => ?_
  refine (isDeclared_checkEnds s.registry m n).bind fun _ _ => ?_
  refine isDeclared_refuse rfl fun _ => ?_
  refine isDeclared_refuse rfl fun _ => ?_
  exact isDeclared_refuse rfl fun _ => .inl ⟨_, rfl⟩

theorem isDeclared_disconnect (connection : String) : IsDeclared (f.disconnect connection) := by
  unfold disconnect
  split
  · exact .inl ⟨_, rfl⟩
  · exact isDeclared_error rfl

theorem isDeclared_checkSplice (r : Registry) (t : NodeType) (m n : Node) :
    IsDeclared (checkSplice r t m n) := by
  unfold checkSplice
  repeat' split
  all_goals first | exact isDeclared_error rfl | exact .inl ⟨_, rfl⟩

/-- A built-in transform can be put between two nodes, unless that is refused. -/
theorem isDeclared_splice (hs : s.registry = Builtin.registry) {source target type : String}
    {position : Option (Checked Position)}
    (hposition : (Edit.splice source target type position).isAccepted = true) :
    IsDeclared (f.splice s source target type position) := by
  refine (isDeclared_endNode .source source).bind fun m _ => ?_
  refine (isDeclared_endNode .target target).bind fun n _ => ?_
  unfold Registry.require
  split
  · next t ht =>
    refine (isDeclared_checkSplice s.registry t m n).bind fun _ _ => ?_
    refine isDeclared_refuse rfl fun _ => ?_
    obtain ⟨defaults, hdefaults, hkeys⟩ := exists_defaults hs type
    rw [ht, Option.map_some, Option.getD_some] at hdefaults
    obtain ⟨own, hown⟩ := exists_ownParameters hkeys
    obtain ⟨title, htitle⟩ := exists_title hs ht
    simp only [hdefaults, hown, htitle, ok_bind, bind_pure_comp]
    exact IsDeclared.map (.inl (Position.exists_orElse hposition _))
  · exact isDeclared_error rfl

end Flow

/-- **What an edit comes to**: naming a trigger, or what is declared. -/
theorem Edit.comesToNaming {f : Flow} {s : Setting} (hs : s.registry = Builtin.registry) {e : Edit}
    (he : e.isAccepted = true) : f.ComesToNaming s (e.names? f) (e.apply f s) := by
  cases e with
  | addNode type name position parameters =>
    simp only [apply, bind_pure_comp]
    exact (Flow.comesToNaming_addNode hs he).map
  | updateNode node update =>
    simp only [apply, bind_pure_comp]
    exact (Flow.comesToNaming_updateNode he).map
  | moveNode node position =>
    simp only [apply, bind_pure_comp]
    exact (Flow.isDeclared_moveNode he).map
  | deleteNode node =>
    simp only [apply, bind_pure_comp]
    exact (Flow.isDeclared_deleteNode node).map
  | connect source sourceHandle target targetHandle =>
    simp only [apply, bind_pure_comp]
    exact (Flow.isDeclared_connect source target sourceHandle targetHandle).map
  | disconnect connection =>
    simp only [apply, bind_pure_comp]
    exact (Flow.isDeclared_disconnect connection).map
  | splice source target type position =>
    simp only [apply, bind_pure_comp]
    exact (Flow.isDeclared_splice hs he).map

theorem Edit.isDeclared_apply {f : Flow} {s : Setting} {others : List Flow} {e : Edit}
    (hs : s.registry = Builtin.registry) (hothers : s.siblings = .ok others)
    (he : e.isAccepted = true) (h : ∀ except ∈ e.names? f, ¬ Flow.HasUnusable (f :: others) except) :
    IsDeclared (e.apply f s) := by
  have hcomes := Edit.comesToNaming (f := f) hs he
  cases hnames : e.names? f with
  | none =>
    rw [hnames] at hcomes
    exact hcomes
  | some except =>
    rw [hnames] at hcomes
    obtain ⟨name, done, hdone⟩ := hcomes
    rw [hdone]
    exact IsDeclared.map (.inl (Flow.exists_toolNameFor hothers name (h except hnames)))

theorem Edit.apply_eq_error {f : Flow} {s : Setting} {others : List Flow} {e : Edit}
    {except : Option String} (hs : s.registry = Builtin.registry)
    (hothers : s.siblings = .ok others) (he : e.isAccepted = true)
    (hnames : except ∈ e.names? f) (h : Flow.HasUnusable (f :: others) except) :
    e.apply f s = .error .unusableKey := by
  have hcomes := Edit.comesToNaming (f := f) hs he
  rw [show e.names? f = some except from hnames] at hcomes
  obtain ⟨name, done, hdone⟩ := hcomes
  rw [hdone, Flow.toolNameFor_eq_error hothers name h]
  rfl

/-! ## Operations in memory -/

namespace Memory

variable {s : Memory} {f g : Flow}

/-- The other flows of the app can be listed, and they are flows of the store. -/
theorem exists_siblings (s : Memory) (f : Flow) :
    ∃ others, FlowStore.siblings s f = .ok others ∧ others ⊆ s.flows := by
  unfold FlowStore.siblings
  split
  · exact ⟨[], rfl, List.nil_subset _⟩
  · exact ⟨_, rfl, fun g hg => (List.mem_filter.1 (List.mem_filter.1 hg).1).1⟩

theorem need_eq (s : Memory) (id : String) : FlowStore.need s id =
    match s.find? id with
    | some f => .ok f
    | none => .error (.flowNotFound id) := by
  rw [FlowStore.need, show FlowStore.load s id = .ok (s.find? id) from rfl, ok_bind]
  cases s.find? id <;> rfl

/-- **A flow that was loaded can be saved**, whatever has become of its nodes and connections. -/
theorem save_of_find? {id : String} (now : String) (hf : s.find? id = some f)
    (hg : g = { f with nodes := g.nodes, connections := g.connections }) :
    s.save g now = .ok (s.put (g.saved now), g.saved now) := by
  have hid : g.id = id := by
    rw [hg]
    simpa using List.find?_some hf
  have hversion : f.version = g.version := by rw [hg]
  rw [save, hid, hf]
  exact if_pos hversion

end Memory

namespace Operation

variable {w : Surroundings} {s : Memory} {f : Flow} {flow : String} {task : FlowTask}

/-- **A task on a flow in memory** is refused when the task is, and for no other reason. -/
theorem run_onFlow (hf : s.find? flow = some f) :
    (onFlow flow task).run w s = do
      let effect ← task.run w (FlowStore.siblings s f) f
      return (match effect.changed with
        | some g => s.put (g.saved w.now)
        | none => s, effect.reply) := by
  have hneed : FlowStore.need s flow = .ok f := by rw [Memory.need_eq, hf]
  rw [run, hneed, ok_bind]
  cases hrun : task.run w (FlowStore.siblings s f) f with
  | error failure => rfl
  | ok effect =>
    rw [ok_bind, ok_bind, conclude]
    cases hchanged : effect.changed with
    | none => rfl
    | some g =>
      have hsave := Memory.save_of_find? w.now hf (FlowTask.run_frame hrun hchanged)
      show (do
        let (s', _) ← s.save g w.now
        return (s', effect.reply)) = _
      rw [hsave]
      rfl

/-! ## What can be asked for -/

/-- Whether an operation is one on graphs: on flows as a whole, or on the nodes and connections of
one. -/
def isOnGraph : Operation → Bool
  | .createFlow .. | .listFlows _ | .deleteFlow _ => true
  | .onFlow _ .tell | .onFlow _ .listNodes | .onFlow _ .listConnections | .onFlow _ (.edit _) => true
  | _ => false

/-- The id that a new flow gets is new. -/
def DrawsFresh (w : Surroundings) (s : Memory) : Operation → Prop
  | .createFlow .. => w.freshId 1 ∉ s.flows.map Flow.id
  | _ => True

instance (w : Surroundings) (s : Memory) : (op : Operation) → Decidable (op.DrawsFresh w s)
  | .createFlow .. => inferInstanceAs (Decidable (_ ∉ _))
  | .listFlows _ | .deleteFlow _ | .typeSchemas _ | .onFlow .. => .isTrue trivial

/-- **An operation on graphs that can be asked for**, with the built-in node types and fresh ids. -/
structure IsProper (w : Surroundings) (s : Memory) (op : Operation) : Prop where
  /-- The node types are the built-in ones. -/
  registry : w.registry = Builtin.registry
  /-- The operation is one on graphs. -/
  onGraph : op.isOnGraph = true
  /-- It can be asked for. -/
  accepted : op.isAccepted = true
  /-- Ids are fresh. -/
  fresh : op.DrawsFresh w s

/-- **An operation stumbles over a tool name**: it names a trigger, and another trigger of the app
has a list or an object for a tool name. -/
def Stumbles (s : Memory) (op : Operation) : Prop :=
  ∃ p ∈ op.edit?, ∃ f ∈ s.find? p.1, ∃ except ∈ p.2.names? f,
    ∃ others ∈ (FlowStore.siblings s f).toOption, Flow.HasUnusable (f :: others) except

instance (s : Memory) (op : Operation) : Decidable (op.Stumbles s) :=
  inferInstanceAs (Decidable (∃ p ∈ op.edit?, _))

/-- **An operation that does not stumble** comes to what is declared. -/
theorem IsProper.isDeclared {op : Operation} (h : op.IsProper w s) (hs : ¬ op.Stumbles s) :
    IsDeclared (op.run w s) := by
  cases op with
  | createFlow name app description =>
    have hcreate : s.create (newFlow w name app description) = .ok _ := dif_neg h.fresh
    rw [run, show FlowStore.create s (newFlow w name app description) = .ok _ from hcreate]
    exact .inl ⟨_, rfl⟩
  | listFlows app => exact .inl ⟨_, rfl⟩
  | deleteFlow flow =>
    rw [run, Memory.need_eq]
    cases s.find? flow with
    | none => exact isDeclared_error rfl
    | some f => exact .inl ⟨_, rfl⟩
  | typeSchemas type => cases h.onGraph
  | onFlow flow task =>
    cases hf : s.find? flow with
    | none =>
      rw [run, Memory.need_eq, hf]
      exact isDeclared_error rfl
    | some f =>
      rw [run_onFlow hf, bind_pure_comp]
      refine IsDeclared.map ?_
      cases task with
      | tell | listNodes | listConnections => exact .inl ⟨_, rfl⟩
      | edit e =>
        obtain ⟨others, hothers, -⟩ := s.exists_siblings f
        refine (Edit.isDeclared_apply h.registry hothers h.accepted fun except hexcept hunusable =>
          hs ⟨_, rfl, f, hf, except, hexcept, others, mem_toOption.2 hothers, hunusable⟩).bind ?_
        exact fun _ _ => .inl ⟨_, rfl⟩
      | _ => cases h.onGraph

/-- **An operation that stumbles** over a tool name is refused for it. -/
theorem IsProper.eq_unusableKey {op : Operation} (h : op.IsProper w s) (hs : op.Stumbles s) :
    op.run w s = .error .unusableKey := by
  obtain ⟨⟨flow, e⟩, hp, f, hf, except, hexcept, others, hothers, hunusable⟩ := hs
  obtain rfl := eq_onFlow_of_edit? hp
  rw [run_onFlow hf, FlowTask.run,
    Edit.apply_eq_error h.registry (mem_toOption.1 hothers) h.accepted hexcept hunusable]
  rfl

end Operation

/-! ## Tool names that are spoiled -/

theorem Node.HasUsableTool.of_eq {m n : Node} (h : n.HasUsableTool) (htool : m.tool? = n.tool?) :
    m.HasUsableTool := by
  rw [HasUsableTool, htool]
  exact h

/-- The tool names of all triggers of a flow have a place among others. -/
def Flow.HasUsableTools (f : Flow) : Prop :=
  ∀ n ∈ f.nodes, n.type = Builtin.triggerName → n.HasUsableTool

/-- **An edit spoils a tool name**: an update leaves a trigger that it does not rename with a list
or an object for one. -/
def Edit.SpoilsTool (f : Flow) : Edit → Prop
  | .updateNode node update => ∃ n ∈ f.findNode? node,
    n.type = Builtin.triggerName ∧ update.newName? n = none ∧ ¬ (update.overlaid n).HasUsableTool
  | _ => False

instance (f : Flow) : (e : Edit) → Decidable (e.SpoilsTool f)
  | .updateNode .. => inferInstanceAs (Decidable (∃ n ∈ f.findNode? _, _))
  | .addNode .. | .moveNode .. | .deleteNode _ | .connect .. | .disconnect _ | .splice .. =>
    .isFalse id

/-- **No other edit does.** -/
theorem Edit.Makes.hasUsableTools {f g : Flow} {s : Setting} {e : Edit}
    (htransform : s.registry.categoryOf Builtin.triggerName ≠ some .transform)
    (h : e.Makes f s g) (hspoils : ¬ e.SpoilsTool f) (hf : f.HasUsableTools) :
    g.HasUsableTools := by
  obtain ⟨id, h⟩ := h.retooled htransform
  intro m hm htrigger
  cases (h m hm).1 with
  | old hold =>
    obtain ⟨n, hn, hntrigger, -, htool⟩ := hold htrigger
    exact (hf n hn hntrigger).of_eq htool.symm
  | picked tool htool => exact Node.hasUsableTool_of_text htool
  | left hn hntrigger hname hid htool =>
    by_contra hunusable
    exact hspoils ⟨_, hn, hntrigger, hname, fun husable => hunusable (husable.of_eq htool)⟩

namespace Operation

variable {w : Surroundings} {s s' : Memory} {op : Operation} {reply : Reply}

/-- An operation spoils a tool name if it is an edit that does. -/
def SpoilsTool (s : Memory) (op : Operation) : Prop :=
  ∃ p ∈ op.edit?, ∃ f ∈ s.find? p.1, p.2.SpoilsTool f

instance (s : Memory) (op : Operation) : Decidable (op.SpoilsTool s) :=
  inferInstanceAs (Decidable (∃ p ∈ op.edit?, _))

/-- **The flows that an operation on graphs leaves** were there, or are new and empty, or are what
an edit has made. -/
theorem IsProper.mem_flows (h : op.IsProper w s) (hrun : op.run w s = .ok (s', reply)) {f : Flow}
    (hf : f ∈ s'.flows) :
    f ∈ s.flows ∨ f.nodes = [] ∨ ∃ flow e k g result, op = .onFlow flow (.edit e) ∧
      s.find? flow = some k ∧
      e.apply k ⟨w.registry, w.freshId, FlowStore.siblings s k⟩ = .ok (g, result) ∧
      f = g.saved w.now := by
  cases op with
  | createFlow name app description =>
    obtain ⟨t, ht, hrun⟩ := bind_eq_ok.1 hrun
    cases pure_eq_ok.1 hrun
    rw [(Memory.create_ok ht).2, List.mem_append, List.mem_singleton] at hf
    obtain hf | rfl := hf
    · exact .inl hf
    · exact .inr (.inl rfl)
  | listFlows app =>
    obtain ⟨flows, -, hrun⟩ := bind_eq_ok.1 hrun
    cases pure_eq_ok.1 hrun
    exact .inl hf
  | deleteFlow flow =>
    obtain ⟨k, -, hrun⟩ := bind_eq_ok.1 hrun
    cases pure_eq_ok.1 hrun
    exact .inl (List.mem_filter.1 hf).1
  | typeSchemas type => cases h.onGraph
  | onFlow flow task =>
    cases hk : s.find? flow with
    | none =>
      rw [run, Memory.need_eq, hk] at hrun
      cases hrun
    | some k =>
      rw [run_onFlow hk] at hrun
      obtain ⟨effect, heffect, hrun⟩ := bind_eq_ok.1 hrun
      cases pure_eq_ok.1 hrun
      cases task with
      | tell | listNodes | listConnections =>
        cases heffect
        exact .inl hf
      | edit e =>
        obtain ⟨⟨g, result⟩, hg, heffect⟩ := bind_eq_ok.1 heffect
        cases pure_eq_ok.1 heffect
        obtain ⟨d, hd, rfl⟩ := List.mem_map.1 hf
        split
        · exact .inr (.inr ⟨flow, e, k, g, result, rfl, hk, hg, rfl⟩)
        · exact .inl hd
      | _ => cases h.onGraph

/-- An operation that spoils no tool name leaves those that have a place among others. -/
theorem IsProper.hasUsableTools (h : op.IsProper w s) (hspoils : ¬ op.SpoilsTool s)
    (hrun : op.run w s = .ok (s', reply)) (hs : ∀ f ∈ s.flows, f.HasUsableTools) :
    ∀ f ∈ s'.flows, f.HasUsableTools := by
  have htransform : w.registry.categoryOf Builtin.triggerName ≠ some .transform := by
    rw [h.registry]
    decide
  intro f hf
  obtain hold | hnew | ⟨flow, e, k, g, result, rfl, hk, hg, rfl⟩ := h.mem_flows hrun hf
  · exact hs f hold
  · intro n hn
    rw [hnew] at hn
    cases hn
  · show g.HasUsableTools
    exact (Edit.makes_of_apply hg).hasUsableTools htransform (fun h => hspoils ⟨_, rfl, k, hk, h⟩)
      (hs k (List.mem_of_find?_eq_some hk))

/-- Where all tool names have a place among others, no operation stumbles over one. -/
theorem not_stumbles (hs : ∀ f ∈ s.flows, f.HasUsableTools) (op : Operation) :
    ¬ op.Stumbles s := by
  rintro ⟨p, -, f, hf, except, -, others, hothers, n, hn, hunusable⟩
  obtain ⟨others', hothers', hsub⟩ := s.exists_siblings f
  obtain rfl : others' = others := Except.ok.inj (hothers'.symm.trans (mem_toOption.1 hothers))
  obtain ⟨hn, htrigger⟩ := List.mem_filter.1 hn
  obtain ⟨k, hk, hn⟩ := List.mem_flatMap.1 hn
  have hkmem : k ∈ s.flows := by
    obtain rfl | hk := List.mem_cons.1 hk
    · exact List.mem_of_find?_eq_some hf
    · exact hsub hk
  refine hunusable (hs k hkmem n hn ?_)
  simpa using (Bool.and_eq_true_iff.1 htrigger).1

end Operation

/-! ## Runs of operations -/

/-- **The stores that a run of operations can come to** when every one satisfies a condition where
it is asked for. -/
inductive Operation.Leads {σ : Type} [FlowStore σ] (Allowed : Surroundings → σ → Operation → Prop)
    (s₀ : σ) : σ → Prop
  /-- No operation was asked for. -/
  | start : Leads Allowed s₀ s₀
  /-- One more operation was carried out or refused. -/
  | step {s : σ} (h : Leads Allowed s₀ s) (w : Surroundings) (op : Operation)
      (hop : Allowed w s op) : Leads Allowed s₀ (op.step w s).1

/-- An operation on graphs that can be asked for and spoils no tool name. -/
def Operation.SparesTools (w : Surroundings) (s : Memory) (op : Operation) : Prop :=
  op.IsProper w s ∧ ¬ op.SpoilsTool s

theorem Operation.Leads.hasUsableTools {s : Memory}
    (h : Operation.Leads Operation.SparesTools FlowStore.empty s) :
    ∀ f ∈ s.flows, f.HasUsableTools := by
  induction h with
  | start => exact nofun
  | @step s _ w op hop ih =>
    unfold Operation.step
    split
    · next s' reply hrun => exact hop.1.hasUsableTools hop.2 hrun ih
    · exact ih

/-- **How operations on graphs are refused.** With the built-in node types and fresh ids, in whatever
state the store is, an operation on graphs that can be asked for is carried out, or refused in one
of the sorts that requests are answered with, unless it names a trigger while another trigger of the
app has a list or an object for a tool name, which it stumbles over. After a run of such operations
in which no update has spoiled a tool name, it never does. And whatever a request over HTTP leads to
can be asked for. -/
theorem refused_as_declared (w : Surroundings) (s : Memory) (op : Operation) :
    (op.IsProper w s →
      (op.Stumbles s → op.run w s = .error .unusableKey) ∧
      (¬ op.Stumbles s → IsDeclared (op.run w s)) ∧
      (Operation.Leads Operation.SparesTools FlowStore.empty s → IsDeclared (op.run w s))) ∧
    ∀ (r : Registry) (call : Http.Call) (route : Route) (action : Http.Action),
      Http.action? r call route = some action → op ∈ action.operation? → op.isAccepted = true := by
  refine ⟨fun h => ⟨h.eq_unusableKey, h.isDeclared, fun hs => ?_⟩, fun _ _ _ _ =>
    Http.isAccepted_of_action?⟩
  exact h.isDeclared (Operation.not_stumbles hs.hasUsableTools op)

/-! ### A run -/

/-- The store that operations lead to that are asked for one after the other. -/
def Operation.stepAll {σ : Type} [FlowStore σ] (s : σ) (run : List (Surroundings × Operation)) : σ :=
  run.foldl (fun s next => (next.2.step next.1 s).1) s

/-- A run that creates a flow of an app and adds a trigger. -/
def sampleTriggers : List (Surroundings × Operation) := [
  (numberedSurroundings "flow", .createFlow "One" (some "shop") none),
  (numberedSurroundings "a",
    .onFlow "flow1" (.edit (.addNode Builtin.triggerName "Search" none [])))]

/-- An update that puts a list in the place of the tool name. -/
def sampleSpoiling : Operation :=
  .onFlow "flow1" (.edit (.updateNode "a1" {
    parameters := some [(Node.toolNameKey, .arr [.str "search"])] }))

/-- Another trigger. -/
def sampleFinder : Operation :=
  .onFlow "flow1" (.edit (.addNode Builtin.triggerName "Find" none []))

/-- Another trigger is added, as declared, but not after the update. A request that deletes a node
leads to an operation that can be asked for. -/
theorem refused_as_declared_sampleFinder :
    IsDeclared (sampleFinder.run (numberedSurroundings "b")
      (Operation.stepAll FlowStore.empty sampleTriggers : Memory)) ∧
    (((sampleFinder.step (numberedSurroundings "b")
      (Operation.stepAll FlowStore.empty sampleTriggers : Memory)).1.flows.map fun f =>
        f.nodes.map fun n => n.tool?.bind Json.text?) = [[some "search", some "find"]]) ∧
    sampleFinder.run (numberedSurroundings "b")
      (sampleSpoiling.step (numberedSurroundings "")
        (Operation.stepAll FlowStore.empty sampleTriggers : Memory)).1 = .error .unusableKey ∧
    (Operation.onFlow "flow1" (.edit (.deleteNode "a1"))).isAccepted = true := by
  refine ⟨?_, by decide +kernel, ?_, ?_⟩
  · refine ((refused_as_declared _ _ _).1 ?_).2.2 (.step (.step .start _ _ ?_) _ _ ?_)
    · exact ⟨rfl, rfl, rfl, trivial⟩
    · exact ⟨⟨rfl, rfl, rfl, by decide +kernel⟩, by decide +kernel⟩
    · exact ⟨⟨rfl, rfl, rfl, trivial⟩, by decide +kernel⟩
  · refine ((refused_as_declared _ _ _).1 ?_).1 ?_
    · exact ⟨rfl, rfl, rfl, trivial⟩
    · decide +kernel
  · exact (refused_as_declared (numberedSurroundings "") FlowStore.empty _).2 Builtin.registry
      { method := "DELETE", address := "" } (.node "flow1" "a1") _ rfl rfl

end Workflow
