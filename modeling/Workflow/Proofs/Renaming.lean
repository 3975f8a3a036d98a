import Workflow.Proofs.Reference
import Workflow.Proofs.Run

/-!
# Renamed nodes

A node that gets another name gets another slug, and the API calls of the flow have to refer to it
by that slug from then on. The update that renames the node redirects the references in the
addresses and the headers of all other nodes (`Flow.updateNode_slug`), and whatever the flow is
that a run has led to, its slugs are identifiers, so that the search for references cannot mistake
a part of a path for them. So a text that refers to the slug by paths says after the renaming what
it said before, when what stood for the old slug stands for the new one
(`Node.SaysAlike`).
-/

namespace Workflow

open Outcome

/-! ## The texts of an API call -/

/-- A place in the parameters of an API call at which references stand. -/
inductive Node.Place where
  /-- The address. -/
  | url
  /-- The value of a header. -/
  | header (i : Nat)

namespace Node

/-- The value of a header, if it is a text. -/
def headerText? : Json → Option String
  | .obj header => (Entries.get? header "value").bind Json.text?
  | _ => none

/-- The text at a place, if there is one. -/
def text? (n : Node) : Place → Option String
  | .url => (Entries.get? n.parameters "url").bind Json.text?
  | .header i =>
    match Entries.get? n.parameters "headers" with
    | some (.arr headers) => headers[i]?.bind headerText?
    | _ => none

theorem get?_adjust {f : Json → Json} {es : Entries Json} {key : String} (k : String) :
    Entries.get? (adjust f key es) k
      = if k = key then (Entries.get? es key).map f else Entries.get? es k := by
  unfold adjust
  split
  · next v hv =>
    split
    · next hk => rw [hk, Entries.get?_put_self, hv, Option.map_some]
    · next hk => rw [Entries.get?_put_ne _ _ hk]
  · next hv =>
    split
    · next hk => rw [hk, hv, Option.map_none]
    · rfl

theorem text?_redirectText (old new : String) (v : Json) :
    (redirectText old new v).text? = v.text?.map (Reference.redirect old new) := by
  cases v <;> rfl

theorem headerText?_redirectHeader (old new : String) (v : Json) :
    headerText? (redirectHeader old new v) = (headerText? v).map (Reference.redirect old new) := by
  cases v with
  | obj header =>
    show (Entries.get? (adjust (redirectText old new) "value" header) "value").bind Json.text? = _
    rw [get?_adjust, if_pos rfl]
    cases hv : Entries.get? header "value" with
    | none => simp [headerText?, hv]
    | some w => simpa [headerText?, hv] using text?_redirectText old new w
  | _ => rfl

/-- **The texts of an API call whose references were redirected.** -/
theorem text?_redirected {n : Node} (htype : n.type = Builtin.apiCallName) (old new : String)
    (place : Place) :
    (n.redirected old new).text? place = (n.text? place).map (Reference.redirect old new) := by
  rw [redirected, if_pos htype]
  cases place with
  | url =>
    rw [text?, text?, get?_adjust, if_neg (by decide), get?_adjust, if_pos rfl]
    cases Entries.get? n.parameters "url" with
    | none => rfl
    | some v => exact text?_redirectText old new v
  | header i =>
    rw [text?, text?, get?_adjust, if_pos rfl, get?_adjust, if_neg (by decide)]
    cases hv : Entries.get? n.parameters "headers" with
    | none => rfl
    | some v =>
      cases v with
      | arr headers =>
        simp only [Option.map_some, redirectHeaders, List.getElem?_map]
        cases headers[i]? with
        | none => rfl
        | some header => exact headerText?_redirectHeader old new header
      | _ => rfl

end Node

/-! ## Slugs -/

namespace Flow

variable {f g : Flow} {s : Setting}

/-- **All slugs are identifiers.** -/
def HasSlugs (f : Flow) : Prop :=
  ∀ n ∈ f.nodes, ∀ slug, n.slug = some slug → Naming.IsIdentifier slug

theorem redirected_slug (n : Node) (old new : String) : (n.redirected old new).slug = n.slug := by
  unfold Node.redirected
  split <;> rfl

/-- The flow in which the references follow a slug. -/
def following (f : Flow) (id old new : String) : Flow :=
  if old ≠ "" ∧ old ≠ new then f.redirect id old new else f

/-- **What an update does to names and slugs**: nothing, or the node gets a name that no other node
has and a slug that is made from it, and the references of the other nodes follow the slug. -/
theorem updateNode_slug {id : String} {update : NodeUpdate} {m : Node}
    (h : f.updateNode s id update = .ok (g, m)) :
    ∃ n, f.findNode? id = some n ∧ m.id = n.id ∧
      (m.name = n.name ∧ m.slug = n.slug ∧ g = f.replaceNode m ∨
        (∀ k ∈ f.nodes, k.id ≠ n.id → k.name ≠ m.name) ∧
          ∃ new, new = Naming.slug m.name (f.slugsExcept (some n.id)) ∧ m.slug = some new ∧
            g = (f.following n.id (n.slug.getD "") new).replaceNode m) := by
  unfold updateNode at h
  obtain ⟨n, hn, h⟩ := bind_eq_ok.1 h
  rw [needNode_eq_ok] at hn
  extract_lets configured place at h
  have hconfigured : configured.id = n.id ∧ configured.name = n.name ∧ configured.slug = n.slug := by
    show (update.overlaid n).id = _ ∧ (update.overlaid n).name = _ ∧ (update.overlaid n).slug = _
    unfold NodeUpdate.overlaid
    split <;> exact ⟨rfl, rfl, rfl⟩
  obtain ⟨hid, hname, hslug⟩ := hconfigured
  refine ⟨n, hn, ?_⟩
  have hsame : place (f, configured) = .ok (g, m) → m.id = n.id ∧ m.name = n.name ∧
      m.slug = n.slug ∧ g = f.replaceNode m := by
    intro h
    obtain ⟨p, -, h⟩ := bind_eq_ok.1 h
    cases pure_eq_ok.1 h
    exact ⟨hid, hname, hslug, rfl⟩
  split at h
  · next name hasked =>
    split at h
    · obtain ⟨hid, hsame⟩ := hsame h
      exact ⟨hid, .inl hsame⟩
    · obtain ⟨⟨k, r⟩, hr, h⟩ := bind_eq_ok.1 h
      obtain ⟨p, -, h⟩ := bind_eq_ok.1 h
      cases pure_eq_ok.1 h
      obtain ⟨hfree, rfl, hid, rfl, hslug⟩ : (∀ k ∈ f.nodes, k.id ≠ n.id → k.name ≠ name) ∧
          k = f.following n.id (n.slug.getD "")
            (Naming.slug name (f.slugsExcept (some n.id))) ∧ r.id = n.id ∧ r.name = name ∧
            r.slug = some (Naming.slug name (f.slugsExcept (some n.id))) := by
        unfold rename at hr
        obtain ⟨hfree, hr⟩ := refuse_eq_ok.1 hr
        rw [hid] at hfree
        rw [hid, hslug] at hr
        have hfree : ∀ k ∈ f.nodes, k.id ≠ n.id → k.name ≠ name := by simpa using hfree
        split at hr
        · obtain ⟨tool, -, hr⟩ := bind_eq_ok.1 hr
          cases pure_eq_ok.1 hr
          exact ⟨hfree, rfl, rfl, rfl, rfl⟩
        · cases pure_eq_ok.1 hr
          exact ⟨hfree, rfl, rfl, rfl, rfl⟩
      exact ⟨hid, .inr ⟨hfree, _, rfl, hslug, rfl⟩⟩
  · obtain ⟨hid, hsame⟩ := hsame h
    exact ⟨hid, .inl hsame⟩

theorem HasSlugs.following (h : f.HasSlugs) (id old new : String) :
    (f.following id old new).HasSlugs := by
  unfold Flow.following
  split
  · intro n hn slug hslug
    obtain ⟨k, hk, rfl⟩ := List.mem_map.1 hn
    refine h k hk slug ?_
    split at hslug
    · exact hslug
    · rwa [redirected_slug] at hslug
  · exact h

theorem HasSlugs.replaceNode {n : Node} (h : f.HasSlugs)
    (hn : ∀ slug, n.slug = some slug → Naming.IsIdentifier slug) : (f.replaceNode n).HasSlugs := by
  intro m hm
  obtain rfl | hm := mem_of_mem_replaceIn hm
  · exact hn
  · exact h m hm

theorem HasSlugs.append {n : Node} {name : String} {taken : List String} (h : f.HasSlugs)
    (hn : n.slug = some (Naming.slug name taken)) (hg : g.nodes = f.nodes ++ [n]) :
    g.HasSlugs := by
  intro m hm slug hslug
  rw [hg, List.mem_append, List.mem_singleton] at hm
  obtain hm | rfl := hm
  · exact h m hm slug hslug
  · cases hn.symm.trans hslug
    exact Naming.isIdentifier_slug name taken

/-- **An edit makes no slugs** but those that are made from names. -/
theorem HasSlugs.of_makes {e : Edit} (h : f.HasSlugs) (hg : e.Makes f s g) : g.HasSlugs := by
  cases hg with
  | addNode hg =>
    obtain ⟨rfl, -, -, -, hslug, -⟩ := addNode_ok hg
    exact h.append hslug rfl
  | updateNode hg =>
    obtain ⟨n, hn, -, ⟨-, hslug, rfl⟩ | ⟨-, new, rfl, hslug, rfl⟩⟩ := updateNode_slug hg
    · exact h.replaceNode fun slug hm => h n (mem_of_findNode? hn) slug (hslug ▸ hm)
    · refine (h.following _ _ _).replaceNode fun slug hm => ?_
      cases hslug.symm.trans hm
      exact Naming.isIdentifier_slug _ _
  | moveNode hg =>
    obtain ⟨n, place, hn, -, rfl, rfl⟩ := moveNode_inv hg
    exact h.replaceNode fun slug hm => h n (mem_of_findNode? hn) slug hm
  | deleteNode hg =>
    obtain ⟨-, rfl⟩ := deleteNode_ok hg
    exact fun n hn => h n (List.mem_of_mem_eraseP hn)
  | connect hg =>
    obtain ⟨-, -, -, -, -, -, -, -, -, rfl⟩ := connect_ok hg
    exact h
  | disconnect hg =>
    obtain ⟨-, rfl⟩ := disconnect_ok hg
    exact h
  | splice hg =>
    obtain ⟨-, -, -, -, -, -, -, -, -, -, -, hslug, -, -, -, -, rfl⟩ := splice_ok hg
    exact h.append hslug rfl

theorem HasSlugs.written (h : f.HasSlugs) : f.written.HasSlugs := by
  intro n hn slug hslug
  obtain ⟨m, hm, rfl⟩ := List.mem_map.1 hn
  exact h m hm slug hslug

/-! ## A renaming -/

theorem getElem?_replaceIn {n k : Node} {ns : List Node} {i : Nat} (h : ns[i]? = some k)
    (hne : k.id ≠ n.id) : (replaceIn n ns)[i]? = some k := by
  induction ns generalizing i with
  | nil => cases h
  | cons m ns ih =>
    unfold replaceIn
    cases i with
    | zero =>
      cases h
      rw [if_neg hne]
      rfl
    | succ i =>
      split
      · exact h
      · exact ih h

/-- The other nodes follow a node that has got another slug. -/
theorem getElem?_of_updateNode {id old new : String} {update : NodeUpdate} {n m k : Node} {i : Nat}
    (h : f.updateNode s id update = .ok (g, m)) (hn : f.findNode? id = some n)
    (hold : n.slug = some old) (hnew : m.slug = some new) (hne : old ≠ new) (hempty : old ≠ "")
    (hk : f.nodes[i]? = some k) (hid : k.id ≠ id) :
    g.nodes[i]? = some (k.redirected old new) ∧ Naming.IsIdentifier new := by
  obtain ⟨n', hn', hmid, ⟨-, hslug, -⟩ | ⟨-, new', rfl, hslug, rfl⟩⟩ := updateNode_slug h
  all_goals obtain rfl : n' = n := Option.some.inj (hn'.symm.trans hn)
  · -- the slug is not the old one
    rw [hold, hnew] at hslug
    exact absurd (Option.some.inj hslug).symm hne
  · obtain rfl : new = _ := Option.some.inj (hnew.symm.trans hslug)
    rw [← id_of_findNode? hn] at hid
    refine ⟨getElem?_replaceIn ?_ ?_, Naming.isIdentifier_slug _ _⟩
    · rw [hold, Option.getD_some, Flow.following, if_pos ⟨hempty, hne⟩, redirect,
        List.getElem?_map, hk, Option.map_some, if_neg hid]
    · rwa [redirected_id, hmid]

end Flow

theorem hasSlugs_of_reaches {σ : Type} [FlowStore σ] [LawfulStore σ] {s : σ} {id : String}
    {f : Flow} (hs : Reaches (fun _ _ _ => True) FlowStore.empty s)
    (hf : FlowStore.load s id = .ok (some f)) : f.HasSlugs := by
  have hwritten : ∀ f : Flow, f.HasSlugs → f.written.HasSlugs := fun _ h => h.written
  have hall : FlowStore.All Flow.HasSlugs s := by
    refine hs.all hwritten (fun _ _ h => h) (fun _ _ _ _ _ hn => absurd hn List.not_mem_nil) ?_
      FlowStore.all_empty
    intro w s c f task siblings effect g _ _ _ hrun hg h
    obtain ⟨e, result, -, he⟩ | ⟨node, v, m, hm⟩ := FlowTask.run_changed hrun hg
    · exact h.of_makes (Edit.makes_of_apply he)
    · obtain ⟨n, hn, rfl, rfl⟩ := Flow.keepSchema_inv hm
      exact h.replaceNode fun slug hslug => h n (Flow.mem_of_findNode? hn) slug hslug
  exact hall.of_load hwritten hf

/-- **Whether an API call says the same by another slug**: at each place where a text was there is
one, and if the text referred to the old slug by paths, and all its placeholders could be filled,
then the new text with what stood for the old slug under the new one becomes the same text. -/
def Node.SaysAlike (old new : String) (k k' : Node) : Prop :=
  ∀ place text, k.text? place = some text → ∃ text', k'.text? place = some text' ∧
    (Template.RefersByPath old text.toList → ∀ values, Entries.get? values new = none →
      ∀ said, Template.resolve text (some values) = .ok said → said.unresolved = [] →
        Template.resolve text' (some (Template.renameKey old new values)) = .ok said)

/-- **Renaming a node keeps the references to it.** Whatever commands have led to a store, in each
flow that is loaded from it: when an update changes the slug of a node, all other API calls say the
same by the new slug. -/
theorem saysAlike_of_reaches {σ : Type} [FlowStore σ] [LawfulStore σ] {s : σ}
    {id node old new : String} {f g : Flow} {t : Setting} {update : NodeUpdate} {n m k : Node}
    {i : Nat} (hs : Reaches (fun _ _ _ => True) FlowStore.empty s)
    (hf : FlowStore.load s id = .ok (some f)) (hn : f.findNode? node = some n)
    (hg : f.updateNode t node update = .ok (g, m)) (hold : n.slug = some old)
    (hnew : m.slug = some new) (hne : old ≠ new) (hk : f.nodes[i]? = some k) (hid : k.id ≠ node)
    (htype : k.type = Builtin.apiCallName) :
    ∃ k', g.nodes[i]? = some k' ∧ k'.id = k.id ∧ k.SaysAlike old new k' := by
  have hslugs := hasSlugs_of_reaches hs hf
  have hident : Naming.IsIdentifier old := hslugs n (Flow.mem_of_findNode? hn) old hold
  obtain ⟨hk', hident'⟩ :=
    Flow.getElem?_of_updateNode hg hn hold hnew hne hident.1 hk hid
  refine ⟨_, hk', Flow.redirected_id k old new, fun place text htext => ?_⟩
  refine ⟨Reference.redirect old new text, ?_, fun hpath values hvalues said hsaid hresolved =>
    hpath.resolve_redirect hident hident' hvalues hsaid hresolved⟩
  rw [Node.text?_redirected htype, htext, Option.map_some]

/-! ### A run -/

/-- A run that creates a flow and adds two API calls, the second of which refers to the first. -/
def sampleReference : List (Surroundings × Command) := [
  (numberedSurroundings "flow", ⟨"create_flow", [("name", .str "Pair")]⟩),
  (numberedSurroundings "api", ⟨"add_node", [("flow_id", .str "flow1"),
    ("node_type", .str Builtin.apiCallName), ("name", .str "Request")]⟩),
  (numberedSurroundings "detail", ⟨"add_node", [("flow_id", .str "flow1"),
    ("node_type", .str Builtin.apiCallName), ("name", .str "Detail"),
    ("parameters", .obj [("url", .str "http://api.test/\x7b\x7b request.id \x7d\x7d")])]⟩)]

/-- What the first API call gave. -/
def sampleOutputs : Entries Json := [("request", .obj [("id", .int 7)])]

/-- The run of three commands, and a renaming of the first API call: the address of the second one
follows, and says the same, with what the first one gave under its old slug and under the new
one. -/
theorem saysAlike_of_reaches_sampleReference :
    ∃ f ∈ (Command.stepAll FlowStore.empty sampleReference : Memory).find? "flow1",
      ∃ p ∈ (f.updateNode ⟨Builtin.registry, fun _ => "", .ok []⟩ "api1"
        { name := some "Search" }).toOption,
      ∃ k ∈ f.nodes[1]?, ∃ k' ∈ p.1.nodes[1]?,
        k.text? .url = some "http://api.test/\x7b\x7b request.id \x7d\x7d" ∧
        k'.text? .url = some "http://api.test/\x7b\x7b search.id \x7d\x7d" ∧
        k.SaysAlike "request" "search" k' ∧
        Template.resolve "http://api.test/\x7b\x7b request.id \x7d\x7d" (some sampleOutputs)
          = .ok ⟨"http://api.test/7", []⟩ ∧
        Template.resolve "http://api.test/\x7b\x7b search.id \x7d\x7d"
          (some (Template.renameKey "request" "search" sampleOutputs))
            = .ok ⟨"http://api.test/7", []⟩ := by
  have hrun : ∃ f ∈ (Command.stepAll FlowStore.empty sampleReference : Memory).find? "flow1",
      ∃ p ∈ (f.updateNode ⟨Builtin.registry, fun _ => "", .ok []⟩ "api1"
        { name := some "Search" }).toOption,
      (f.findNode? "api1").map Node.slug = some (some "request") ∧ p.2.slug = some "search" ∧
        f.nodes[1]?.map (fun k => (k.id, k.type, k.text? .url)) = some ("detail1",
          Builtin.apiCallName, some "http://api.test/\x7b\x7b request.id \x7d\x7d") ∧
        p.1.nodes[1]?.map (Node.text? · .url)
          = some (some "http://api.test/\x7b\x7b search.id \x7d\x7d") := by
    decide +kernel
  have hreaches : Reaches (fun _ _ _ => True) FlowStore.empty
      (Command.stepAll FlowStore.empty sampleReference : Memory) :=
    .step (.step (.step .start _ _ trivial) _ _ trivial) _ _ trivial
  simp only [Option.map_eq_some_iff, Prod.mk.injEq] at hrun
  obtain ⟨f, hf, p, hp, ⟨n, hn, hold⟩, hnew, ⟨k, hk, hid, htype, htext⟩, k', hk', htext'⟩ := hrun
  have hg : f.updateNode ⟨Builtin.registry, fun _ => "", .ok []⟩ "api1"
      { name := some "Search" } = .ok p := by
    cases hupdate : f.updateNode ⟨Builtin.registry, fun _ => "", .ok []⟩ "api1"
        { name := some "Search" } with
    | error e => rw [hupdate] at hp; cases hp
    | ok q => rw [hupdate] at hp; cases hp; rfl
  obtain ⟨k'', hk'', -, hsays⟩ := saysAlike_of_reaches hreaches (congrArg Except.ok hf) hn hg hold
    hnew (by decide) hk (by simp [hid]) htype
  obtain rfl : k'' = k' := Option.some.inj (hk''.symm.trans hk')
  have hpath : Template.RefersByPath "request"
      "http://api.test/\x7b\x7b request.id \x7d\x7d".toList := by decide +kernel
  have hsaid : Template.resolve "http://api.test/\x7b\x7b request.id \x7d\x7d"
      (some sampleOutputs) = .ok ⟨"http://api.test/7", []⟩ := by decide +kernel
  obtain ⟨text', htext'', hsame⟩ := hsays .url _ htext
  obtain rfl := Option.some.inj (htext''.symm.trans htext')
  exact ⟨f, hf, p, hp, k, hk, k'', hk', htext, htext', hsays, hsaid,
    hsame hpath sampleOutputs (by decide) _ hsaid rfl⟩

end Workflow
