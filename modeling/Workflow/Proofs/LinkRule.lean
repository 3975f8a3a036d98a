import Workflow.Proofs.Schema.Breakage
import Workflow.Proofs.Wiring

/-!
# The rule for links, seen from both sides

That a link follows an interface node is checked twice: where two nodes are connected, which is
refused otherwise, and where a flow is validated, which reports it. The two checks are written
down apart from each other, and look their nodes up in different ways – the editor takes the first
node with an id, the validation of a flow the last one.

They come to the same. For two nodes of a flow in which no id stands twice, a report names the rule
exactly when the editor refuses by it. And as flows keep to the wiring rules (`Flow.IsWired`), a
report on a flow that a run has come to never names it, although flows lose nodes and connections
on the way and transforms are put between nodes that have passed no check of the editor.
-/

namespace Workflow

open Outcome

/-- Whether one of the issues names the rule for links. -/
def NamesLinkRule (issues : List Issue) : Prop :=
  ∃ issue ∈ issues, issue.type = .linkConstraint

/-! ## Comparisons -/

namespace Schema

variable {p c : Schema} {path : String} {strict : Bool} {issue : Issue}

theorem type_of_imprecise? {target : Kind} (h : imprecise? p path target = some issue) :
    issue.type = .impreciseType := by
  unfold imprecise? at h
  split at h
  · cases h
    rfl
  · split at h
    · cases h
    · cases h
      rfl
  · cases h

/-- An imprecise producer is told of instead of all else, and says nothing of links either. -/
theorem type_ne_of_mem_elim {target : Kind} {issues : List Issue}
    (h : issue ∈ (imprecise? p path target).elim issues fun issue => [issue])
    (hissues : issue ∈ issues → issue.type ≠ .linkConstraint) : issue.type ≠ .linkConstraint := by
  cases himprecise : imprecise? p path target with
  | none =>
    rw [himprecise] at h
    exact hissues h
  | some found =>
    rw [himprecise] at h
    rw [List.mem_singleton.1 h, type_of_imprecise? himprecise]
    exact nofun

theorem type_ne_of_mem_mismatch {source target : Kind}
    (h : issue ∈ [Issue.mismatch strict path source target]) : issue.type ≠ .linkConstraint := by
  rw [List.mem_singleton.1 h]
  exact nofun

theorem type_ne_of_mem_compareSimple (h : issue ∈ compareSimple p c path strict) :
    issue.type ≠ .linkConstraint := by
  unfold compareSimple at h
  split at h
  · unfold compareFormats at h
    split at h
    · split at h
      · rw [List.mem_singleton.1 h]
        exact nofun
      · cases h
    · cases h
  · split at h
    · cases h
    · exact type_ne_of_mem_mismatch h

theorem type_ne_of_mem_compare_value (hobject : c.kind ≠ .object) (hlist : c.kind ≠ .array)
    (hunknown : c.kind ≠ .unknown) (h : issue ∈ compare p c path strict) :
    issue.type ≠ .linkConstraint := by
  rw [compare_value hobject hlist hunknown] at h
  exact type_ne_of_mem_elim h type_ne_of_mem_compareSimple

/-- **A comparison of two sides says nothing of links.** The induction is on the consumer. -/
theorem type_ne_of_mem_compare (h : issue ∈ compare p c path strict) :
    issue.type ≠ .linkConstraint := by
  induction c using induct generalizing p path strict with
  | object d fields required isOpen ih =>
    by_cases hp : p.kind = .object
    · cases p with
      | object d' ps required' isOpen' =>
        obtain h | h := List.mem_append.1 (show issue ∈ missingFields required ps path strict ++
          compareFields ps required path strict fields from h)
        · obtain ⟨name, -, rfl⟩ := List.mem_map.1 h
          exact nofun
        · obtain ⟨k, s, t, -, ht, h⟩ := mem_compareFields.1 h
          exact ih k t ht h
      | _ => cases hp
    · rw [compare_object_of_ne hp] at h
      exact type_ne_of_mem_elim h type_ne_of_mem_mismatch
  | array d items ih =>
    by_cases hp : p.kind = .array
    · cases p with
      | array d' items' => exact ih h
      | _ => cases hp
    · rw [compare_array_of_ne hp] at h
      exact type_ne_of_mem_elim h type_ne_of_mem_mismatch
  | unknown d => cases h
  | string | number | boolean | null =>
    refine type_ne_of_mem_compare_value ?_ ?_ ?_ h <;> simp [kind]

theorem not_namesLinkRule_check {p c : Option Schema} : ¬ NamesLinkRule (check p c).issues := by
  rintro ⟨issue, hissue, htype⟩
  unfold check at hissue
  split at hissue
  · exact type_ne_of_mem_compare hissue htype
  · cases hissue

end Schema

namespace Flow

variable {f g : Flow} {r : Registry} {m n : Node}

/-- **The rule for links is broken** by two nodes, of which each may be absent. -/
def BreaksLinkRule (r : Registry) (source target : Option Node) : Prop :=
  (∃ n ∈ target, n.type = Builtin.linkName) ∧
    (source.bind fun m => r.categoryOf m.type) ≠ some .interface

theorem breaksLinkRule_some :
    BreaksLinkRule r (some m) (some n) ↔
      n.type = Builtin.linkName ∧ r.categoryOf m.type ≠ some .interface := by
  simp [BreaksLinkRule]

/-! ## Two nodes -/

/-- **The check of two nodes names the rule** exactly when they break it. -/
theorem namesLinkRule_checkPair {source target : Option Node} {p c : Option Schema} :
    NamesLinkRule (checkPair r source target p c).issues ↔ BreaksLinkRule r source target := by
  have hcondition : ((target.any fun n => n.type == Builtin.linkName) &&
      (source.bind fun n => r.categoryOf n.type) != some .interface) = true ↔
        BreaksLinkRule r source target := by
    cases target <;> simp [BreaksLinkRule]
  unfold checkPair
  dsimp only
  split
  · next h => exact iff_of_true ⟨_, List.mem_singleton_self _, rfl⟩ (hcondition.1 h)
  · next h =>
    exact iff_of_false Schema.not_namesLinkRule_check fun hbreaks => h (hcondition.2 hbreaks)

/-- The editor refuses by the rule when the two nodes break it, and the target is no trigger. -/
theorem checkEnds_eq_linkConstraint (htrigger : r.categoryOf n.type ≠ some .trigger) :
    checkEnds r m n = .error .linkConstraint ↔ BreaksLinkRule r (some m) (some n) := by
  rw [breaksLinkRule_some, checkEnds, if_neg htrigger]
  split
  · next h => exact iff_of_true rfl h
  · next h => exact iff_of_false (fun hok => by cases hok) h

/-- **To connect two nodes is refused by the rule** exactly when they break it: all that is checked
after the two ends is refused for other reasons. -/
theorem connect_eq_linkConstraint {s : Setting} {source target : String}
    {sourceHandle targetHandle : Option String} (hm : f.findNode? source = some m)
    (hn : f.findNode? target = some n) (htrigger : s.registry.categoryOf n.type ≠ some .trigger) :
    f.connect s source sourceHandle target targetHandle = .error .linkConstraint ↔
      BreaksLinkRule s.registry (some m) (some n) := by
  rw [← checkEnds_eq_linkConstraint htrigger, connect, endNode_eq_ok.2 hm, endNode_eq_ok.2 hn]
  simp only [bind, Except.bind]
  cases hends : checkEnds s.registry m n with
  | error failure => simp
  | ok u =>
    refine iff_of_false ?_ nofun
    simp only [throw, throwThe, MonadExceptOf.throw, pure, Except.pure]
    split
    · simp
    · split
      · simp
      · split <;> simp

theorem validateConnection_eq_ok {source target : String} {report : PairReport}
    (hm : f.findNode? source = some m) (hn : f.findNode? target = some n)
    (h : f.validateConnection r source target = .ok report) :
    ∃ p c, report.verdict = checkPair r (some m) (some n) p c := by
  obtain ⟨m', hm', h⟩ := bind_eq_ok.1 h
  obtain rfl := Option.some.inj (hm.symm.trans (endNode_eq_ok.1 hm'))
  obtain ⟨n', hn', h⟩ := bind_eq_ok.1 h
  obtain rfl := Option.some.inj (hn.symm.trans (endNode_eq_ok.1 hn'))
  obtain ⟨produced, -, h⟩ := bind_eq_ok.1 h
  obtain ⟨consumed, -, h⟩ := bind_eq_ok.1 h
  obtain ⟨suggestions, -, h⟩ := bind_eq_ok.1 h
  cases pure_eq_ok.1 h
  exact ⟨produced.output, consumed.input, rfl⟩

/-! ## All connections of a flow -/

theorem exists_lastNode? {id : String} (h : id ∈ f.nodes.map Node.id) :
    ∃ n ∈ f.nodes, n.id = id ∧ f.lastNode? id = some n := by
  cases hlast : f.lastNode? id with
  | none =>
    obtain ⟨n, hn, rfl⟩ := List.mem_map.1 h
    exact absurd (List.find?_eq_none.1 hlast n (List.mem_reverse.2 hn)) (by simp)
  | some n =>
    refine ⟨n, List.mem_reverse.1 (List.mem_of_find?_eq_some hlast), ?_, rfl⟩
    simpa using List.find?_some hlast

/-- Whichever nodes are looked at, those at the ends of a connection do not break the rule. -/
theorem IsWired.not_breaksLinkRule {c : Connection} (h : f.IsWired r) (hc : c ∈ f.connections) :
    ¬ BreaksLinkRule r (f.lastNode? c.source) (f.lastNode? c.target) := by
  obtain ⟨m, hm, hsource, hmlast⟩ := exists_lastNode? (h.ends c hc).1
  obtain ⟨n, hn, htarget, hnlast⟩ := exists_lastNode? (h.ends c hc).2
  rw [hmlast, hnlast, breaksLinkRule_some]
  rintro ⟨hlink, hcategory⟩
  exact hcategory (h.links c hc n hn htarget hlink m hm hsource)

/-- **A report on a flow that keeps to the wiring rules** never names the rule for links. -/
theorem IsWired.not_namesLinkRule {report : FlowReport} (h : f.IsWired r)
    (hreport : f.validate r = .ok report) :
    ∀ c ∈ report.connections, ¬ NamesLinkRule c.issues := by
  obtain ⟨schemas, -, hreport⟩ := bind_eq_ok.1 hreport
  cases pure_eq_ok.1 hreport
  intro outcome houtcome
  obtain ⟨c, hc, rfl⟩ := List.mem_map.1 houtcome
  exact fun hnames => h.not_breaksLinkRule hc (namesLinkRule_checkPair.1 hnames)

end Flow

/-- **Editor and validation enforce the same rule for links.** Of two nodes of a flow in which no id
stands twice, the second of which is no trigger, the check of the two, where it comes to a report,
names the rule exactly when connecting them is refused by it. And no report on a flow that a run
with the built-in node types has come to names the rule for any connection. -/
theorem sameLinkRule :
    (∀ (f : Flow) (s : Setting) (m n : Node) (sourceHandle targetHandle : Option String)
      (report : Flow.PairReport), (f.nodes.map Node.id).Nodup → m ∈ f.nodes → n ∈ f.nodes →
      s.registry.categoryOf n.type ≠ some .trigger →
      f.validateConnection s.registry m.id n.id = .ok report →
      (NamesLinkRule report.verdict.issues ↔
        f.connect s m.id sourceHandle n.id targetHandle = .error .linkConstraint)) ∧
    ∀ {σ : Type} [FlowStore σ] [LawfulStore σ] (s : σ),
      Reaches Command.DrawsBuiltin FlowStore.empty s →
      ∀ id f report, FlowStore.load s id = .ok (some f) →
        f.validate Builtin.registry = .ok report →
        ∀ c ∈ report.connections, ¬ NamesLinkRule c.issues := by
  constructor
  · intro f s m n sourceHandle targetHandle report hids hm hn htrigger hreport
    have hfindm := Flow.findNode?_of_mem hids hm
    have hfindn := Flow.findNode?_of_mem hids hn
    obtain ⟨p, c, hverdict⟩ := Flow.validateConnection_eq_ok hfindm hfindn hreport
    rw [hverdict, Flow.namesLinkRule_checkPair,
      Flow.connect_eq_linkConstraint hfindm hfindn htrigger]
  · intro σ _ _ s hs id f report hf hreport
    exact (hs.isWired_of_load hf).not_namesLinkRule hreport

/-! ### Two nodes and a run -/

/-- A request. -/
def sampleRequest : Node where
  id := "api"
  type := Builtin.apiCallName
  name := "Request"

/-- A link. -/
def sampleLink : Node where
  id := "link"
  type := Builtin.linkName
  name := "Docs"

/-- A flow with a request and a link. -/
def sampleUnlinked : Flow where
  id := "flow"
  name := "Pair"
  nodes := [sampleRequest, sampleLink]
  createdAt := ""
  updatedAt := ""

/-- A run that connects a view with a link. -/
def sampleLinks : List (Surroundings × Command) := [
  (numberedSurroundings "flow", ⟨"create_flow", [("name", .str "Pair")]⟩),
  (numberedSurroundings "view", ⟨"add_node", [("flow_id", .str "flow1"),
    ("node_type", .str Builtin.componentName), ("name", .str "View")]⟩),
  (numberedSurroundings "link", ⟨"add_node", [("flow_id", .str "flow1"),
    ("node_type", .str Builtin.linkName), ("name", .str "Docs")]⟩),
  (numberedSurroundings "edge", ⟨"add_connection", [("flow_id", .str "flow1"),
    ("source_node_id", .str "view1"), ("target_node_id", .str "link1")]⟩)]

/-- A request cannot be linked, and the report on a link that follows a view is fine. -/
theorem sameLinkRule_samples :
    (∃ report, sampleUnlinked.validateConnection Builtin.registry "api" "link" = .ok report ∧
      NamesLinkRule report.verdict.issues ∧
      sampleUnlinked.connect ⟨Builtin.registry, toString, .ok []⟩ "api" none "link" none =
        .error .linkConstraint) ∧
    ∃ f ∈ (Command.stepAll FlowStore.empty sampleLinks : Memory).find? "flow1",
      ∃ report ∈ (f.validate Builtin.registry).toOption,
        report.connections.map ConnectionReport.connection = ["edge1"] ∧
        ∀ c ∈ report.connections, ¬ NamesLinkRule c.issues := by
  constructor
  · obtain ⟨report, hreport⟩ : ∃ report,
        sampleUnlinked.validateConnection Builtin.registry "api" "link" = .ok report := ⟨_, rfl⟩
    refine ⟨report, hreport, ?_, rfl⟩
    exact (sameLinkRule.1 sampleUnlinked ⟨Builtin.registry, toString, .ok []⟩ sampleRequest
      sampleLink none none report (by decide) (by simp [sampleUnlinked]) (by simp [sampleUnlinked])
      (by decide) hreport).2 rfl
  · have hrun : ∃ f ∈ (Command.stepAll FlowStore.empty sampleLinks : Memory).find? "flow1",
        ∃ report ∈ (f.validate Builtin.registry).toOption,
          report.connections.map ConnectionReport.connection = ["edge1"] := by
      decide +kernel
    obtain ⟨f, hf, report, hreport, hids⟩ := hrun
    refine ⟨f, hf, report, hreport, hids, ?_⟩
    refine sameLinkRule.2 (Command.stepAll FlowStore.empty sampleLinks : Memory) ?_ "flow1" f
      report (congrArg Except.ok hf) (mem_toOption.1 hreport)
    refine .step (.step (.step (.step .start _ _ ?_) _ _ ?_) _ _ ?_) _ _ ?_
    all_goals exact ⟨rfl, by decide +kernel⟩

end Workflow
