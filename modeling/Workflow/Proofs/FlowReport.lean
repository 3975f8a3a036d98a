import Mathlib.Data.List.Nodup
import Workflow.Proofs.LinkRule
import Workflow.Proofs.Validation

/-!
# What a report on a flow says

The nodes at the ends of a connection are looked up in two ways. The validation of a flow resolves
every node once and takes the last node and the last schemas with an id; the check of two nodes
takes the first node and resolves it there and then. Where no id stands twice the two find the same
(`Flow.lastNode?_eq_findNode?`, `Flow.lastSchemas?_eq_some`), so that a report says of a connection
what the check of its two nodes says (`Flow.exists_validateConnection_eq`).

The rest of a report adds up: the summary counts each outcome once, and what the report comes to is
the worst that is told of a connection or of a node (`Flow.addsUp`).
-/

namespace Workflow

open Outcome

/-! ## Looking up from the end -/

namespace Keyed

variable {α : Type} {key : α → String} {xs : List α}

/-- Where no key stands twice, it does not matter from which end a key is looked up. -/
theorem find?_reverse (h : (xs.map key).Nodup) (id : String) :
    xs.reverse.find? (fun x => key x == id) = xs.find? fun x => key x == id := by
  cases hfound : xs.find? fun x => key x == id with
  | none =>
    rw [List.find?_eq_none] at hfound ⊢
    exact fun x hx => hfound x (List.mem_reverse.1 hx)
  | some y =>
    obtain rfl : key y = id := by simpa using List.find?_some hfound
    have hreversed : (xs.reverse.map key).Nodup := by
      rwa [List.map_reverse, List.nodup_reverse]
    exact find?_eq_some_of_mem hreversed (List.mem_reverse.2 (List.mem_of_find?_eq_some hfound))

end Keyed

/-- What the results of a step have in common with the items that it was taken for, the lists have
in common. -/
theorem Outcome.map_eq_of_mapM_eq_ok {α β γ : Type} {f : α → Outcome β} {p : β → γ} {q : α → γ}
    (hstep : ∀ {x y}, f x = .ok y → p y = q x) {xs : List α} {ys : List β}
    (h : xs.mapM f = .ok ys) : ys.map p = xs.map q := by
  induction xs generalizing ys with
  | nil =>
    cases pure_eq_ok.1 h
    rfl
  | cons x xs ih =>
    rw [List.mapM_cons] at h
    obtain ⟨y, hy, h⟩ := bind_eq_ok.1 h
    obtain ⟨rest, hrest, h⟩ := bind_eq_ok.1 h
    cases pure_eq_ok.1 h
    rw [List.map_cons, List.map_cons, hstep hy, ih hrest]

/-- Schemas are those of the node that was resolved. -/
theorem Node.node_of_schemas {n : Node} {r : Registry} {s : NodeSchemas}
    (h : n.schemas r = .ok s) : s.node = n.id := by
  unfold schemas at h
  split at h
  · cases h
    rfl
  · split at h
    · obtain ⟨output, -, h⟩ := bind_eq_ok.1 h
      cases pure_eq_ok.1 h
      rfl
    · split at h
      · unfold apiCallSchemas at h
        split at h
        · cases h
          rfl
        · obtain ⟨output, -, h⟩ := bind_eq_ok.1 h
          cases pure_eq_ok.1 h
          rfl
      · split at h
        · cases h
          rfl
        · obtain ⟨input, -, h⟩ := bind_eq_ok.1 h
          obtain ⟨output, -, h⟩ := bind_eq_ok.1 h
          cases pure_eq_ok.1 h
          rfl

namespace Flow

variable {f : Flow} {r : Registry} {schemas : List NodeSchemas} {id : String} {m n : Node}
  {c : Connection}

theorem lastNode?_eq_findNode? (h : (f.nodes.map Node.id).Nodup) (id : String) :
    f.lastNode? id = f.findNode? id :=
  Keyed.find?_reverse h id

/-- **The schemas that validation looks up** are those of the node that is found. -/
theorem lastSchemas?_eq_some (h : (f.nodes.map Node.id).Nodup)
    (hschemas : f.nodes.mapM (fun n => n.schemas r) = .ok schemas)
    (hn : f.findNode? id = some n) :
    ∃ s, n.schemas r = .ok s ∧ lastSchemas? schemas id = some s := by
  obtain ⟨s, hs, hresolved⟩ := exists_of_mapM_eq_ok hschemas (mem_of_findNode? hn)
  have hids : (schemas.map NodeSchemas.node).Nodup := by
    rw [map_eq_of_mapM_eq_ok Node.node_of_schemas hschemas]
    exact h
  have hid : s.node = id := (Node.node_of_schemas hresolved).trans (id_of_findNode? hn)
  refine ⟨s, hresolved, ?_⟩
  rw [lastSchemas?, Keyed.find?_reverse hids, ← hid]
  exact Keyed.find?_eq_some_of_mem hids hs

/-! ## A connection and its two nodes -/

/-- The check of two nodes that are found and can be resolved. -/
theorem validateConnection_eq_map {source target : String} {produced consumed : NodeSchemas}
    (hm : f.findNode? source = some m) (hn : f.findNode? target = some n)
    (hproduced : m.schemas r = .ok produced) (hconsumed : n.schemas r = .ok consumed) :
    f.validateConnection r source target =
      (r.suggest (checkPair r (some m) (some n) produced.output consumed.input).status).map
        (PairReport.mk (checkPair r (some m) (some n) produced.output consumed.input)) := by
  rw [validateConnection, endNode_eq_ok.2 hm, endNode_eq_ok.2 hn, ok_bind, ok_bind, hproduced,
    hconsumed, ok_bind, ok_bind]
  dsimp only
  cases r.suggest (checkPair r (some m) (some n) produced.output consumed.input).status <;> rfl

/-- **The check of two nodes says what the report says of a connection between them.** What may
repair the connection is looked for after that, and by the status alone. -/
theorem exists_validateConnection_eq (h : (f.nodes.map Node.id).Nodup)
    (hschemas : f.nodes.mapM (fun n => n.schemas r) = .ok schemas)
    (hm : f.findNode? c.source = some m) (hn : f.findNode? c.target = some n) :
    ∃ verdict : Schema.Verdict, verdict.status = (f.reportOn r schemas c).status ∧
      verdict.issues = (f.reportOn r schemas c).issues ∧
      f.validateConnection r c.source c.target =
        (r.suggest verdict.status).map (PairReport.mk verdict) := by
  obtain ⟨produced, hproduced, hsource⟩ := lastSchemas?_eq_some h hschemas hm
  obtain ⟨consumed, hconsumed, htarget⟩ := lastSchemas?_eq_some h hschemas hn
  refine ⟨_, ?_, ?_, validateConnection_eq_map hm hn hproduced hconsumed⟩
  all_goals
    rw [reportOn, lastNode?_eq_findNode? h, lastNode?_eq_findNode? h, hm, hn, hsource, htarget]
    rfl

end Flow

/-! ## What the report comes to -/

namespace Summary

/-- The number of connections with a status, as a summary tells it. -/
def count (s : Summary) : Status → Nat
  | .compatible => s.compatible
  | .warning => s.warnings
  | .error => s.errors
  | .unknown => s.unknown

variable {connections : List ConnectionReport} {status : Status}

theorem count_ofOutcomes : (ofOutcomes connections).count status =
    connections.countP fun c => c.status == status := by
  cases status <;> rfl

/-- Every outcome has one status. -/
theorem sum_ofOutcomes (connections : List ConnectionReport) :
    (ofOutcomes connections).compatible + (ofOutcomes connections).warnings
      + (ofOutcomes connections).errors + (ofOutcomes connections).unknown
      = (ofOutcomes connections).total := by
  simp only [ofOutcomes]
  induction connections with
  | nil => rfl
  | cons c connections ih =>
    simp only [List.countP_cons, List.length_cons]
    cases c.status <;> simp <;> omega

theorem count_ne_zero_iff (status : Status) :
    (ofOutcomes connections).count status ≠ 0 ↔ ∃ c ∈ connections, c.status = status := by
  rw [count_ofOutcomes, ← Nat.pos_iff_ne_zero, List.countP_pos_iff]
  simp only [beq_iff_eq]

end Summary

namespace FlowReport

/-- **Something is wrong**: a connection has an error, or a node. -/
def TellsErrors (report : FlowReport) : Prop :=
  (∃ c ∈ report.connections, c.status = .error) ∨ report.problems ≠ []

/-- **A report adds up**: its summary counts every outcome once, and the report comes to the worst
that it tells. -/
structure AddsUp (report : FlowReport) : Prop where
  /-- The counts sum up to the total. -/
  sum : report.summary.compatible + report.summary.warnings + report.summary.errors
    + report.summary.unknown = report.summary.total
  /-- The total is the number of connections. -/
  total : report.summary.total = report.connections.length
  /-- Each count is the number of connections with the status. -/
  count (status : Status) : report.summary.count status =
    report.connections.countP fun c => c.status == status
  /-- It comes to errors when something is wrong. -/
  errors : report.status = .errors ↔ report.TellsErrors
  /-- It comes to warnings when nothing is wrong, and a connection has a warning. -/
  warnings : report.status = .warnings ↔
    ¬ report.TellsErrors ∧ ∃ c ∈ report.connections, c.status = .warning
  /-- It is fine when there is neither. -/
  valid : report.status = .valid ↔
    ¬ report.TellsErrors ∧ ¬ ∃ c ∈ report.connections, c.status = .warning

/-- A report whose summary and status are those of what it tells adds up. -/
theorem addsUp_of_eq {report : FlowReport}
    (hsummary : report.summary = .ofOutcomes report.connections)
    (hstatus : report.status = .ofSummary report.summary report.problems) : report.AddsUp := by
  have herrors : report.summary.errors ≠ 0 ∨ report.problems ≠ [] ↔ report.TellsErrors := by
    rw [hsummary]
    exact or_congr_left (Summary.count_ne_zero_iff .error)
  have hwarnings :
      report.summary.warnings ≠ 0 ↔ ∃ c ∈ report.connections, c.status = .warning := by
    rw [hsummary]
    exact Summary.count_ne_zero_iff .warning
  refine ⟨?_, ?_, fun status => ?_, ?_, ?_, ?_⟩
  · rw [hsummary]
    exact Summary.sum_ofOutcomes _
  · rw [hsummary]
    rfl
  · rw [hsummary]
    exact Summary.count_ofOutcomes
  all_goals
    simp only [hstatus, FlowStatus.ofSummary, herrors, hwarnings]
    split
    · next h => simp [herrors.1 h]
    · next h =>
      rw [herrors] at h
      split
      · next hw => simp [h, hw]
      · next hw => simp [h, hw]

end FlowReport

/-! ## The whole report -/

/-- **All that can be suggested can be shown**: transforms have texts for their titles and
descriptions. -/
def Registry.ShowsTransforms (r : Registry) : Prop :=
  ∀ t ∈ r.ofCategory .transform, (∃ s, t.title = .str s) ∧ ∃ s, t.description = .str s

theorem Registry.ShowsTransforms.exists_suggest {r : Registry} (h : r.ShowsTransforms)
    (status : Status) : ∃ suggestions, r.suggest status = .ok suggestions := by
  have htypes : ∃ all, (r.ofCategory .transform).mapM Suggestion.ofType = .ok all := by
    refine exists_mapM_eq_ok.2 fun t ht => ?_
    obtain ⟨⟨title, htitle⟩, description, hdescription⟩ := h t ht
    exact ⟨⟨t.name, title, description, .ofType t⟩, by
      rw [Suggestion.ofType, htitle, hdescription]
      rfl⟩
  cases status with
  | compatible | unknown => exact ⟨[], rfl⟩
  | warning | error => exact exists_bind_pure_eq_ok.2 htypes

/-- The built-in node types can be shown. -/
theorem Builtin.showsTransforms : registry.ShowsTransforms := by
  have hall : ∀ t ∈ registry.types, (∃ s, t.title = .str s) ∧ ∃ s, t.description = .str s := by
    simp only [registry, List.forall_mem_cons]
    refine ⟨?_, ?_, ?_, ?_, ?_, ?_, ?_, List.forall_mem_nil _⟩
    all_goals exact ⟨⟨_, rfl⟩, _, rfl⟩
  exact fun t ht => hall t (List.mem_filter.1 ht).1

namespace Flow

/-- **What is told of a transform** that has no input. -/
def problemOf (n : Node) : NodeProblem :=
  ⟨n.id, n.type, n.name⟩

/-- **A report that is about a flow.** -/
structure IsToldBy (f : Flow) (r : Registry) (report : FlowReport) : Prop where
  /-- It names the flow. -/
  id : report.flow = f.id
  /-- It counts all connections of the flow. -/
  total : report.summary.total = f.connections.length
  /-- It has one outcome for each connection, in their order. -/
  ends : report.connections.map (fun o => (o.connection, o.source, o.target)) =
    f.connections.map fun c => (c.id, c.source, c.target)
  /-- Where both ends are nodes, the check of the two comes to the same status and the same issues,
  if what it suggests can be shown, and is refused otherwise. -/
  pairs : ∀ o ∈ report.connections, o.source ∈ f.nodes.map Node.id →
    o.target ∈ f.nodes.map Node.id → ∃ verdict : Schema.Verdict,
      verdict.status = o.status ∧ verdict.issues = o.issues ∧
      f.validateConnection r o.source o.target =
        (r.suggest o.status).map (PairReport.mk verdict)
  /-- It tells of the transforms that no connection leads to, in the order of the nodes. -/
  problems : ∃ ns : List Node, ns.Sublist f.nodes ∧ report.problems = ns.map problemOf ∧
    ∀ n ∈ f.nodes, n ∈ ns ↔
      r.categoryOf n.type = some .transform ∧ ∀ c ∈ f.connections, c.target ≠ n.id

theorem exists_findNode?_of_mem {f : Flow} {id : String} (h : (f.nodes.map Node.id).Nodup)
    (hid : id ∈ f.nodes.map Node.id) : ∃ n, f.findNode? id = some n := by
  obtain ⟨n, hn, rfl⟩ := List.mem_map.1 hid
  exact ⟨n, findNode?_of_mem h hn⟩

theorem isUnfed_iff {f : Flow} {r : Registry} {n : Node} : f.isUnfed r n = true ↔
    r.categoryOf n.type = some .transform ∧ ∀ c ∈ f.connections, c.target ≠ n.id := by
  simp [isUnfed]

/-- For a validation it does not matter how often a flow was saved, and when. -/
theorem validate_saved {f : Flow} {r : Registry} {now : String} :
    (f.saved now).validate r = f.validate r := rfl

/-- The report of a validation is about the flow. -/
theorem isToldBy {f : Flow} {r : Registry} {report : FlowReport} (h : (f.nodes.map Node.id).Nodup)
    (hreport : f.validate r = .ok report) : f.IsToldBy r report := by
  rw [validate] at hreport
  obtain ⟨schemas, hschemas, hreport⟩ := bind_eq_ok.1 hreport
  cases pure_eq_ok.1 hreport
  refine ⟨rfl, List.length_map _, ?_, ?_, f.nodes.filter (f.isUnfed r), List.filter_sublist, rfl,
    ?_⟩
  · rw [List.map_map]
    rfl
  · intro o ho hsource htarget
    obtain ⟨c, -, rfl⟩ := List.mem_map.1 ho
    obtain ⟨m, hm⟩ := exists_findNode?_of_mem h hsource
    obtain ⟨n, hn⟩ := exists_findNode?_of_mem h htarget
    obtain ⟨verdict, hstatus, hissues, hpair⟩ := exists_validateConnection_eq h hschemas hm hn
    exact ⟨verdict, hstatus, hissues, by rw [← hstatus]; exact hpair⟩
  · intro n hn
    rw [List.mem_filter, isUnfed_iff]
    exact and_iff_right hn

/-- The report of a validation adds up. -/
theorem addsUp {f : Flow} {r : Registry} {report : FlowReport} (h : f.validate r = .ok report) :
    report.AddsUp := by
  obtain ⟨schemas, -, h⟩ := bind_eq_ok.1 h
  cases pure_eq_ok.1 h
  exact FlowReport.addsUp_of_eq rfl rfl

end Flow

/-- **A report on a flow agrees with the check of single connections and adds up**, whatever the
node types are, for every flow in which no id stands twice. -/
theorem isToldBy_of_validate {f : Flow} {r : Registry} {report : FlowReport}
    (hids : (f.nodes.map Node.id).Nodup) (h : f.validate r = .ok report) :
    f.IsToldBy r report ∧ report.AddsUp ∧
      (r.ShowsTransforms → ∀ o ∈ report.connections, o.source ∈ f.nodes.map Node.id →
        o.target ∈ f.nodes.map Node.id →
          ∃ pair, f.validateConnection r o.source o.target = .ok pair ∧
            pair.verdict.status = o.status ∧ pair.verdict.issues = o.issues) := by
  have htold := Flow.isToldBy hids h
  refine ⟨htold, Flow.addsUp h, fun hshows o ho hsource htarget => ?_⟩
  obtain ⟨verdict, hstatus, hissues, hpair⟩ := htold.pairs o ho hsource htarget
  obtain ⟨suggestions, hsuggest⟩ := hshows.exists_suggest o.status
  exact ⟨⟨verdict, suggestions⟩, by rw [hpair, hsuggest]; rfl, hstatus, hissues⟩

/-! ### A flow with something wrong -/

/-- A transform that nothing leads to. -/
def sampleTransform : Node where
  id := "code"
  type := Builtin.codeTransformName
  name := "Code"

/-- A link that follows a request, a connection that leads nowhere, and a transform that is not
fed. -/
def sampleFaulty : Flow :=
  { sampleUnlinked with
    nodes := [sampleRequest, sampleTransform, sampleLink]
    connections := [
      { id := "docs", source := "api", target := "link" },
      { id := "lost", source := "code", target := "gone" }] }

/-- The link is told to be wrong by the report and by the check of its ends, and the transform by
the report. -/
theorem isToldBy_of_validate_faulty :
    ∃ report, sampleFaulty.validate Builtin.registry = .ok report ∧
      report.connections.map (fun o => (o.connection, o.status)) =
        [("docs", .error), ("lost", .unknown)] ∧
      report.problems = [⟨"code", Builtin.codeTransformName, "Code"⟩] ∧
      report.status = .errors ∧ report.summary = ⟨2, 0, 0, 1, 1⟩ ∧
      sampleFaulty.IsToldBy Builtin.registry report ∧ report.AddsUp ∧
      ∃ pair, sampleFaulty.validateConnection Builtin.registry "api" "link" = .ok pair ∧
        pair.verdict.status = .error := by
  obtain ⟨report, hreport⟩ : ∃ report, sampleFaulty.validate Builtin.registry = .ok report :=
    ⟨_, rfl⟩
  obtain ⟨htold, haddsUp, hpairs⟩ := isToldBy_of_validate (by decide) hreport
  cases hreport
  refine ⟨_, rfl, by decide +kernel, by decide +kernel, by decide +kernel, by decide +kernel, htold,
    haddsUp, ?_⟩
  obtain ⟨pair, hpair, hstatus, -⟩ :=
    hpairs Builtin.showsTransforms _ List.mem_cons_self (by decide) (by decide)
  exact ⟨pair, hpair, hstatus⟩

end Workflow
