import Mathlib.Logic.Relation
import Workflow.Flow.Cycle

/-!
# Paths, cycles and the search for them

The search of `Cycle.closes` walks depth first and never looks again at the edges of a node that
it has followed. What it is meant to find is a path, and `closes_decides_path` says that it finds
exactly that – over any list of edges, whether the graph has cycles or not.

What carries the proof is `Search.Open`, that some node on the stack leads to the goal along the
edges ahead: a turn keeps it, and a turn that ends the search answers it. To mark a node loses no
path, since one that comes back to the node can be cut there (`path_ahead_cons`).

A graph is **acyclic** when no node lies on a path of one edge or more back to itself. Three
changes keep it so: leaving out edges, adding one whose target does not reach its source, and
the splice, which puts a node that no edge mentions between two others.
-/

namespace Workflow

namespace Cycle

variable {edges more : Edges} {a b c s t x : String}

/-- There is an edge from one node to another one. -/
def Edge (edges : Edges) (a b : String) : Prop :=
  (a, b) ∈ edges

/-- **A path** of any number of edges, none included. -/
def Path (edges : Edges) : String → String → Prop :=
  Relation.ReflTransGen (Edge edges)

/-- **No directed cycle**, a loop at one node included: no path of one edge or more leads back
to where it began. -/
def Acyclic (edges : Edges) : Prop :=
  ∀ a, ¬ Relation.TransGen (Edge edges) a a

/-! ## Paths -/

theorem Edge.mono (h : edges ⊆ more) : Edge edges ≤ Edge more :=
  fun _ _ he => h he

theorem Path.mono (h : edges ⊆ more) (p : Path edges a b) : Path more a b :=
  Relation.ReflTransGen.mono (Edge.mono h) _ _ p

/-- A path that leaves a node begins with an edge of it. -/
theorem Path.exists_edge (p : Path edges a b) (hne : a ≠ b) : ∃ c, (a, c) ∈ edges := by
  obtain h | ⟨c, hc, -⟩ := Relation.ReflTransGen.cases_head p
  · exact absurd h hne
  · exact ⟨c, hc⟩

/-- A path that arrives at a node ends with an edge to it. -/
theorem Path.exists_edge_to (p : Path edges a b) (hne : a ≠ b) : ∃ c, (c, b) ∈ edges := by
  obtain h | ⟨c, -, hc⟩ := Relation.ReflTransGen.cases_tail p
  · exact absurd h.symm hne
  · exact ⟨c, hc⟩

/-- **One more edge** makes no paths but those that lead to its source and go on from its
target. -/
theorem Path.of_append (p : Path (edges ++ [(s, t)]) a b) :
    Path edges a b ∨ Path edges a s ∧ Path edges t b := by
  induction p with
  | refl => exact .inl .refl
  | @tail b c _ hbc ih =>
    obtain hold | hnew := List.mem_append.1 hbc
    · obtain ih | ⟨hs, ht⟩ := ih
      · exact .inl (.tail ih hold)
      · exact .inr ⟨hs, .tail ht hold⟩
    · obtain ⟨rfl, rfl⟩ := Prod.mk.inj (List.mem_singleton.1 hnew)
      obtain ih | ⟨hs, -⟩ := ih
      · exact .inr ⟨ih, .refl⟩
      · exact .inr ⟨hs, .refl⟩

/-! ## Paths through a node that is put in -/

section Splice

variable {kept : Edges}

/-- **A path along the edges to and from a node that is put in** goes by the edge that it was put
in, if it does not begin at the node. While it is at the node, it has got no further than to what
leads there. -/
theorem Path.of_splice (hsub : kept ⊆ edges) (hfrom : ∀ c, (x, c) ∉ edges)
    (hto : ∀ c, (c, x) ∉ edges) (hs : x ≠ s) (ht : x ≠ t) (ha : x ≠ a)
    (p : Path (kept ++ [(s, x), (x, t)]) a b) :
    Path (edges ++ [(s, t)]) a (if b = x then s else b) := by
  induction p with
  | refl =>
    rw [if_neg ha.symm]
    exact .refl
  | @tail b c _ hbc ih =>
    obtain hold | hnew := List.mem_append.1 hbc
    · have hb : b ≠ x := fun h => hfrom c (h ▸ hsub hold)
      have hc : c ≠ x := fun h => hto b (h ▸ hsub hold)
      rw [if_neg hb] at ih
      rw [if_neg hc]
      exact ih.tail (List.mem_append_left _ (hsub hold))
    · simp only [List.mem_cons, Prod.mk.injEq, List.not_mem_nil, or_false] at hnew
      obtain ⟨rfl, rfl⟩ | ⟨rfl, rfl⟩ := hnew
      · rw [if_neg hs.symm] at ih
        rw [if_pos rfl]
        exact ih
      · rw [if_pos rfl] at ih
        rw [if_neg ht.symm]
        exact ih.tail (List.mem_append_right _ (List.mem_singleton_self _))

/-- **No path is lost** when an edge gives way to two that lead through a node. -/
theorem Path.splice (hkept : ∀ e ∈ edges, e ∈ kept ∨ e = (s, t))
    (p : Path (edges ++ [(s, t)]) a b) : Path (kept ++ [(s, x), (x, t)]) a b := by
  have hto : Edge (kept ++ [(s, x), (x, t)]) s x :=
    List.mem_append_right _ List.mem_cons_self
  have hfrom : Edge (kept ++ [(s, x), (x, t)]) x t :=
    List.mem_append_right _ (List.mem_cons_of_mem _ List.mem_cons_self)
  induction p with
  | refl => exact .refl
  | @tail b c _ hbc ih =>
    have hbc : (b, c) ∈ kept ∨ (b, c) = (s, t) := by
      obtain hold | hnew := List.mem_append.1 hbc
      · exact hkept _ hold
      · exact .inr (List.mem_singleton.1 hnew)
    obtain hkept | hnew := hbc
    · exact ih.tail (List.mem_append_left _ hkept)
    · obtain ⟨rfl, rfl⟩ := Prod.mk.inj hnew
      exact (ih.tail hto).tail hfrom

end Splice

/-! ## The search -/

variable {goal node : String} {visited stack : List String}

@[simp] theorem mem_successors : b ∈ successors edges a ↔ (a, b) ∈ edges := by
  simp [successors]

@[simp] theorem mem_ahead : (a, b) ∈ ahead edges visited ↔ (a, b) ∈ edges ∧ a ∉ visited := by
  simp [ahead]

@[simp] theorem ahead_nil : ahead edges [] = edges := by
  simp [ahead]

/-- No edge ahead leaves a visited node, so no path does. -/
theorem not_path_of_visited (hv : a ∈ visited) (hne : a ≠ goal) :
    ¬ Path (ahead edges visited) a goal := by
  intro p
  obtain ⟨c, hc⟩ := p.exists_edge hne
  exact (mem_ahead.1 hc).2 hv

/-- A path either never leaves the node that is visited next, or what follows its last visit
there does not. -/
theorem path_ahead_cons (node : String) (p : Path (ahead edges visited) a b) :
    Path (ahead edges (node :: visited)) a b ∨
      ∃ m ∈ successors edges node, Path (ahead edges (node :: visited)) m b := by
  induction p using Relation.ReflTransGen.head_induction_on with
  | refl => exact .inl .refl
  | @head a m ham _ ih =>
    obtain ⟨ham, hv⟩ := mem_ahead.1 ham
    obtain ih | ih := ih
    · by_cases ha : a = node
      · subst ha
        exact .inr ⟨m, mem_successors.2 ham, ih⟩
      · refine .inl (.head (mem_ahead.2 ⟨ham, ?_⟩) ih)
        simpa [ha] using hv
    · exact .inr ih

namespace Search

variable {w w' : Search}

/-- **What a search is to find**: a node on the stack from which the goal can be reached along the
edges ahead. -/
def Open (edges : Edges) (goal : String) (w : Search) : Prop :=
  ∃ n ∈ w.stack, Path (ahead edges w.visited) n goal

/-- A visited node gains nothing when it is met again. -/
theorem open_drop (hv : node ∈ visited) (hne : node ≠ goal) :
    Open edges goal ⟨visited, node :: stack⟩ ↔ Open edges goal ⟨visited, stack⟩ := by
  constructor
  · rintro ⟨n, hn, p⟩
    obtain rfl | hn := List.mem_cons.1 hn
    · exact absurd p (not_path_of_visited hv hne)
    · exact ⟨n, hn, p⟩
  · rintro ⟨n, hn, p⟩
    exact ⟨n, List.mem_cons_of_mem _ hn, p⟩

/-- **Following a node** loses no path and makes none. What it leads to and has been visited is
left out: of that, no path goes on. -/
theorem open_follow (hv : node ∉ visited) (hne : node ≠ goal) (hgoal : goal ∉ visited) :
    Open edges goal ⟨visited, node :: stack⟩ ↔
      Open edges goal ⟨node :: visited,
        ((successors edges node).filter fun n => !(node :: visited).contains n).reverse ++
          stack⟩ := by
  constructor
  · rintro ⟨n, hn, p⟩
    obtain p | ⟨m, hm, p⟩ := path_ahead_cons node p
    · obtain rfl | hn := List.mem_cons.1 hn
      · exact absurd p (not_path_of_visited List.mem_cons_self hne)
      · exact ⟨n, List.mem_append_right _ hn, p⟩
    · have hmv : m ∉ node :: visited := by
        intro hmv
        by_cases hm : m = goal
        · exact (List.mem_cons.1 (hm ▸ hmv)).elim (hne ·.symm) hgoal
        · exact not_path_of_visited hmv hm p
      exact ⟨m, List.mem_append_left _ (by simpa [hm] using hmv), p⟩
  · rintro ⟨n, hn, p⟩
    have hsub : ahead edges (node :: visited) ⊆ ahead edges visited := by
      rintro ⟨a, b⟩ hab
      obtain ⟨hab, ha⟩ := mem_ahead.1 hab
      exact mem_ahead.2 ⟨hab, fun h => ha (List.mem_cons_of_mem _ h)⟩
    obtain hn | hn := List.mem_append.1 hn
    · have hn : (node, n) ∈ edges := by
        simpa using (List.mem_filter.1 (List.mem_reverse.1 hn)).1
      exact ⟨node, List.mem_cons_self, .head (mem_ahead.2 ⟨hn, hv⟩) (p.mono hsub)⟩
    · exact ⟨n, List.mem_cons_of_mem _ hn, p.mono hsub⟩

/-- **A turn that ends the search** answers whether there is something to find. -/
theorem turn_inl {found : Bool} (h : w.turn edges goal = .inl found) :
    found = true ↔ Open edges goal w := by
  obtain ⟨visited, stack⟩ := w
  cases stack with
  | nil =>
    cases h
    simp [Open]
  | cons node rest =>
    simp only [turn] at h
    split at h
    · next hgoal =>
      cases h
      simp only [true_iff]
      exact ⟨node, List.mem_cons_self, hgoal ▸ .refl⟩
    · split at h <;> cases h

/-- **A turn that goes on** keeps what there is to find, and the goal stays unvisited. -/
theorem turn_inr (h : w.turn edges goal = .inr w') (hgoal : goal ∉ w.visited) :
    goal ∉ w'.visited ∧ (Open edges goal w' ↔ Open edges goal w) := by
  obtain ⟨visited, stack⟩ := w
  cases stack with
  | nil => cases h
  | cons node rest =>
    simp only [turn] at h
    split at h
    · cases h
    · next hne =>
      split at h
      · next hv =>
        cases h
        exact ⟨hgoal, (open_drop (by simpa using hv) hne).symm⟩
      · next hv =>
        cases h
        refine ⟨fun hmem => ?_, (open_follow (by simpa using hv) hne hgoal).symm⟩
        exact (List.mem_cons.1 hmem).elim (hne ·.symm) hgoal

/-- **The search finds exactly the paths** from the nodes on its stack. The induction is on its
turns: each one keeps what there is to find. -/
theorem run_eq_true_iff (hgoal : goal ∉ w.visited) :
    w.run edges goal = true ↔ Open edges goal w := by
  induction w using run.induct edges goal with
  | case1 w found h =>
    rw [run, h]
    exact turn_inl h
  | case2 w w' h ih =>
    obtain ⟨hgoal', hopen⟩ := turn_inr h hgoal
    rw [run, h]
    exact (ih hgoal').trans hopen

/-- **At most so many turns**: the answer, where they have come to one. -/
def after (edges : Edges) (goal : String) : Nat → Search → Bool ⊕ Search
  | 0, w => .inr w
  | n + 1, w =>
    match w.turn edges goal with
    | .inl found => .inl found
    | .inr w' => after edges goal n w'

/-- **The search comes to its answer** in as many turns as there is work, and one to notice that
none is left. -/
theorem after_eq_run {n : Nat} (h : w.work edges < n) :
    after edges goal n w = .inl (w.run edges goal) := by
  induction n generalizing w with
  | zero => exact absurd h (Nat.not_lt_zero _)
  | succ n ih =>
    rw [after, run]
    cases ht : w.turn edges goal with
    | inl found => rfl
    | inr w' =>
      have := work_lt_of_turn ht
      exact ih (by omega)

end Search

/-- The search from one node finds the paths that begin there. -/
theorem closes_eq_true_iff_path : closes edges s t = true ↔ Path edges t s := by
  rw [closes, Search.run_eq_true_iff List.not_mem_nil]
  simp [Search.Open]

/-- An edge closes no cycle exactly when its target does not reach its source. -/
theorem closes_eq_false_iff : closes edges s t = false ↔ ¬ Path edges t s := by
  rw [← Bool.not_eq_true, closes_eq_true_iff_path]

/-- **The search decides reachability**, over any list of edges: loops, cycles, repeated edges and
ends that are no nodes of a flow included. It comes to its answer in two turns more than there are
edges, and the answer is whether a path of any number of edges leads from the target to the
source. -/
theorem closes_decides_path (edges : Edges) (source target : String) :
    Search.after edges source (edges.length + 2) ⟨[], [target]⟩ =
        .inl (closes edges source target) ∧
      (closes edges source target = true ↔ Path edges target source) := by
  refine ⟨Search.after_eq_run ?_, closes_eq_true_iff_path⟩
  simp [Search.work]

/-! ## Acyclic graphs -/

theorem acyclic_nil : Acyclic [] := by
  intro a h
  obtain ⟨b, hab, -⟩ := Relation.TransGen.head'_iff.1 h
  exact absurd hab List.not_mem_nil

theorem Acyclic.mono (h : Acyclic more) (hsub : edges ⊆ more) : Acyclic edges :=
  fun a p => h a (Relation.TransGen.mono (Edge.mono hsub) _ _ p)

/-- **An edge may be added** to an acyclic graph when its target does not reach its source. -/
theorem Acyclic.append (h : Acyclic edges) (hts : ¬ Path edges t s) :
    Acyclic (edges ++ [(s, t)]) := by
  intro a p
  obtain ⟨b, hab, p⟩ := Relation.TransGen.head'_iff.1 p
  obtain hold | hnew := List.mem_append.1 hab
  · -- the cycle begins with an old edge, and may lead through the new one further on
    obtain p | ⟨hs, ht⟩ := Path.of_append p
    · exact h a (.head' hold p)
    · exact hts (ht.trans (.head hold hs))
  · obtain ⟨rfl, rfl⟩ := Prod.mk.inj (List.mem_singleton.1 hnew)
    obtain p | ⟨p, -⟩ := Path.of_append p
    · exact hts p
    · exact hts p

/-- An edge keeps a graph acyclic exactly when it leads to where no path leads back. -/
theorem acyclic_append :
    Acyclic (edges ++ [(s, t)]) ↔ Acyclic edges ∧ ¬ Path edges t s := by
  refine ⟨fun h => ⟨h.mono (List.subset_append_left _ _), fun p => ?_⟩, fun h => h.1.append h.2⟩
  have hedge : Edge (edges ++ [(s, t)]) s t := List.mem_append_right _ List.mem_cons_self
  exact h s (.head' hedge (p.mono (List.subset_append_left _ _)))

/-- **A node may be spliced in** between two others of an acyclic graph when no edge mentions
it and the second does not reach the first. -/
theorem Acyclic.splice (h : Acyclic edges) (hts : ¬ Path edges t s)
    (hfrom : ∀ c, (x, c) ∉ edges) (hto : ∀ c, (c, x) ∉ edges) (hs : x ≠ s) (ht : x ≠ t) :
    Acyclic (edges ++ [(s, x), (x, t)]) := by
  -- the edge to the node is added before the one from it: nothing leaves the node yet
  have hxs : ¬ Path edges x s := fun p => by
    obtain ⟨c, hc⟩ := p.exists_edge hs
    exact hfrom c hc
  have htx : ¬ Path (edges ++ [(s, x)]) t x := fun p => by
    obtain p | ⟨p, -⟩ := p.of_append
    · obtain ⟨c, hc⟩ := p.exists_edge_to ht.symm
      exact hto c hc
    · exact hts p
  simpa using (h.append hxs).append htx

end Cycle

end Workflow
