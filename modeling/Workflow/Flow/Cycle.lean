/-!
# Cycles

A connection from `source` to `target` closes a cycle exactly when `source` can already be
reached from `target`. `Cycle.closes` looks for it depth first, with the nodes that it has
followed in one list and those that it has still to look at on a stack. A node is marked when it
is taken from the stack and not when it is put there, so the stack may hold it several times;
only the first time counts.

The stack grows when a node is followed, by as many nodes as edges leave it at most. These edges
are not looked at again, and `Search.work_lt_of_turn` says that the two balance: the edges ahead
and the nodes on the stack become fewer with every turn.
-/

namespace Workflow

namespace Cycle

/-- The directed edges of a graph. -/
abbrev Edges := List (String × String)

/-- The nodes that edges lead to from a node. -/
def successors (edges : Edges) (node : String) : List String :=
  (edges.filter fun e => e.1 == node).map Prod.snd

/-- The edges that leave other nodes than the visited ones. -/
def ahead (edges : Edges) (visited : List String) : Edges :=
  edges.filter fun e => !visited.contains e.1

/-- The edges of a node are ahead until it is visited. -/
theorem length_ahead_cons (edges : Edges) {node : String} {visited : List String}
    (h : node ∉ visited) :
    (ahead edges (node :: visited)).length + (successors edges node).length =
      (ahead edges visited).length := by
  induction edges with
  | nil => rfl
  | cons e es ih =>
    simp only [ahead, successors, List.length_map] at ih ⊢
    by_cases he : e.1 = node
    · simp [he, h] at ih ⊢; omega
    · by_cases hv : e.1 ∈ visited
      · simp [he, hv] at ih ⊢; omega
      · simp [he, hv] at ih ⊢; omega

/-- **Where a search stands**: the nodes that it has followed and those that it has still to look
at, the next one first. -/
structure Search where
  visited : List String
  stack : List String
deriving DecidableEq, Repr

namespace Search

/-- **One turn** for the node on top of the stack: an answer, or where the search stands then.
What a node leads to comes on top of the stack, the last edge of it first. -/
def turn (edges : Edges) (goal : String) (w : Search) : Bool ⊕ Search :=
  match w.stack with
  | [] => .inl false
  | node :: rest =>
    if node = goal then .inl true
    else if w.visited.contains node then .inr ⟨w.visited, rest⟩
    else
      let visited := node :: w.visited
      let found := (successors edges node).filter fun n => !visited.contains n
      .inr ⟨visited, found.reverse ++ rest⟩

/-- The edges that may still be followed and the nodes that wait. -/
def work (edges : Edges) (w : Search) : Nat :=
  (ahead edges w.visited).length + w.stack.length

/-- **A turn that does not end the search leaves less to do.** -/
theorem work_lt_of_turn {edges : Edges} {goal : String} {w w' : Search}
    (h : w.turn edges goal = .inr w') : w'.work edges < w.work edges := by
  obtain ⟨visited, stack⟩ := w
  cases stack with
  | nil => simp [turn] at h
  | cons node rest =>
    simp only [turn] at h
    split at h
    · cases h
    · split at h
      · cases h
        simp only [work, List.length_cons]
        omega
      · next hnew =>
        cases h
        have hnode : node ∉ visited := by simpa using hnew
        have hlen := length_ahead_cons edges hnode
        have hle := List.length_filter_le (fun n => !(node :: visited).contains n)
          (successors edges node)
        simp only [work, List.length_append, List.length_reverse, List.length_cons]
        omega

/-- **Turn after turn** until there is an answer. -/
def run (edges : Edges) (goal : String) (w : Search) : Bool :=
  match _h : w.turn edges goal with
  | .inl found => found
  | .inr w' => run edges goal w'
termination_by w.work edges
decreasing_by exact work_lt_of_turn _h

end Search

/-- **Whether an edge from `source` to `target` would close a cycle.** -/
def closes (edges : Edges) (source target : String) : Bool :=
  Search.run edges source ⟨[], [target]⟩

end Cycle

end Workflow
