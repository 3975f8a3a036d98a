import Workflow.FlowTask
import Workflow.Proofs.Outcome

/-!
# The order of a listing

Two stores may list the flows of an app in different orders. A task looks at the other flows of the
app for one purpose alone, to tell which tool names are taken, and neither the name that is picked
nor the failure depends on the order in which they come: of the names that are taken it matters
which they are and how many, and all triggers that are refused are refused for the same reason.

`Outcome.Agree` relates outcomes that fail alike or come to related values.
-/

namespace Workflow

namespace Outcome

variable {α β γ δ : Type} {R : α → β → Prop} {S : γ → δ → Prop}

/-- **Outcomes that agree**: the same failure, or values that are related. -/
inductive Agree (R : α → β → Prop) : Outcome α → Outcome β → Prop
  /-- Both come to a value. -/
  | ok {a : α} {b : β} (h : R a b) : Agree R (.ok a) (.ok b)
  /-- Both are refused for the same reason. -/
  | error (e : Failure) : Agree R (.error e) (.error e)

theorem Agree.of_eq {x y : Outcome α} (h : x = y) : Agree Eq x y := by
  subst h
  cases x with
  | ok a => exact .ok rfl
  | error e => exact .error e

theorem Agree.eq {x y : Outcome α} (h : Agree Eq x y) : x = y := by
  cases h with
  | ok h => rw [h]
  | error e => rfl

theorem Agree.trans {Q : α → α → Prop} (hQ : ∀ {a b c}, Q a b → Q b c → Q a c)
    {x y z : Outcome α} (h : Agree Q x y) (h' : Agree Q y z) : Agree Q x z := by
  cases h with
  | ok hab =>
    cases h' with
    | ok hbc => exact .ok (hQ hab hbc)
  | error e => exact h'

/-- Outcomes agree when what is read off their values is the same. -/
theorem Agree.of_map {x : Outcome α} {y : Outcome β} {p : α → γ} {q : β → γ}
    (h : x.map p = y.map q) : Agree (fun a b => p a = q b) x y := by
  cases x with
  | ok a =>
    cases y with
    | ok b => exact .ok (Except.ok.inj h)
    | error e => cases h
  | error e =>
    cases y with
    | ok b => cases h
    | error e' =>
      cases h
      exact .error e

theorem Agree.imp {x : Outcome α} {y : Outcome β} {Q : α → β → Prop} (h : Agree R x y)
    (hRQ : ∀ a b, R a b → x = .ok a → y = .ok b → Q a b) : Agree Q x y := by
  cases h with
  | ok h => exact .ok (hRQ _ _ h rfl rfl)
  | error e => exact .error e

/-- Chains agree when their first steps do and what follows does for all related values that these
come to. -/
theorem Agree.bind {x : Outcome α} {y : Outcome β} {k : α → Outcome γ} {l : β → Outcome δ}
    (h : Agree R x y) (hkl : ∀ a b, R a b → x = .ok a → y = .ok b → Agree S (k a) (l b)) :
    Agree S (x >>= k) (y >>= l) := by
  cases h with
  | ok h => exact hkl _ _ h rfl rfl
  | error e => exact .error e

/-- Chains with the same first step agree when what follows does. -/
theorem Agree.bind_same {x : Outcome α} {k : α → Outcome γ} {l : α → Outcome δ}
    (h : ∀ a, x = .ok a → Agree S (k a) (l a)) : Agree S (x >>= k) (x >>= l) :=
  (Agree.of_eq (rfl : x = x)).bind fun a _ hab ha _ => hab ▸ h a ha

/-- When there is one reason alone for which an item can be refused, the items of a list may be
taken in any order. -/
theorem agree_mapM {f : α → Outcome β} {reason : Failure}
    (hf : ∀ a e, f a = .error e → e = reason) {xs ys : List α} (h : xs.Perm ys) :
    Agree List.Perm (xs.mapM f) (ys.mapM f) := by
  induction h with
  | nil => exact .ok .nil
  | cons a _ ih =>
    rw [List.mapM_cons, List.mapM_cons]
    refine .bind_same fun b _ => ih.bind fun _ _ hperm _ _ => ?_
    exact .ok (hperm.cons b)
  | swap a b rest =>
    simp only [List.mapM_cons]
    cases ha : f a with
    | ok v =>
      cases hb : f b with
      | ok w =>
        cases rest.mapM f with
        | ok vs => exact .ok (.swap v w vs)
        | error e => exact .error e
      | error e => exact .error e
    | error e =>
      cases hb : f b with
      | ok w => exact .error e
      | error e' =>
        rw [hf a e ha, hf b e' hb]
        exact .error reason
  | trans _ _ ih ih' => exact ih.trans (fun h h' => h.trans h') ih'

end Outcome

/-! ## Tool names -/

theorem Naming.toolName_perm {taken taken' : List String} (name : String)
    (h : taken.Perm taken') : toolName name taken = toolName name taken' := by
  simp only [toolName, numbered, h.contains_eq, h.length_eq]

theorem Node.toolName?_error {n : Node} {e : Failure} (h : n.toolName? = .error e) :
    e = .unusableKey := by
  unfold Node.toolName? at h
  split at h
  · split at h
    · cases h
    · cases h
      rfl
  · cases h

namespace Flow

open Outcome

variable {flows flows' : List Flow} {except : Option String}

/-- The triggers of flows in another order take the same names in another order. -/
theorem agree_toolNames (h : flows.Perm flows') :
    Agree List.Perm (toolNames flows except) (toolNames flows' except) := by
  have htriggers : (triggers flows except).Perm (triggers flows' except) :=
    (h.flatMap_right Flow.nodes).filter _
  refine (agree_mapM (fun _ _ => Node.toolName?_error) htriggers).bind fun _ _ hnames _ _ => ?_
  exact .ok (hnames.filterMap _)

theorem freshToolName_perm (h : flows.Perm flows') (name : String) :
    freshToolName flows name except = freshToolName flows' name except := by
  refine ((agree_toolNames h).bind fun _ _ hnames _ _ => ?_).eq
  exact .of_eq (congrArg Except.ok (Naming.toolName_perm name (hnames.filterMap _)))

end Flow

/-! ## Tasks -/

section

open Outcome

variable {siblings siblings' : Outcome (List Flow)} {f : Flow} {r : Registry} {ids : Nat → String}

theorem Flow.toolNameFor_perm (h : Agree List.Perm siblings siblings') (name : String)
    (except : Option String) :
    f.toolNameFor ⟨r, ids, siblings⟩ name except = f.toolNameFor ⟨r, ids, siblings'⟩ name except := by
  refine (h.bind fun _ _ hothers _ _ => ?_).eq
  exact .of_eq (freshToolName_perm (hothers.cons f) name)

theorem Flow.addNode_perm (h : Agree List.Perm siblings siblings') (type name : String)
    (position : Option (Checked Position)) (parameters : Entries Json) :
    f.addNode ⟨r, ids, siblings⟩ type name position parameters =
      f.addNode ⟨r, ids, siblings'⟩ type name position parameters := by
  simp only [addNode, toolNameFor_perm h]

theorem Flow.updateNode_perm (h : Agree List.Perm siblings siblings') (id : String)
    (update : NodeUpdate) :
    f.updateNode ⟨r, ids, siblings⟩ id update = f.updateNode ⟨r, ids, siblings'⟩ id update := by
  simp only [updateNode, rename, toolNameFor_perm h]

/-- **An edit does not depend on the order** in which the other flows of the app are listed. -/
theorem Edit.apply_perm (h : Agree List.Perm siblings siblings') (e : Edit) :
    e.apply f ⟨r, ids, siblings⟩ = e.apply f ⟨r, ids, siblings'⟩ := by
  cases e with
  | addNode => simp only [apply, Flow.addNode_perm h]
  | updateNode => simp only [apply, Flow.updateNode_perm h]
  | moveNode | deleteNode | connect | disconnect | splice => rfl

/-- **No task depends on the order** in which the other flows of the app are listed. -/
theorem FlowTask.run_perm (h : Agree List.Perm siblings siblings') (w : Surroundings)
    (task : FlowTask) : task.run w siblings f = task.run w siblings' f := by
  cases task with
  | edit e => simp only [run, Edit.apply_perm h]
  | tell | listNodes | listConnections | nodeSchemas | flowSchemas | resolveSchema | validate
  | validateConnection | testApiCall => rfl

end

end Workflow
