import Workflow.Failure

/-!
# Outcomes taken apart

A function that can be refused is a chain of steps, each of which may be the one that refuses.
That the chain came to a value says that every step did, and the lemmas of this module read
that off link by link.
-/

namespace Workflow

namespace Outcome

variable {α β : Type}

theorem ok_bind {a : α} {k : α → Outcome β} : (.ok a : Outcome α) >>= k = k a := rfl

/-- A chain comes to a value when its first step does and the rest does with what came of
it. -/
theorem bind_eq_ok {x : Outcome α} {k : α → Outcome β} {b : β} :
    x >>= k = .ok b ↔ ∃ a, x = .ok a ∧ k a = .ok b := by
  cases x with
  | ok a => simp [bind, Except.bind]
  | error e => simp [bind, Except.bind]

theorem pure_eq_ok {a b : α} : (pure a : Outcome α) = .ok b ↔ a = b := by
  simp [pure, Except.pure]

theorem map_eq_ok {f : α → β} {x : Outcome α} {b : β} :
    f <$> x = .ok b ↔ ∃ a, x = .ok a ∧ f a = b := by
  cases x with
  | ok a => simp [Functor.map, Except.map]
  | error e => simp [Functor.map, Except.map]

/-- A chain behind a refusal comes to a value when the refusal does not apply. -/
theorem refuse_eq_ok {c : Prop} [Decidable c] {e : Failure} {k : PUnit → Outcome β} {b : β} :
    (if c then (throw e : Outcome PUnit) >>= k else k ⟨⟩) = .ok b ↔ ¬ c ∧ k ⟨⟩ = .ok b := by
  by_cases h : c
  · simp [h, throw, throwThe, MonadExceptOf.throw, bind, Except.bind]
  · simp [h]

/-- When a step is taken for each item of a list and none is refused, each item has its
result. -/
theorem exists_of_mapM_eq_ok {f : α → Outcome β} {xs : List α} {ys : List β} {x : α}
    (h : xs.mapM f = .ok ys) (hx : x ∈ xs) : ∃ y ∈ ys, f x = .ok y := by
  induction xs generalizing ys with
  | nil => cases hx
  | cons z zs ih =>
    rw [List.mapM_cons] at h
    obtain ⟨y, hy, h⟩ := bind_eq_ok.1 h
    obtain ⟨rest, hrest, h⟩ := bind_eq_ok.1 h
    cases pure_eq_ok.1 h
    obtain rfl | hx := List.mem_cons.1 hx
    · exact ⟨y, List.mem_cons_self, hy⟩
    · obtain ⟨y', hy', hfx⟩ := ih hrest hx
      exact ⟨y', List.mem_cons_of_mem _ hy', hfx⟩

/-- A step that is taken for each item of a list comes to all results when no step is refused. -/
theorem mapM_eq_ok {f : α → Outcome β} {g : α → β} {xs : List α}
    (h : ∀ x ∈ xs, f x = .ok (g x)) : xs.mapM f = .ok (xs.map g) := by
  induction xs with
  | nil => rfl
  | cons x xs ih =>
    obtain ⟨hx, hxs⟩ := List.forall_mem_cons.1 h
    rw [List.mapM_cons, hx, ih hxs]
    rfl

/-- Two lists whose items lead to the same steps, in the same order, come to the same results. -/
theorem mapM_congr_map {γ : Type} {f : α → Outcome β} {g : γ → Outcome β} {xs : List α}
    {ys : List γ} (h : ys.map g = xs.map f) : ys.mapM g = xs.mapM f := by
  have hsteps {δ : Type} (k : δ → Outcome β) (zs : List δ) : zs.mapM k = (zs.map k).mapM id := by
    rw [List.mapM_map]
    rfl
  rw [hsteps g, hsteps f, h]

/-- What each step of a fold keeps, the fold keeps, if no step is refused. -/
theorem of_foldlM_eq_ok {P : β → Prop} {f : β → α → Outcome β} {xs : List α} {b b' : β}
    (h : xs.foldlM f b = .ok b') (hb : P b)
    (hstep : ∀ {b a b'}, f b a = .ok b' → P b → P b') : P b' := by
  induction xs generalizing b with
  | nil =>
    cases pure_eq_ok.1 h
    exact hb
  | cons x xs ih =>
    rw [List.foldlM_cons] at h
    obtain ⟨c, hc, h⟩ := bind_eq_ok.1 h
    exact ih h (hstep hc hb)

theorem mem_toOption {x : Outcome α} {a : α} : a ∈ x.toOption ↔ x = .ok a := by
  cases x <;> simp [Except.toOption]

/-- A chain comes to a value of some sort when its first step does and the rest does with what
came of it. -/
theorem exists_bind_eq_ok {x : Outcome α} {k : α → Outcome β} :
    (∃ b, x >>= k = .ok b) ↔ ∃ a, x = .ok a ∧ ∃ b, k a = .ok b := by
  simp only [bind_eq_ok]
  exact ⟨fun ⟨b, a, ha, hb⟩ => ⟨a, ha, b, hb⟩, fun ⟨a, ha, b, hb⟩ => ⟨b, a, ha, hb⟩⟩

/-- A step that only reshapes what came of the step before it is never refused. -/
theorem exists_bind_pure_eq_ok {x : Outcome α} {g : α → β} :
    (∃ b, (x >>= fun a => pure (g a)) = .ok b) ↔ ∃ a, x = .ok a := by
  simp only [exists_bind_eq_ok, pure_eq_ok, exists_eq', and_true]

/-- A step that is taken for each item of a list comes to results exactly when it does for
every item by itself. -/
theorem exists_mapM_eq_ok {f : α → Outcome β} {xs : List α} :
    (∃ ys, xs.mapM f = .ok ys) ↔ ∀ x ∈ xs, ∃ y, f x = .ok y := by
  induction xs with
  | nil => exact iff_of_true ⟨[], rfl⟩ (by simp)
  | cons x xs ih =>
    simp only [List.mapM_cons, exists_bind_eq_ok, pure_eq_ok, exists_eq', and_true, ih,
      List.forall_mem_cons, exists_and_right]

/-- A fold whose steps are refused or not whatever came before comes to a value exactly when no
item is refused. -/
theorem exists_foldlM_eq_ok {P : α → Prop} {f : β → α → Outcome β} {xs : List α} (b : β)
    (hstep : ∀ b a, (∃ b', f b a = .ok b') ↔ P a) :
    (∃ b', xs.foldlM f b = .ok b') ↔ ∀ x ∈ xs, P x := by
  induction xs generalizing b with
  | nil => exact iff_of_true ⟨b, rfl⟩ (by simp)
  | cons x xs ih =>
    simp only [List.foldlM_cons, exists_bind_eq_ok, ih, List.forall_mem_cons, ← hstep b x,
      exists_and_right]

/-! ## Steps with one reason to be refused -/

/-- **A step is refused for one reason** alone, and exactly under a condition. -/
def RefusedIff (x : Outcome α) (e : Failure) (P : Prop) : Prop :=
  ∀ f, x = .error f ↔ f = e ∧ P

variable {e : Failure} {P : Prop}

theorem refusedIff_ok (a : α) : RefusedIff (.ok a) e False :=
  fun _ => iff_of_false nofun (·.2)

theorem RefusedIff.congr {Q : Prop} {x : Outcome α} (h : RefusedIff x e P) (hPQ : P ↔ Q) :
    RefusedIff x e Q :=
  fun f => (h f).trans (and_congr_right fun _ => hPQ)

/-- A chain of two steps is refused where either step is. -/
theorem RefusedIff.bind {x : Outcome α} {k : α → Outcome β} {Q : Prop} (hx : RefusedIff x e P)
    (hk : ∀ a, x = .ok a → RefusedIff (k a) e Q) : RefusedIff (x >>= k) e (P ∨ Q) := by
  intro f
  cases x with
  | ok a =>
    have hP : ¬ P := fun hP => nomatch (hx e).2 ⟨rfl, hP⟩
    exact (hk a rfl f).trans (and_congr_right fun _ => (or_iff_right hP).symm)
  | error g =>
    have hP : P := ((hx g).1 rfl).2
    have herror : (.error g : Outcome α) >>= k = .error f ↔ (.error g : Outcome α) = .error f := by
      simp [Bind.bind, Except.bind]
    exact herror.trans ((hx f).trans (and_congr_right fun _ => iff_of_true hP (.inl hP)))

/-- A step that only reshapes what came of the step before it is refused where that one is. -/
theorem RefusedIff.map {x : Outcome α} {g : α → β} (hx : RefusedIff x e P) :
    RefusedIff (x >>= fun a => pure (g a)) e P :=
  (hx.bind fun a _ => refusedIff_ok (g a)).congr (iff_of_eq (or_false P))

end Outcome

end Workflow
