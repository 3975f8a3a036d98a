import Workflow.Proofs.Run

/-!
# A store with a record

What a store should give back is what was last put into it, and a store does not tell that
itself. `Recorded` is a store together with a record of the flows that were last created or saved,
written down where that is done. All operations work on it as they do on the store alone
(`Command.step_store`), so what is shown of the record is shown of the store, whose runs are those
of the recorded store without the record (`Recorded.exists_last`).
-/

namespace Workflow

open Outcome

/-- **A store with a record** of what was last put into it. -/
structure Recorded (σ : Type) where
  /-- The store. -/
  store : σ
  /-- The flows that were last created or saved, none where they were deleted. -/
  last : Docs

variable {σ : Type} [FlowStore σ]

instance : FlowStore (Recorded σ) where
  empty := ⟨FlowStore.empty, fun _ => none⟩
  keyOf r := FlowStore.keyOf r.store
  load r := FlowStore.load r.store
  save r f now := do
    let (s, g) ← FlowStore.save r.store f now
    return (⟨s, r.last.put g⟩, g)
  create r f := do return ⟨← FlowStore.create r.store f, r.last.put f⟩
  list r := FlowStore.list r.store
  delete r id := ⟨FlowStore.delete r.store id, r.last.drop id⟩

/-- With a lawful store the record keeps up. -/
instance [LawfulStore σ] : LawfulStore (Recorded σ) where
  Keeps r docs := r.last = docs ∧ LawfulStore.Keeps r.store docs
  readBack := LawfulStore.readBack σ
  Fits := LawfulStore.Fits σ
  id_eq h := LawfulStore.id_eq h.2
  readBack_ok := LawfulStore.readBack_ok
  load_eq id h := LawfulStore.load_eq id h.2
  save_ok := by
    rintro r r' docs f g now ⟨rfl, hkeeps⟩ h
    obtain ⟨⟨s, k⟩, hs, h⟩ := bind_eq_ok.1 h
    cases pure_eq_ok.1 h
    obtain ⟨hsave, hkeeps⟩ := LawfulStore.save_ok hkeeps hs
    exact ⟨hsave, rfl, hkeeps⟩
  save_fits := by
    rintro r docs f now ⟨-, hkeeps⟩ hfits
    rw [← LawfulStore.save_fits now hkeeps hfits]
    show Except.map Prod.snd (FlowStore.save r.store f now >>= _) = _
    cases FlowStore.save r.store f now <;> rfl
  create_ok := by
    rintro r r' docs f ⟨rfl, hkeeps⟩ h
    obtain ⟨s, hs, h⟩ := bind_eq_ok.1 h
    cases pure_eq_ok.1 h
    obtain ⟨hfresh, hkeeps⟩ := LawfulStore.create_ok hkeeps hs
    exact ⟨hfresh, rfl, hkeeps⟩
  delete_keeps := by
    rintro r docs id ⟨rfl, hkeeps⟩
    exact ⟨rfl, LawfulStore.delete_keeps id hkeeps⟩
  empty_keeps := ⟨rfl, LawfulStore.empty_keeps⟩

/-! ## Runs of a recorded store -/

variable {w : Surroundings} {r : Recorded σ} {c : Command}

/-- What a step comes to, without the record. -/
def Recorded.forget (x : Outcome (Recorded σ × Reply)) : Outcome (σ × Reply) :=
  x.map fun p => (p.1.store, p.2)

omit [FlowStore σ] in
theorem Recorded.forget_bind {α : Type} (x : Outcome α) (k : α → Outcome (Recorded σ × Reply))
    {l : α → Outcome (σ × Reply)} (h : ∀ a, forget (k a) = l a) :
    forget (x >>= k) = x >>= l := by
  cases x with
  | ok a => exact h a
  | error e => rfl

theorem Operation.conclude_store (effect : Effect) :
    Recorded.forget (conclude w r effect) = conclude w r.store effect := by
  unfold conclude
  cases effect.changed with
  | none => rfl
  | some g =>
    show Recorded.forget ((FlowStore.save r.store g w.now >>= _) >>= _) =
      FlowStore.save r.store g w.now >>= _
    cases FlowStore.save r.store g w.now <;> rfl

theorem Operation.run_store (op : Operation) :
    Recorded.forget (op.run w r) = op.run w r.store := by
  -- all that is asked of the store comes first and is the same, so only what follows is compared
  cases op with
  | createFlow name app description =>
    show Recorded.forget ((FlowStore.create r.store (newFlow w name app description) >>= _) >>= _)
      = FlowStore.create r.store (newFlow w name app description) >>= _
    cases FlowStore.create r.store (newFlow w name app description) <;> rfl
  | listFlows app => exact Recorded.forget_bind _ _ fun _ => rfl
  | deleteFlow flow => exact Recorded.forget_bind _ _ fun _ => rfl
  | typeSchemas type => exact Recorded.forget_bind _ _ fun _ => rfl
  | onFlow flow task =>
    refine Recorded.forget_bind _ _ fun f => ?_
    exact Recorded.forget_bind _ _ fun effect => conclude_store effect

theorem Command.run_store : Recorded.forget (c.run w r) = c.run w r.store := by
  unfold run
  cases hfits : (signature? c.name).any fun signature => signature.fits c.arguments with
  | false =>
    simp only [Bool.not_false, ↓reduceIte]
    rfl
  | true =>
    simp only [Bool.not_true, Bool.false_eq_true, ↓reduceIte]
    split
    · exact Recorded.forget_bind _ _ fun op => op.run_store
    · exact Recorded.forget_bind _ _ fun _ => rfl
    · exact Recorded.forget_bind _ _ fun op => op.run_store
    · exact Recorded.forget_bind _ _ fun f => Operation.run_store _
    · refine Recorded.forget_bind _ _ fun f => ?_
      exact Recorded.forget_bind _ _ fun task => Operation.run_store _

/-- **A step of a recorded store** is a step of the store. -/
theorem Command.step_store : (c.step w r).1.store = (c.step w r.store).1 := by
  unfold step
  rw [← run_store]
  cases c.run w r <;> rfl

theorem Command.stepAll_store {run : List (Surroundings × Command)} :
    (stepAll r run).store = stepAll r.store run := by
  induction run generalizing r with
  | nil => rfl
  | cons next run ih =>
    show (stepAll (next.2.step next.1 r).1 run).store = stepAll (next.2.step next.1 r.store).1 run
    rw [ih, step_store]

/-- **A run of a store is recorded** by a run of the recorded store. -/
theorem Recorded.exists_last {Allowed : Surroundings → σ → Command → Prop}
    {Allowed' : Surroundings → Recorded σ → Command → Prop}
    (hallowed : ∀ w r c, Allowed w r.store c → Allowed' w r c) {s : σ}
    (h : Reaches Allowed FlowStore.empty s) :
    ∃ last, Reaches Allowed' FlowStore.empty (⟨s, last⟩ : Recorded σ) := by
  induction h with
  | start => exact ⟨_, .start⟩
  | @step s _ w c hc ih =>
    obtain ⟨last, hlast⟩ := ih
    refine ⟨(c.step w (⟨s, last⟩ : Recorded σ)).1.last, ?_⟩
    have hstore : (c.step w (⟨s, last⟩ : Recorded σ)).1.store = (c.step w s).1 :=
      Command.step_store
    rw [← hstore]
    exact hlast.step w c (hallowed w ⟨s, last⟩ c hc)

/-- **A run of a recorded store** is a run of the store. -/
theorem Recorded.reaches_store {Allowed : Surroundings → σ → Command → Prop}
    {Allowed' : Surroundings → Recorded σ → Command → Prop}
    (hallowed : ∀ w r c, Allowed' w r c → Allowed w r.store c)
    (h : Reaches Allowed' FlowStore.empty r) : Reaches Allowed FlowStore.empty r.store := by
  induction h with
  | start => exact .start
  | @step r _ w c hc ih =>
    rw [Command.step_store]
    exact ih.step w c (hallowed w r c hc)

end Workflow
