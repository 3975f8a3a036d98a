import Workflow.Proofs.Schema.Depth
import Workflow.Schema.Guard

/-!
# What a guard counts

A schema counts at least once and at most twice, so what a guard counts in a schema lies between its
depth and twice its depth (`Schema.Guard.depth_le_height`, `Schema.Guard.height_le`). Since each
schema counts, a reading comes to its end (`Schema.Guard.reading_induct`). Nothing more is used of a
guard but that only objects count twice.
-/

namespace Workflow

namespace Schema

namespace Guard

variable {g : Guard} {around : List Kind} {d : Option String} {ps : Entries Schema} {n : Nat}

/-- Inside a schema more is counted than around it. -/
theorem count_lt (g : Guard) (k : Kind) (ks : List Kind) : g.count ks < g.count (k :: ks) := by
  obtain h | ⟨-, h⟩ := g.count_cons k ks <;> omega

/-- A schema counts twice at most. -/
theorem count_le (g : Guard) (k : Kind) (ks : List Kind) : g.count (k :: ks) ≤ g.count ks + 2 := by
  obtain h | ⟨-, h⟩ := g.count_cons k ks <;> omega

/-- Only an object counts twice. -/
theorem count_of_ne (g : Guard) {k : Kind} (ks : List Kind) (hk : k ≠ .object) :
    g.count (k :: ks) = g.count ks + 1 :=
  (g.count_cons k ks).resolve_right fun h => hk h.1

/-- **Reading goes down as far as the guard lets it**, so what is shown of the inside of a schema may
be taken for granted of all that is inside it in turn. -/
@[elab_as_elim]
theorem reading_induct (g : Guard) {motive : List Kind → Prop}
    (inside : ∀ around, (∀ k, g.count (k :: around) ≤ g.readingLimit → motive (k :: around)) →
      motive around) (around : List Kind) : motive around := by
  -- more is counted with each schema, so the induction is on how much more may be counted
  obtain ⟨room, hroom⟩ : ∃ room, room = g.readingLimit - g.count around := ⟨_, rfl⟩
  induction room using Nat.strong_induction_on generalizing around with
  | h room ih =>
    refine inside around fun k hk => ih (g.readingLimit - g.count (k :: around)) ?_ _ rfl
    have hmore := g.count_lt k around
    omega

/-! ## The most that is counted -/

theorem propertiesHeightIn_le_iff :
    g.propertiesHeightIn around ps ≤ n ↔ Entries.All (fun s => g.heightIn around s ≤ n) ps := by
  induction ps with
  | nil => simp [propertiesHeightIn, Entries.all_nil]
  | cons e ps ih => simp only [propertiesHeightIn, Nat.max_le, ih, Entries.all_cons]

/-- What is counted in an object is within a bound when the object and all its properties are. -/
theorem heightIn_object_le_iff {required : List String} {isOpen : Bool} :
    g.heightIn around (.object d ps required isOpen) ≤ n ↔
      g.count (.object :: around) ≤ n ∧
        Entries.All (fun s => g.heightIn (.object :: around) s ≤ n) ps := by
  rw [heightIn, Nat.max_le, propertiesHeightIn_le_iff]

/-- What is counted in an array is within a bound when the array and its items are. -/
theorem heightIn_array_le_iff {items : Schema} :
    g.heightIn around (.array d items) ≤ n ↔
      g.count (.array :: around) ≤ n ∧ g.heightIn (.array :: around) items ≤ n := by
  rw [heightIn, Nat.max_le]

/-- **A schema counts at least once.** -/
theorem count_add_depth_le (g : Guard) (around : List Kind) (s : Schema) :
    g.count around + s.depth ≤ g.heightIn around s := by
  induction s using induct generalizing around with
  | object d ps required isOpen ih =>
    have hself := g.count_lt .object around
    have hall := heightIn_object_le_iff.1
      (Nat.le_refl (g.heightIn around (.object d ps required isOpen)))
    have hps : propertiesDepth ps ≤
        g.heightIn around (.object d ps required isOpen) - g.count (.object :: around) := by
      refine propertiesDepth_le_iff.2 fun e he => ?_
      have hle := Nat.le_trans (ih e.1 e.2 he (.object :: around)) (hall.2 e he)
      omega
    rw [depth]
    omega
  | array d items ih =>
    have hself := g.count_lt .array around
    have hitems := ih (.array :: around)
    have hall := heightIn_array_le_iff.1 (Nat.le_refl (g.heightIn around (.array d items)))
    rw [depth]
    omega
  | string | number | boolean | null | unknown => exact g.count_lt _ around

/-- **A schema counts at most twice.** -/
theorem heightIn_le (g : Guard) (around : List Kind) (s : Schema) :
    g.heightIn around s ≤ g.count around + 2 * s.depth := by
  induction s using induct generalizing around with
  | object d ps required isOpen ih =>
    have hself := g.count_le .object around
    rw [heightIn_object_le_iff, depth]
    refine ⟨by omega, fun e he => ?_⟩
    have hdepth := propertiesDepth_le_iff.1 (Nat.le_refl (propertiesDepth ps)) e he
    have hinside := ih e.1 e.2 he (.object :: around)
    omega
  | array d items ih =>
    have hself := g.count_le .array around
    have hinside := ih (.array :: around)
    rw [heightIn_array_le_iff, depth]
    omega
  | string | number | boolean | null | unknown => exact g.count_le _ around

/-- No less is counted in a schema than its depth. -/
theorem depth_le_height (g : Guard) (s : Schema) : s.depth ≤ g.height s := by
  have h := g.count_add_depth_le [] s
  rwa [g.count_nil, Nat.zero_add] at h

/-- No more is counted in a schema than twice its depth. -/
theorem height_le (g : Guard) (s : Schema) : g.height s ≤ 2 * s.depth := by
  have h := g.heightIn_le [] s
  rwa [g.count_nil, Nat.zero_add] at h

end Guard

end Schema

end Workflow
