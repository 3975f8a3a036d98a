import Workflow.Proofs.Keepable
import Workflow.Proofs.Schema.Inference

/-!
# How deep schemas are

A schema that was learned is kept among the parameters of a node, as a value like any other, so
it matters how deeply it is nested. Its written form is at most twice as deep as the schema
(`Schema.keepable_toJson`), since the properties of an object stand in an object of their own. An
inferred schema is one level deeper than inference looks at most, whatever the sample is
(`Schema.depth_inferWithin_le`): merging makes no schema deeper.
-/

namespace Workflow

namespace Schema

theorem depth_pos (s : Schema) : 0 < s.depth := by
  cases s <;> simp [depth]

theorem propertiesDepth_le_iff {ps : Entries Schema} {n : Nat} :
    propertiesDepth ps ≤ n ↔ Entries.All (fun s => s.depth ≤ n) ps := by
  induction ps with
  | nil => simp [propertiesDepth, Entries.all_nil]
  | cons e ps ih => simp only [propertiesDepth, Nat.max_le, ih, Entries.all_cons]

theorem propertiesToJson_eq_map (ps : Entries Schema) :
    propertiesToJson ps = Entries.mapValues toJson ps := by
  induction ps with
  | nil => rfl
  | cons e ps ih => rw [propertiesToJson, ih, Entries.mapValues, Entries.mapValues, List.map_cons]

/-! ## The written form -/

theorem keepable_ofTexts {room : Nat} (texts : List String) :
    (Json.ofTexts texts).Keepable (room + 1) := by
  refine Json.keepable_arr.2 fun v hv => ?_
  obtain ⟨text, -, rfl⟩ := List.mem_map.1 hv
  exact Json.keepable_str text

/-- **The written form of a schema** can be kept where there is room for twice its depth. -/
theorem keepable_toJson (s : Schema) : s.toJson.Keepable (2 * s.depth) := by
  induction s using induct with
  | object d ps required isOpen ih =>
    have hps : Entries.All (Json.Keepable (2 * propertiesDepth ps)) (propertiesToJson ps) := by
      rw [propertiesToJson_eq_map]
      intro e he
      obtain ⟨⟨k, s⟩, hs, rfl⟩ := List.mem_map.1 he
      exact (ih k s hs).mono (Nat.mul_le_mul_left 2 (propertiesDepth_le_iff.1 (Nat.le_refl _) _ hs))
    rw [toJson, depth]
    refine Json.keepable_obj.2 ?_
    simp only [Entries.all_cons]
    exact ⟨Json.keepable_ofText? d, Json.keepable_str _, Json.keepable_obj.2 hps,
      keepable_ofTexts required, Json.keepable_bool isOpen, Entries.all_nil⟩
  | array d items ih =>
    rw [toJson, depth]
    refine Json.keepable_obj.2 ?_
    simp only [Entries.all_cons]
    exact ⟨Json.keepable_ofText? d, Json.keepable_str _, ih.mono (Nat.le_succ _),
      Entries.all_nil⟩
  | string d format =>
    refine Json.keepable_obj.2 ?_
    simp only [Entries.all_cons]
    exact ⟨Json.keepable_ofText? d, Json.keepable_str _, Json.keepable_ofText? format,
      Entries.all_nil⟩
  | number d | boolean d | null d | unknown d =>
    refine Json.keepable_obj.2 ?_
    simp only [Entries.all_cons]
    exact ⟨Json.keepable_ofText? d, Json.keepable_str _, Entries.all_nil⟩

/-! ## Merging and inference -/

theorem mem_mergeProperties {ps ps' : Entries Schema} {k : String} {u : Schema}
    (h : (k, u) ∈ mergeProperties ps ps') :
    ∃ s, (k, s) ∈ ps ∧ (u = s ∨ ∃ t, (k, t) ∈ ps' ∧ u = merge s t) := by
  induction ps with
  | nil => cases h
  | cons e ps ih =>
    obtain ⟨l, s⟩ := e
    obtain he | h := List.mem_cons.1 h
    · obtain ⟨rfl, rfl⟩ := Prod.mk.inj he
      refine ⟨s, List.mem_cons_self, ?_⟩
      split
      · next t ht => exact .inr ⟨t, Entries.mem_of_get? ht, rfl⟩
      · exact .inl rfl
    · obtain ⟨s', hs', hu⟩ := ih h
      exact ⟨s', List.mem_cons_of_mem _ hs', hu⟩

/-- What has nothing inside is merged to something that has nothing inside. -/
theorem Merged.depth_le_one {a b c : Schema} (h : Merged a b c) (hobject : a.kind ≠ .object)
    (harray : a.kind ≠ .array) : c.depth ≤ 1 := by
  cases h with
  | same =>
    cases a with
    | object => exact absurd rfl hobject
    | array => exact absurd rfl harray
    | string | number | boolean | null | unknown => exact Nat.le_refl 1
  | object => exact absurd rfl hobject
  | array => exact absurd rfl harray
  | kinds | string | number | boolean | null | unknown => exact Nat.le_refl 1

/-- **A merge is not deeper** than what is merged. -/
theorem depth_merge_le {a b : Schema} {n : Nat} (ha : a.depth ≤ n) (hb : b.depth ≤ n) :
    (merge a b).depth ≤ n := by
  have hn : 1 ≤ n := Nat.le_trans a.depth_pos ha
  induction a using induct generalizing b n with
  | object d ps required isOpen ih =>
    have h := merged_merge (.object d ps required isOpen) b
    generalize merge (.object d ps required isOpen) b = c at h
    cases h with
    | same => exact ha
    | kinds => exact hn
    | object =>
      rw [depth] at ha hb ⊢
      obtain ⟨m, rfl⟩ : ∃ m, n = m + 1 := ⟨n - 1, by omega⟩
      rw [Nat.add_le_add_iff_right, propertiesDepth_le_iff] at ha hb ⊢
      rintro ⟨k, u⟩ hu
      -- a property of the first schema, merged or not, or one that only the second has
      obtain hu | hu := List.mem_append.1 hu
      · obtain ⟨s, hs, rfl | ⟨t, ht, rfl⟩⟩ := mem_mergeProperties hu
        · exact ha _ hs
        · exact ih k s hs (ha _ hs) (hb _ ht) (Nat.le_trans s.depth_pos (ha _ hs))
      · exact hb _ (List.filter_sublist.subset hu)
  | array d items ih =>
    have h := merged_merge (.array d items) b
    generalize merge (.array d items) b = c at h
    cases h with
    | same => exact ha
    | kinds => exact hn
    | array =>
      rw [depth] at ha hb ⊢
      obtain ⟨m, rfl⟩ : ∃ m, n = m + 1 := ⟨n - 1, by omega⟩
      rw [Nat.add_le_add_iff_right] at ha hb ⊢
      exact ih ha hb (Nat.le_trans items.depth_pos ha)
  | string | number | boolean | null | unknown =>
    refine Nat.le_trans ((merged_merge _ b).depth_le_one ?_ ?_) hn <;> exact nofun

theorem depth_mergeAll_le {ss : List Schema} {n : Nat} (hn : 1 ≤ n) (h : ∀ s ∈ ss, s.depth ≤ n) :
    (mergeAll ss).depth ≤ n := by
  cases ss with
  | nil => exact hn
  | cons s ss =>
    obtain ⟨hs, hss⟩ := List.forall_mem_cons.1 h
    unfold mergeAll
    induction ss generalizing s with
    | nil => exact hs
    | cons t ss ih =>
      obtain ⟨ht, hss⟩ := List.forall_mem_cons.1 hss
      have hst := depth_merge_le hs ht
      exact ih (merge s t) (List.forall_mem_cons.2 ⟨hst, hss⟩) hst hss

/-- **An inferred schema** is one level deeper than inference looks at most. -/
theorem depth_inferWithin_le (room : Nat) (v : Json) : (inferWithin room v).depth ≤ room + 1 := by
  induction v using Json.induct generalizing room with
  | null | bool b | int n | float x | str s =>
    cases room <;> exact Nat.succ_le_succ (Nat.zero_le _)
  | arr vs ih =>
    cases room with
    | zero => exact Nat.le_refl 1
    | succ room =>
      rw [inferWithin, depth, inferItems_eq_map, Nat.add_le_add_iff_right]
      refine depth_mergeAll_le (Nat.succ_le_succ (Nat.zero_le _)) fun s hs => ?_
      obtain ⟨v, hv, rfl⟩ := List.mem_map.1 hs
      exact ih v hv room
  | obj es ih =>
    cases room with
    | zero => exact Nat.le_refl 1
    | succ room =>
      rw [inferWithin, depth, Nat.add_le_add_iff_right, propertiesDepth_le_iff]
      rintro ⟨k, s⟩ hs
      obtain ⟨v, hv, rfl⟩ := mem_inferMembers.1 hs
      exact ih k v hv room

/-- **What is learned from a sample** can be kept where there is room for twelve levels. -/
theorem keepable_infer (v : Json) : (infer v defaultDepth).toJson.Keepable 12 :=
  (keepable_toJson _).mono (Nat.mul_le_mul_left 2 (depth_inferWithin_le 5 v))

end Schema

end Workflow
