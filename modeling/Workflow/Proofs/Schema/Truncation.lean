import Workflow.Proofs.Entries
import Workflow.Proofs.Schema.Looseness

/-!
# The depth limit only truncates

Inference stops at a nesting depth. What it says above that depth does not depend on where it
stops: to infer with a smaller limit is to infer with a larger one and to cut the schema off at
the smaller (`Schema.infer_eq_truncate`), down to the order of properties and of required names.

For the members of an object there is nothing to it, since each is inferred by itself. The items of
a list are merged, and there cutting off must commute with the merge
(`Schema.truncate_merge`). It is not obvious that it does. Two items that differ far down are the
same once they are cut off, and then the merge takes its short cut; two that are of different kinds
far down are no longer. What makes it true is that the short cut is one and nothing more: for
schemas without descriptions the merge is put together out of the merges of what is inside, whether
the two are the same or not (`Schema.merge_object`).
-/

namespace Workflow

namespace Schema

variable {a b : Schema} {ps ps' : Entries Schema} {required required' : List String} {o o' : Bool}

/-! ## The merge without its short cut -/

theorem mergeProperties_of_same (h : sameProperties ps ps' = true) :
    mergeProperties ps ps' = ps := by
  induction ps with
  | nil => rfl
  | cons e ps ih =>
    obtain ⟨k, s⟩ := e
    obtain ⟨t, ht, hst⟩ := exists_of_sameProperties h List.mem_cons_self
    rw [sameProperties, Bool.and_eq_true_iff] at h
    rw [mergeProperties, ht, ih h.2]
    exact congrArg (fun m => (k, m) :: ps) (merge_of_same hst)

/-- The same properties have nothing to add to each other. -/
theorem mergedProperties_of_same (hdistinct : Entries.Distinct ps)
    (hlength : ps.length = ps'.length) (h : sameProperties ps ps' = true) :
    mergedProperties ps ps' = ps := by
  have hnone : (ps'.filter fun e => !Entries.has ps e.1) = [] := by
    refine List.filter_eq_nil_iff.2 fun e he => ?_
    have hk := keys_subset_of_same hdistinct hlength h (Entries.mem_keys_of_mem he)
    simp [Entries.has_iff_mem_keys.2 hk]
  rw [mergedProperties, mergeProperties_of_same h, hnone, List.append_nil]

/-- **Two objects without descriptions** are merged property by property, be they the same or
not. -/
theorem merge_object (hdistinct : Entries.Distinct ps) :
    merge (.object none ps required o) (.object none ps' required' o') =
      .object none (mergedProperties ps ps') (required.filter required'.contains) (o || o') := by
  by_cases h : same (.object none ps required o) (.object none ps' required' o') = true
  · rw [merge_of_same h]
    simp only [same, Bool.and_eq_true, beq_iff_eq] at h
    obtain ⟨⟨⟨⟨-, rfl⟩, rfl⟩, hlength⟩, hsame⟩ := h
    have hrequired : required.filter required.contains = required :=
      List.filter_eq_self.2 fun name hname => by simpa using hname
    rw [mergedProperties_of_same hdistinct hlength hsame, hrequired, Bool.or_self]
  · rw [merge, if_neg h]
    rfl

/-- Two arrays without descriptions are merged by their items. -/
theorem merge_array : merge (.array none a) (.array none b) = .array none (merge a b) := by
  by_cases h : same (.array none a) (.array none b) = true
  · rw [merge_of_same h]
    simp only [same, Bool.and_eq_true] at h
    rw [merge_of_same h.2]
  · rw [merge, if_neg h]

/-- Two texts without descriptions keep a format that both have. -/
theorem merge_string (f f' : Option String) :
    merge (.string none f) (.string none f') = .string none (if f = f' then f else none) := by
  by_cases h : same (.string none f) (.string none f') = true
  · rw [merge_of_same h]
    simp only [same, Bool.and_eq_true, beq_iff_eq] at h
    rw [if_pos h.2]
  · rw [merge, if_neg h]

/-! ## Cutting off -/

/-- **A schema cut off** at a nesting depth. The schema itself is at depth zero, and a property or
the items are one level below; what is so deep or deeper is not known. -/
def truncate : Nat → Schema → Schema
  | 0, _ => .unknown none
  | depth + 1, .object d ps required o =>
    .object d (Entries.mapValues (truncate depth) ps) required o
  | depth + 1, .array d items => .array d (truncate depth items)
  | _ + 1, s => s

theorem kind_truncate (depth : Nat) (s : Schema) : (truncate (depth + 1) s).kind = s.kind := by
  cases s <;> rfl

/-! ## Cutting off what is merged -/

/-- What commutes with the merge of single properties commutes with the merge of all of them. -/
theorem mapValues_mergedProperties {f : Schema → Schema}
    (h : ∀ k s t, (k, s) ∈ ps → (k, t) ∈ ps' → f (merge s t) = merge (f s) (f t)) :
    Entries.mapValues f (mergedProperties ps ps') =
      mergedProperties (Entries.mapValues f ps) (Entries.mapValues f ps') := by
  have hmerge : Entries.mapValues f (mergeProperties ps ps') =
      mergeProperties (Entries.mapValues f ps) (Entries.mapValues f ps') := by
    induction ps with
    | nil => rfl
    | cons e ps ih =>
      obtain ⟨k, s⟩ := e
      have hrest := ih fun k s t hs ht => h k s t (List.mem_cons_of_mem _ hs) ht
      show (k, f _) :: Entries.mapValues f (mergeProperties ps ps') = (k, _) :: _
      rw [hrest, Entries.get?_mapValues]
      congr 2
      cases ht : Entries.get? ps' k with
      | none => rfl
      | some t => exact h k s t List.mem_cons_self (Entries.mem_of_get? ht)
  have hfilter : Entries.mapValues f (ps'.filter fun e => !Entries.has ps e.1) =
      (Entries.mapValues f ps').filter fun e => !Entries.has (Entries.mapValues f ps) e.1 := by
    simp only [Entries.has_mapValues]
    rw [Entries.mapValues, Entries.mapValues, List.filter_map]
    rfl
  rw [mergedProperties, mergedProperties, ← hmerge, ← hfilter, Entries.mapValues, List.map_append]
  rfl

/-- **Cutting off commutes with the merge.** The induction is on the depth: where nothing is left
both sides are unknown, and above that what is inside is one level deeper. -/
theorem truncate_merge (depth : Nat) (ha : a.Plain) (hb : b.Plain) :
    truncate depth (merge a b) = merge (truncate depth a) (truncate depth b) := by
  induction depth generalizing a b with
  | zero => rfl
  | succ depth ih =>
    -- cutting off keeps the kinds, so that both merges fall under the same case
    by_cases hkind : a.kind = b.kind
    · cases ha with
      | object hdistinct _ hps =>
        cases hb with
        | object _ _ hps' =>
          rw [merge_object hdistinct, truncate, truncate, truncate,
            merge_object (hdistinct.mapValues _),
            mapValues_mergedProperties fun k s t hs ht => ih (hps k s hs) (hps' k t ht)]
        | _ => cases hkind
      | array hitems =>
        cases hb with
        | array hitems' =>
          rw [merge_array, truncate, truncate, truncate, merge_array, ih hitems hitems']
        | _ => cases hkind
      | string =>
        cases hb with
        | string =>
          rw [merge_string]
          exact (merge_string _ _).symm
        | _ => cases hkind
      | number | boolean | null | unknown => cases hb <;> rfl
    · have hkind' : (truncate (depth + 1) a).kind ≠ (truncate (depth + 1) b).kind := by
        rw [kind_truncate, kind_truncate]
        exact hkind
      rw [merge_of_kind_ne hkind, merge_of_kind_ne hkind']
      rfl

/-- Cutting off commutes with merging a list. -/
theorem truncate_mergeAll {ss : List Schema} (depth : Nat) (hss : ∀ s ∈ ss, s.Plain) :
    truncate depth (mergeAll ss) = mergeAll (ss.map (truncate depth)) := by
  cases ss with
  | nil => cases depth <;> rfl
  | cons s ss =>
    show truncate depth (ss.foldl merge s) =
      (ss.map (truncate depth)).foldl merge (truncate depth s)
    induction ss generalizing s with
    | nil => rfl
    | cons t ss ih =>
      obtain ⟨hs, ht, hss⟩ := by simpa only [List.forall_mem_cons] using hss
      rw [List.map_cons, List.foldl_cons, List.foldl_cons, ← truncate_merge depth hs ht]
      exact ih (merge s t) (List.forall_mem_cons.2 ⟨hs.merge ht, hss⟩)

/-! ## What is inferred -/

/-- To look at fewer levels is to look at more and to cut off. The induction is on the sample. -/
theorem inferWithin_eq_truncate {depth room : Nat} {v : Json} (hkeyed : v.isKeyed = true)
    (h : depth ≤ room) : inferWithin depth v = truncate depth (inferWithin room v) := by
  induction v using Json.induct generalizing depth room with
  | null | bool b | int n | float x | str s =>
    cases depth with
    | zero => rfl
    | succ depth =>
      obtain ⟨room, rfl⟩ : ∃ n, room = n + 1 := ⟨room - 1, by omega⟩
      rfl
  | arr vs ih =>
    cases depth with
    | zero => rfl
    | succ depth =>
      obtain ⟨room, rfl⟩ : ∃ n, room = n + 1 := ⟨room - 1, by omega⟩
      rw [Json.isKeyed] at hkeyed
      have hitem : ∀ v ∈ vs, v.isKeyed = true := fun v => Json.isKeyed_of_mem_items hkeyed
      have hplain : ∀ s ∈ vs.map (inferWithin room), s.Plain := by
        intro s hs
        obtain ⟨v, hv, rfl⟩ := List.mem_map.1 hs
        exact plain_inferWithin (hitem v hv)
      have hitems :
          vs.map (inferWithin depth) = (vs.map (inferWithin room)).map (truncate depth) := by
        rw [List.map_map]
        exact List.map_congr_left fun v hv => ih v hv (hitem v hv) (Nat.le_of_succ_le_succ h)
      rw [inferWithin, inferWithin, truncate, inferItems_eq_map, inferItems_eq_map,
        truncate_mergeAll depth hplain, hitems]
  | obj es ih =>
    cases depth with
    | zero => rfl
    | succ depth =>
      obtain ⟨room, rfl⟩ : ∃ n, room = n + 1 := ⟨room - 1, by omega⟩
      rw [Json.isKeyed, Bool.and_eq_true_iff] at hkeyed
      have hmembers : Entries.mapValues (inferWithin depth) es =
          Entries.mapValues (truncate depth) (Entries.mapValues (inferWithin room) es) := by
        simp only [Entries.mapValues, List.map_map]
        refine List.map_congr_left fun e he => ?_
        obtain ⟨k, v⟩ := e
        exact congrArg (Prod.mk k) (ih k v he (Json.isKeyed_of_mem_members hkeyed.2 he)
          (Nat.le_of_succ_le_succ h))
      rw [inferWithin, inferWithin, truncate, inferMembers_eq_map, inferMembers_eq_map, hmembers]

/-- **The depth limit only truncates.** What is inferred with a smaller limit is what is inferred
with a larger one, cut off at the smaller, exactly: properties and required names are in the same
order. A limit below zero is one of zero. -/
theorem infer_eq_truncate (v : Json) (depth maxDepth : Int) (hkeyed : v.isKeyed = true)
    (h : depth ≤ maxDepth) : infer v depth = truncate depth.toNat (infer v maxDepth) :=
  inferWithin_eq_truncate hkeyed (Int.toNat_le_toNat h)

/-- Two objects whose members have the same names, with values of different shapes in them. -/
def sampleShapes : Json := .arr [
  .obj [("place", .obj [("city", .str "Bern")]), ("tags", .arr [.int 1])],
  .obj [("place", .obj [("zip", .int 3011)]), ("tags", .str "none")]]

/-- Cut off at the second level the two objects are the same, and the merge takes its short cut.
With a larger limit it sees two places and that the tags have nothing in common. -/
theorem infer_eq_truncate_sampleShapes :
    sampleShapes.isKeyed = true ∧ (2 : Int) ≤ 5 ∧
      infer sampleShapes 5 = .array none (.object none
        [("place", .object none [("city", .string none none), ("zip", .number none)] [] false),
          ("tags", .unknown none)] ["place", "tags"] false) ∧
      infer sampleShapes 2 = .array none (.object none
        [("place", .unknown none), ("tags", .unknown none)] ["place", "tags"] false) ∧
      infer sampleShapes 2 = truncate 2 (infer sampleShapes 5) := by
  have hkeyed : sampleShapes.isKeyed = true := by decide +kernel
  have hle : (2 : Int) ≤ 5 := by decide
  exact ⟨hkeyed, hle, by rfl, by rfl, infer_eq_truncate sampleShapes 2 5 hkeyed hle⟩

end Schema

end Workflow
