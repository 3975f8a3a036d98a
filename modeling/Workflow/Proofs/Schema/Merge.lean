import Mathlib.Data.List.Perm.Subperm
import Workflow.Proofs.Schema.Values
import Workflow.Schema.Merge

/-!
# Merging loses no value

What conforms to one of two schemas conforms to their merge. For the left side this asks nothing
of the right one, but the left one must be closed: a property that only the other side has is
declared by the merge, while an open object may have anything there. Schemas that are closed at
every depth, and in which no property stands twice, are called exact (`Schema.Exact`). All
schemas that are inferred are exact, and so are their merges.

Two schemas that are the same up to the order of properties are not merged, the first one is
taken. That the values of the second conform to it too is a matter of counting: as many
properties on both sides, none of them twice, and each of the first among those of the second
(`Schema.keys_subset_of_same`).
-/

namespace Workflow

namespace Schema

variable {a b s t : Schema} {ps ps' : Entries Schema} {k : String} {v : Json}

/-- **Exact schemas**: all objects in them are closed, and no property stands twice. -/
inductive Exact : Schema → Prop
  /-- An object is closed, and its properties are exact. -/
  | object {d ps required} (hdistinct : Entries.Distinct ps)
      (hproperties : ∀ k s, (k, s) ∈ ps → Exact s) : Exact (.object d ps required false)
  /-- The items of an array are exact. -/
  | array {d items} (hitems : Exact items) : Exact (.array d items)
  /-- Nothing can be open in a text. -/
  | string {d format} : Exact (.string d format)
  /-- Nothing can be open in a number. -/
  | number {d} : Exact (.number d)
  /-- Nothing can be open in a truth value. -/
  | boolean {d} : Exact (.boolean d)
  /-- Nothing can be open in null. -/
  | null {d} : Exact (.null d)
  /-- What is not known has no objects in it. -/
  | unknown {d} : Exact (.unknown d)

/-! ## The same schema -/

theorem exists_of_sameProperties (h : sameProperties ps ps' = true) (hs : (k, s) ∈ ps) :
    ∃ t, Entries.get? ps' k = some t ∧ same s t = true := by
  induction ps with
  | nil => cases hs
  | cons e ps ih =>
    obtain ⟨l, u⟩ := e
    rw [sameProperties, Bool.and_eq_true_iff] at h
    obtain heq | hs := List.mem_cons.1 hs
    · cases heq
      cases ht : Entries.get? ps' k with
      | none => simp [ht] at h
      | some t => exact ⟨t, rfl, by simpa [ht] using h.1⟩
    · exact ih h.2 hs

/-- The same properties have the same names: there are as many on both sides, and none stands
twice on the first. -/
theorem keys_subset_of_same (hdistinct : Entries.Distinct ps) (hlength : ps.length = ps'.length)
    (h : sameProperties ps ps' = true) : Entries.keys ps' ⊆ Entries.keys ps := by
  have hsub : Entries.keys ps ⊆ Entries.keys ps' := by
    intro k hk
    obtain ⟨⟨l, s⟩, hs, rfl⟩ := List.mem_map.1 hk
    obtain ⟨t, ht, -⟩ := exists_of_sameProperties h hs
    exact Entries.mem_keys_of_mem (Entries.mem_of_get? ht)
  -- as many names on both sides, so none is left over on the second
  have hperm : (Entries.keys ps).Perm (Entries.keys ps') := by
    refine (hdistinct.subperm hsub).perm_of_length_le ?_
    rw [Entries.keys, Entries.keys, List.length_map, List.length_map]
    exact Nat.le_of_eq hlength.symm
  exact hperm.symm.subset

/-- **The same schema says the same of values.** -/
theorem Conforms.of_same (ha : a.Exact) (h : same a b = true) (hv : Conforms b v) :
    Conforms a v := by
  induction a using induct generalizing b v with
  | object d ps required isOpen ih =>
    cases ha with
    | object hdistinct hps =>
      cases hv with
      | @object d' ps' required' isOpen' es hrequired hdeclared hvalues =>
        simp only [same, Bool.and_eq_true, beq_iff_eq] at h
        obtain ⟨⟨⟨⟨-, rfl⟩, rfl⟩, hlength⟩, hsame⟩ := h
        refine .object hrequired (fun _ k v hmem => ?_) fun k v s hmem hs => ?_
        · rw [Entries.has_iff_mem_keys]
          exact keys_subset_of_same hdistinct hlength hsame
            (Entries.has_iff_mem_keys.1 (hdeclared rfl k v hmem))
        · have hs := Entries.mem_of_get? hs
          obtain ⟨t, ht, hst⟩ := exists_of_sameProperties hsame hs
          exact ih k s hs (hps k s hs) hst (hvalues k v t hmem ht)
      | _ => simp [same] at h
  | array d items ih =>
    cases ha with
    | array hitems =>
      cases hv with
      | array hvs =>
        simp only [same, Bool.and_eq_true] at h
        exact .array fun v hmem => ih hitems h.2 (hvs v hmem)
      | _ => simp [same] at h
  | string d format =>
    cases hv with
    | string hformat =>
      simp only [same, Bool.and_eq_true, beq_iff_eq] at h
      exact .string (h.2 ▸ hformat)
    | _ => simp [same] at h
  | number d =>
    cases hv with
    | int => exact .int
    | float => exact .float
    | _ => simp [same] at h
  | boolean d =>
    cases hv with
    | boolean => exact .boolean
    | _ => simp [same] at h
  | null d =>
    cases hv with
    | null => exact .null
    | _ => simp [same] at h
  | unknown d => exact .unknown

/-! ## The merge -/

theorem get?_mergeProperties :
    Entries.get? (mergeProperties ps ps') k = (Entries.get? ps k).map fun s =>
      match Entries.get? ps' k with
      | some t => merge s t
      | none => s := by
  induction ps with
  | nil => rfl
  | cons e ps ih =>
    obtain ⟨l, s⟩ := e
    rw [mergeProperties, Entries.get?_cons, Entries.get?_cons]
    by_cases hl : l = k
    · subst hl
      rw [if_pos rfl, if_pos rfl]
      cases Entries.get? ps' l <;> rfl
    · rw [if_neg hl, if_neg hl, ih]

/-- The properties of a merged object: those of both sides, merged where both have one. -/
def mergedProperties (ps ps' : Entries Schema) : Entries Schema :=
  mergeProperties ps ps' ++ ps'.filter fun e => !Entries.has ps e.1

theorem get?_mergedProperties :
    Entries.get? (mergedProperties ps ps') k =
      match Entries.get? ps k, Entries.get? ps' k with
      | some s, some t => some (merge s t)
      | some s, none => some s
      | none, t => t := by
  rw [mergedProperties, Entries.get?_append, get?_mergeProperties, Entries.get?_filter_not_has,
    Entries.has]
  cases Entries.get? ps k with
  | none => rfl
  | some s =>
    cases Entries.get? ps' k with
    | none => rfl
    | some t => rfl

theorem keys_mergeProperties : Entries.keys (mergeProperties ps ps') = Entries.keys ps := by
  induction ps with
  | nil => rfl
  | cons e ps ih =>
    obtain ⟨l, s⟩ := e
    rw [mergeProperties]
    exact congrArg (l :: ·) ih

/-- A property of the merge is merged out of one on either side, or stands on one side only. -/
theorem of_get?_mergedProperties {m : Schema}
    (h : Entries.get? (mergedProperties ps ps') k = some m) :
    (∃ s t, Entries.get? ps k = some s ∧ Entries.get? ps' k = some t ∧ merge s t = m) ∨
      (Entries.get? ps k = some m ∧ Entries.get? ps' k = none) ∨
      Entries.get? ps k = none ∧ Entries.get? ps' k = some m := by
  rw [get?_mergedProperties] at h
  cases hs : Entries.get? ps k with
  | none =>
    rw [hs] at h
    exact .inr (.inr ⟨rfl, h⟩)
  | some s =>
    cases ht : Entries.get? ps' k with
    | none =>
      rw [hs, ht] at h
      exact .inr (.inl ⟨h, rfl⟩)
    | some t =>
      rw [hs, ht] at h
      exact .inl ⟨s, t, rfl, rfl, Option.some.inj h⟩

theorem has_mergedProperties :
    Entries.has (mergedProperties ps ps') k = (Entries.has ps k || Entries.has ps' k) := by
  rw [Entries.has, get?_mergedProperties, Entries.has, Entries.has]
  cases Entries.get? ps k with
  | none => rfl
  | some s => cases Entries.get? ps' k <;> rfl

theorem distinct_mergedProperties (h : Entries.Distinct ps) (h' : Entries.Distinct ps') :
    Entries.Distinct (mergedProperties ps ps') := by
  unfold Entries.Distinct
  rw [mergedProperties, Entries.keys, List.map_append]
  refine List.nodup_append.2 ⟨?_, ?_, ?_⟩
  · show (Entries.keys (mergeProperties ps ps')).Nodup
    rw [keys_mergeProperties]
    exact h
  · exact h'.sublist (List.Sublist.map _ List.filter_sublist)
  · intro k hk l hl heq
    obtain ⟨e, he, rfl⟩ := List.mem_map.1 hl
    have hnot := (List.mem_filter.1 he).2
    have hk : k ∈ Entries.keys (mergeProperties ps ps') := hk
    rw [keys_mergeProperties, heq, ← Entries.has_iff_mem_keys] at hk
    simp [hk] at hnot

theorem kind_eq_of_same (h : same a b = true) : a.kind = b.kind := by
  cases a <;> cases b <;> first | rfl | simp [same] at h

theorem merge_of_same (h : same a b = true) : merge a b = a := by
  rw [merge.eq_def, if_pos h]

theorem merge_of_kind_ne (h : a.kind ≠ b.kind) : merge a b = .unknown none := by
  have hsame : ¬ same a b = true := fun hsame => h (kind_eq_of_same hsame)
  rw [merge.eq_def, if_neg hsame]
  cases a <;> cases b <;> first | rfl | exact absurd rfl h

/-- **What the merge of two schemas is**, told along the schemas: the first one, unknown, or put
together out of the merges of what is inside. -/
inductive Merged : Schema → Schema → Schema → Prop
  /-- Two schemas that are the same. -/
  | same {a b : Schema} (h : Schema.same a b = true) : Merged a b a
  /-- Two schemas of different kinds. -/
  | kinds {a b : Schema} (h : a.kind ≠ b.kind) : Merged a b (.unknown none)
  /-- Two objects. -/
  | object {d d' ps ps' required required' o o'}
      (h : ∀ k s t, Entries.get? ps k = some s → Entries.get? ps' k = some t →
        Merged s t (merge s t)) :
      Merged (.object d ps required o) (.object d' ps' required' o')
        (.object none (mergedProperties ps ps') (required.filter required'.contains) (o || o'))
  /-- Two arrays. -/
  | array {d d' items items'} (h : Merged items items' (merge items items')) :
      Merged (.array d items) (.array d' items') (.array none (merge items items'))
  /-- Two texts. -/
  | string {d d' f f'} :
      Merged (.string d f) (.string d' f') (.string none (if f = f' then f else none))
  /-- Two numbers. -/
  | number {d d'} : Merged (.number d) (.number d') (.number d)
  /-- Two truth values. -/
  | boolean {d d'} : Merged (.boolean d) (.boolean d') (.boolean d)
  /-- Null on both sides. -/
  | null {d d'} : Merged (.null d) (.null d') (.null d)
  /-- Nothing known on both sides. -/
  | unknown {d d'} : Merged (.unknown d) (.unknown d') (.unknown d)

theorem merged_of_same (h : same a b = true) : Merged a b (merge a b) := by
  rw [merge_of_same h]
  exact .same h

theorem merged_of_kind_ne (h : a.kind ≠ b.kind) : Merged a b (merge a b) := by
  rw [merge_of_kind_ne h]
  exact .kinds h

/-- The merge is what it is told to be. -/
theorem merged_merge (a b : Schema) : Merged a b (merge a b) := by
  by_cases hsame : same a b = true
  · exact merged_of_same hsame
  induction a using induct generalizing b with
  | object d ps required o ih =>
    cases b with
    | object d' ps' required' o' =>
      rw [merge, if_neg hsame]
      refine .object fun k s t hs _ => ?_
      -- two properties may be the same though the objects are not
      by_cases hst : same s t = true
      · exact merged_of_same hst
      · exact ih k s (Entries.mem_of_get? hs) t hst
    | _ => exact merged_of_kind_ne nofun
  | array d items ih =>
    cases b with
    | array d' items' =>
      rw [merge, if_neg hsame]
      by_cases hitems : same items items' = true
      · exact .array (merged_of_same hitems)
      · exact .array (ih items' hitems)
    | _ => exact merged_of_kind_ne nofun
  | string d f =>
    cases b with
    | string d' f' =>
      rw [merge, if_neg hsame]
      exact .string
    | _ => exact merged_of_kind_ne nofun
  | number d =>
    cases b with
    | number d' =>
      rw [merge, if_neg hsame]
      exact .number
    | _ => exact merged_of_kind_ne nofun
  | boolean d =>
    cases b with
    | boolean d' =>
      rw [merge, if_neg hsame]
      exact .boolean
    | _ => exact merged_of_kind_ne nofun
  | null d =>
    cases b with
    | null d' =>
      rw [merge, if_neg hsame]
      exact .null
    | _ => exact merged_of_kind_ne nofun
  | unknown d =>
    cases b with
    | unknown d' =>
      rw [merge, if_neg hsame]
      exact .unknown
    | _ => exact merged_of_kind_ne nofun

/-- **What conforms to the left side** conforms to the merge, if the left side is exact. -/
theorem Conforms.of_merged_left {m : Schema} (h : Merged a b m) (ha : a.Exact)
    (hv : Conforms a v) : Conforms m v := by
  induction h generalizing v with
  | same => exact hv
  | kinds => exact .unknown
  | object _ ih =>
    cases ha with
    | object hdistinct hps =>
      cases hv with
      | object hrequired hdeclared hvalues =>
        refine .object (fun name hname => hrequired name (List.mem_of_mem_filter hname))
          (fun _ k v hmem => ?_) fun k v m hmem hm => ?_
        · rw [has_mergedProperties, hdeclared rfl k v hmem, Bool.true_or]
        · obtain ⟨s, t, hs, ht, rfl⟩ | ⟨hs, -⟩ | ⟨hnone, -⟩ := of_get?_mergedProperties hm
          · exact ih k s t hs ht (hps k s (Entries.mem_of_get? hs)) (hvalues k v s hmem hs)
          · exact hvalues k v m hmem hs
          · -- the left side is closed, so that it declares the key
            obtain ⟨s, hs⟩ := Entries.has_iff.1 (hdeclared rfl k v hmem)
            rw [hnone] at hs
            cases hs
  | array _ ih =>
    cases ha with
    | array hitems =>
      cases hv with
      | array hvs => exact .array fun v hmem => ih hitems (hvs v hmem)
  | string =>
    cases hv with
    | string hformat =>
      refine .string fun name hname => ?_
      split at hname
      · exact hformat name hname
      · cases hname
  | number =>
    cases hv with
    | int => exact .int
    | float => exact .float
  | boolean =>
    cases hv with
    | boolean => exact .boolean
  | null =>
    cases hv with
    | null => exact .null
  | unknown => exact .unknown

/-- **What conforms to the right side** conforms to the merge, if both sides are exact. -/
theorem Conforms.of_merged_right {m : Schema} (h : Merged a b m) (ha : a.Exact) (hb : b.Exact)
    (hv : Conforms b v) : Conforms m v := by
  induction h generalizing v with
  | same hsame => exact hv.of_same ha hsame
  | kinds => exact .unknown
  | object _ ih =>
    cases ha with
    | object hdistinct hps =>
      cases hb with
      | object hdistinct' hps' =>
        cases hv with
        | object hrequired hdeclared hvalues =>
          refine .object (fun name hname => hrequired name ?_) (fun _ k v hmem => ?_)
            fun k v m hmem hm => ?_
          · simpa using (List.mem_filter.1 hname).2
          · rw [has_mergedProperties, hdeclared rfl k v hmem, Bool.or_true]
          · obtain ⟨s, t, hs, ht, rfl⟩ | ⟨-, hnone⟩ | ⟨-, ht⟩ := of_get?_mergedProperties hm
            · exact ih k s t hs ht (hps k s (Entries.mem_of_get? hs))
                (hps' k t (Entries.mem_of_get? ht)) (hvalues k v t hmem ht)
            · -- the right side is closed, so that it declares the key
              obtain ⟨t, ht⟩ := Entries.has_iff.1 (hdeclared rfl k v hmem)
              rw [hnone] at ht
              cases ht
            · exact hvalues k v m hmem ht
  | array _ ih =>
    cases ha with
    | array hitems =>
      cases hb with
      | array hitems' =>
        cases hv with
        | array hvs => exact .array fun v hmem => ih hitems hitems' (hvs v hmem)
  | string =>
    cases hv with
    | string hformat =>
      refine .string fun name hname => ?_
      split at hname
      · next hf =>
        rw [hf] at hname
        exact hformat name hname
      · cases hname
  | number =>
    cases hv with
    | int => exact .int
    | float => exact .float
  | boolean =>
    cases hv with
    | boolean => exact .boolean
  | null =>
    cases hv with
    | null => exact .null
  | unknown => exact .unknown

/-- **The merge of exact schemas is exact.** -/
theorem Exact.of_merged {m : Schema} (h : Merged a b m) (ha : a.Exact) (hb : b.Exact) :
    m.Exact := by
  induction h with
  | same => exact ha
  | kinds => exact .unknown
  | object _ ih =>
    cases ha with
    | object hdistinct hps =>
      cases hb with
      | object hdistinct' hps' =>
        have hmerged := distinct_mergedProperties hdistinct hdistinct'
        refine .object hmerged fun k m hm => ?_
        obtain ⟨s, t, hs, ht, rfl⟩ | ⟨hs, -⟩ | ⟨-, ht⟩ :=
          of_get?_mergedProperties (Entries.get?_of_mem hmerged hm)
        · exact ih k s t hs ht (hps k s (Entries.mem_of_get? hs)) (hps' k t (Entries.mem_of_get? ht))
        · exact hps k m (Entries.mem_of_get? hs)
        · exact hps' k m (Entries.mem_of_get? ht)
  | array _ ih =>
    cases ha with
    | array hitems =>
      cases hb with
      | array hitems' => exact .array (ih hitems hitems')
  | string => exact .string
  | number => exact .number
  | boolean => exact .boolean
  | null => exact .null
  | unknown => exact .unknown

/-! ## Merging a list -/

theorem Conforms.merge_left (ha : a.Exact) (hv : Conforms a v) : Conforms (merge a b) v :=
  hv.of_merged_left (merged_merge a b) ha

theorem Conforms.merge_right (ha : a.Exact) (hb : b.Exact) (hv : Conforms b v) :
    Conforms (merge a b) v :=
  hv.of_merged_right (merged_merge a b) ha hb

theorem Exact.merge (ha : a.Exact) (hb : b.Exact) : (merge a b).Exact :=
  ha.of_merged (merged_merge a b) hb

/-- What conforms to the first schema or to one of the others conforms to what they are merged
to, one after the other. -/
theorem Conforms.foldl_merge {ss : List Schema} (ha : a.Exact) (hss : ∀ s ∈ ss, s.Exact)
    (hv : Conforms a v ∨ ∃ s ∈ ss, Conforms s v) : Conforms (ss.foldl Schema.merge a) v := by
  induction ss generalizing a with
  | nil =>
    obtain hv | ⟨s, hs, -⟩ := hv
    · exact hv
    · cases hs
  | cons t ss ih =>
    have ht := hss t List.mem_cons_self
    refine ih (ha.merge ht) (fun s hs => hss s (List.mem_cons_of_mem _ hs)) ?_
    obtain hv | ⟨s, hs, hv⟩ := hv
    · exact .inl (hv.merge_left ha)
    · obtain rfl | hs := List.mem_cons.1 hs
      · exact .inl (hv.merge_right ha ht)
      · exact .inr ⟨s, hs, hv⟩

theorem Exact.foldl_merge {ss : List Schema} (ha : a.Exact) (hss : ∀ s ∈ ss, s.Exact) :
    (ss.foldl Schema.merge a).Exact := by
  induction ss generalizing a with
  | nil => exact ha
  | cons t ss ih =>
    exact ih (ha.merge (hss t List.mem_cons_self)) fun s hs => hss s (List.mem_cons_of_mem _ hs)

/-- **What conforms to one of the schemas of a list** conforms to their merge. -/
theorem Conforms.mergeAll {ss : List Schema} (hss : ∀ s ∈ ss, s.Exact) (hs : s ∈ ss)
    (hv : Conforms s v) : Conforms (mergeAll ss) v := by
  cases ss with
  | nil => cases hs
  | cons t ss =>
    refine Conforms.foldl_merge (hss t List.mem_cons_self)
      (fun u hu => hss u (List.mem_cons_of_mem _ hu)) ?_
    obtain rfl | hs := List.mem_cons.1 hs
    · exact .inl hv
    · exact .inr ⟨s, hs, hv⟩

theorem Exact.mergeAll {ss : List Schema} (hss : ∀ s ∈ ss, s.Exact) : (mergeAll ss).Exact := by
  cases ss with
  | nil => exact .unknown
  | cons t ss =>
    exact (hss t List.mem_cons_self).foldl_merge fun u hu => hss u (List.mem_cons_of_mem _ hu)

end Schema

end Workflow
