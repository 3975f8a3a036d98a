import Mathlib.Order.Bounds.Basic
import Workflow.Proofs.Schema.Inference

/-!
# Merging is a least upper bound

One schema is looser than another when it rules out less: it declares at least the same
properties, requires no others, has a format only if the other one has the same, and knows nothing
where the two are of different kinds (`Schema.Below`). The merge of two schemas is the least one
that is looser than both, and the merge of a list the least that is looser than all of its items.

That is all there is to say about the order in which schemas are merged. A least upper bound does
not depend on the order in which the bounded are told, so merging is commutative, associative and
idempotent, and what is inferred from a list does not depend on the order of its items. It is
determined only up to the order of properties and of required names, which the looseness does not
look at (`Schema.Alike`).

The merge takes a short cut where two schemas are the same, and this equality looks at the order
of required names. The short cut is harmless: schemas that are the same are equally loose.
-/

namespace Workflow

namespace Schema

variable {a b c s t : Schema} {ps ps' : Entries Schema} {k : String}

/-! ## Schemas up to order -/

/-- **The same schema up to order**: the same properties and the same required names, in whatever
order, at every depth. -/
inductive Alike : Schema → Schema → Prop
  /-- Objects whose properties are alike name by name. -/
  | object {d ps ps' required required' o}
      (hnames : (Entries.keys ps).Perm (Entries.keys ps'))
      (hproperties : ∀ k s t, Entries.get? ps k = some s → Entries.get? ps' k = some t → Alike s t)
      (hrequired : required.Perm required') :
      Alike (.object d ps required o) (.object d ps' required' o)
  /-- Arrays whose items are alike. -/
  | array {d items items'} (h : Alike items items') : Alike (.array d items) (.array d items')
  /-- Texts of the same format. -/
  | string {d format} : Alike (.string d format) (.string d format)
  /-- Numbers. -/
  | number {d} : Alike (.number d) (.number d)
  /-- Truth values. -/
  | boolean {d} : Alike (.boolean d) (.boolean d)
  /-- Null on both sides. -/
  | null {d} : Alike (.null d) (.null d)
  /-- Nothing known on both sides. -/
  | unknown {d} : Alike (.unknown d) (.unknown d)

/-- **Plain schemas**: nothing in them has a description, and neither a property nor a required
name stands twice. -/
inductive Plain : Schema → Prop
  /-- An object whose properties are plain. -/
  | object {ps required o} (hdistinct : Entries.Distinct ps) (hrequired : required.Nodup)
      (hproperties : ∀ k s, (k, s) ∈ ps → Plain s) : Plain (.object none ps required o)
  /-- An array whose items are plain. -/
  | array {items} (hitems : Plain items) : Plain (.array none items)
  /-- A text. -/
  | string {format} : Plain (.string none format)
  /-- A number. -/
  | number : Plain (.number none)
  /-- A truth value. -/
  | boolean : Plain (.boolean none)
  /-- Null. -/
  | null : Plain (.null none)
  /-- Nothing known. -/
  | unknown : Plain (.unknown none)

/-! ## Looseness -/

/-- **The second schema is at least as loose** as the first one. Descriptions do not count. -/
inductive Below : Schema → Schema → Prop
  /-- Nothing is looser than what is not known. -/
  | unknown {a d} : Below a (.unknown d)
  /-- A looser object declares at least the same properties, each of them at least as loose, and
  requires no other names. -/
  | object {d d' ps ps' required required' o o'}
      (hdeclared : ∀ k, Entries.has ps k = true → Entries.has ps' k = true)
      (hproperties : ∀ k s t, Entries.get? ps k = some s → Entries.get? ps' k = some t → Below s t)
      (hrequired : required' ⊆ required) (hopen : o = true → o' = true) :
      Below (.object d ps required o) (.object d' ps' required' o')
  /-- The items of a looser array are at least as loose. -/
  | array {d d' items items'} (h : Below items items') : Below (.array d items) (.array d' items')
  /-- A looser text has no other format. -/
  | string {d d' f f'} (hformat : ∀ name, f' = some name → f = some name) :
      Below (.string d f) (.string d' f')
  /-- Numbers are equally loose. -/
  | number {d d'} : Below (.number d) (.number d')
  /-- Truth values are equally loose. -/
  | boolean {d d'} : Below (.boolean d) (.boolean d')
  /-- Null is as loose as null. -/
  | null {d d'} : Below (.null d) (.null d')

theorem Below.refl (a : Schema) : Below a a := by
  induction a using induct with
  | object d ps required o ih =>
    refine .object (fun _ h => h) (fun k s t hs ht => ?_) (List.Subset.refl _) fun h => h
    obtain rfl : s = t := Option.some.inj (hs.symm.trans ht)
    exact ih k s (Entries.mem_of_get? hs)
  | array d items ih => exact .array ih
  | string d format => exact .string fun _ h => h
  | number d => exact .number
  | boolean d => exact .boolean
  | null d => exact .null
  | unknown d => exact .unknown

theorem Below.trans (hab : Below a b) (hbc : Below b c) : Below a c := by
  induction hab generalizing c with
  | unknown =>
    cases hbc with
    | unknown => exact .unknown
  | object hdeclared hproperties hrequired hopen ih =>
    cases hbc with
    | unknown => exact .unknown
    | object hdeclared' hproperties' hrequired' hopen' =>
      refine .object (fun k h => hdeclared' k (hdeclared k h)) (fun k s u hs hu => ?_)
        (List.Subset.trans hrequired' hrequired) fun h => hopen' (hopen h)
      -- the property in the middle is there because the first one is
      obtain ⟨t, ht⟩ := Entries.has_iff.1 (hdeclared k (Entries.has_iff.2 ⟨s, hs⟩))
      exact ih k s t hs ht (hproperties' k t u ht hu)
  | array _ ih =>
    cases hbc with
    | unknown => exact .unknown
    | array h => exact .array (ih h)
  | string hformat =>
    cases hbc with
    | unknown => exact .unknown
    | string hformat' => exact .string fun name h => hformat name (hformat' name h)
  | number =>
    cases hbc with
    | unknown => exact .unknown
    | number => exact .number
  | boolean =>
    cases hbc with
    | unknown => exact .unknown
    | boolean => exact .boolean
  | null =>
    cases hbc with
    | unknown => exact .unknown
    | null => exact .null

/-- Schemas are ordered by how loose they are. -/
instance : Preorder Schema where
  le := Below
  le_refl := Below.refl
  le_trans _ _ _ := Below.trans

theorem keys_subset_of_declared
    (h : ∀ k, Entries.has ps k = true → Entries.has ps' k = true) :
    Entries.keys ps ⊆ Entries.keys ps' :=
  fun k hk => Entries.has_iff_mem_keys.1 (h k (Entries.has_iff_mem_keys.2 hk))

/-- **Equally loose schemas** are the same up to order. -/
theorem Below.antisymm (hab : Below a b) (hba : Below b a) (ha : a.Plain) (hb : b.Plain) :
    Alike a b := by
  induction hab with
  | unknown =>
    cases hba with
    | unknown =>
      cases ha
      cases hb
      exact .unknown
  | object hdeclared _ hrequired hopen ih =>
    cases hba with
    | object hdeclared' hproperties' hrequired' hopen' =>
      cases ha with
      | object hdistinct hnodup hps =>
        cases hb with
        | object hdistinct' hnodup' hps' =>
          obtain rfl := Bool.eq_iff_iff.2 ⟨hopen, hopen'⟩
          refine .object ?_ (fun k s t hs ht => ?_) ?_
          · exact (List.perm_ext_iff_of_nodup hdistinct hdistinct').2 fun _ =>
              ⟨fun hk => keys_subset_of_declared hdeclared hk,
                fun hk => keys_subset_of_declared hdeclared' hk⟩
          · exact ih k s t hs ht (hproperties' k t s ht hs) (hps k s (Entries.mem_of_get? hs))
              (hps' k t (Entries.mem_of_get? ht))
          · exact (List.perm_ext_iff_of_nodup hnodup hnodup').2 fun _ =>
              ⟨fun hname => hrequired' hname, fun hname => hrequired hname⟩
  | array _ ih =>
    cases hba with
    | array h =>
      cases ha with
      | array hitems =>
        cases hb with
        | array hitems' => exact .array (ih h hitems hitems')
  | @string _ _ f f' hformat =>
    cases hba with
    | string hformat' =>
      cases ha
      cases hb
      obtain rfl : f = f' := Option.ext fun name => ⟨hformat' name, hformat name⟩
      exact .string
  | number =>
    cases ha
    cases hb
    exact .number
  | boolean =>
    cases ha
    cases hb
    exact .boolean
  | null =>
    cases ha
    cases hb
    exact .null

/-- Two least upper bounds of the same schemas are the same up to order. -/
theorem alike_of_isLUB {S : Set Schema} (ha : a.Plain) (hb : b.Plain) (h : IsLUB S a)
    (h' : IsLUB S b) : Alike a b :=
  Below.antisymm (h.2 h'.1) (h'.2 h.1) ha hb

/-! ## The merge -/

/-- Schemas that are the same are equally loose. -/
theorem le_of_same (ha : a.Plain) (h : same a b = true) : b ≤ a := by
  induction ha generalizing b with
  | @object ps required o hdistinct _ _ ih =>
    cases b with
    | object d' ps' required' o' =>
      simp only [same, Bool.and_eq_true, beq_iff_eq] at h
      obtain ⟨⟨⟨⟨-, rfl⟩, rfl⟩, hlength⟩, hsame⟩ := h
      refine Below.object (fun k hk => ?_) (fun k t s ht hs => ?_) (List.Subset.refl _) fun h => h
      · rw [Entries.has_iff_mem_keys] at hk ⊢
        exact keys_subset_of_same hdistinct hlength hsame hk
      · have hs := Entries.mem_of_get? hs
        obtain ⟨u, hu, hsu⟩ := exists_of_sameProperties hsame hs
        obtain rfl : t = u := Option.some.inj (ht.symm.trans hu)
        exact ih k s hs hsu
    | _ => simp [same] at h
  | array _ ih =>
    cases b with
    | array d' items' =>
      simp only [same, Bool.and_eq_true] at h
      exact Below.array (ih h.2)
    | _ => simp [same] at h
  | string =>
    cases b with
    | string d' format' =>
      simp only [same, Bool.and_eq_true, beq_iff_eq] at h
      exact Below.string fun _ hname => h.2.symm.trans hname
    | _ => simp [same] at h
  | number =>
    cases b with
    | number => exact Below.number
    | _ => simp [same] at h
  | boolean =>
    cases b with
    | boolean => exact Below.boolean
    | _ => simp [same] at h
  | null =>
    cases b with
    | null => exact Below.null
    | _ => simp [same] at h
  | unknown => exact Below.unknown

theorem le_merged_left {m : Schema} (h : Merged a b m) : a ≤ m := by
  induction h with
  | same => exact Below.refl _
  | kinds => exact Below.unknown
  | object _ ih =>
    refine Below.object (fun k hk => ?_) (fun k s m hs hm => ?_)
      (fun _ hname => List.mem_of_mem_filter hname) fun ho => ?_
    · rw [has_mergedProperties, hk, Bool.true_or]
    · obtain ⟨u, t, hu, ht, rfl⟩ | ⟨hu, -⟩ | ⟨hnone, -⟩ := of_get?_mergedProperties hm
      · obtain rfl : s = u := Option.some.inj (hs.symm.trans hu)
        exact ih k s t hs ht
      · obtain rfl : s = m := Option.some.inj (hs.symm.trans hu)
        exact Below.refl s
      · rw [hnone] at hs
        cases hs
    · rw [ho, Bool.true_or]
  | array _ ih => exact Below.array ih
  | @string _ _ f f' =>
    refine Below.string fun name hname => ?_
    split at hname
    · exact hname
    · cases hname
  | number => exact Below.number
  | boolean => exact Below.boolean
  | null => exact Below.null
  | unknown => exact Below.unknown

theorem le_merged_right {m : Schema} (h : Merged a b m) (ha : a.Plain) : b ≤ m := by
  induction h with
  | same hsame => exact le_of_same ha hsame
  | kinds => exact Below.unknown
  | object _ ih =>
    cases ha with
    | object _ _ hps =>
      refine Below.object (fun k hk => ?_) (fun k t m ht hm => ?_) (fun _ hname => ?_) fun ho => ?_
      · rw [has_mergedProperties, hk, Bool.or_true]
      · obtain ⟨s, u, hs, hu, rfl⟩ | ⟨-, hnone⟩ | ⟨-, hu⟩ := of_get?_mergedProperties hm
        · obtain rfl : t = u := Option.some.inj (ht.symm.trans hu)
          exact ih k s t hs ht (hps k s (Entries.mem_of_get? hs))
        · rw [hnone] at ht
          cases ht
        · obtain rfl : t = m := Option.some.inj (ht.symm.trans hu)
          exact Below.refl t
      · simpa using (List.mem_filter.1 hname).2
      · rw [ho, Bool.or_true]
  | array _ ih =>
    cases ha with
    | array hitems => exact Below.array (ih hitems)
  | string =>
    refine Below.string fun name hname => ?_
    split at hname
    · next hf => exact hf ▸ hname
    · cases hname
  | number => exact Below.number
  | boolean => exact Below.boolean
  | null => exact Below.null
  | unknown => exact Below.unknown

/-- A looser schema is of the same kind, unless it knows nothing. -/
theorem kind_eq_of_below (h : Below a c) : (∃ d, c = .unknown d) ∨ a.kind = c.kind := by
  cases h with
  | @unknown _ d => exact .inl ⟨d, rfl⟩
  | _ => exact .inr rfl

/-- **The merge is the least** that is looser than both sides. -/
theorem merged_le {m : Schema} (h : Merged a b m) (hac : Below a c) (hbc : Below b c) :
    Below m c := by
  induction h generalizing c with
  | same => exact hac
  | kinds hkinds =>
    obtain ⟨d, rfl⟩ | ha := kind_eq_of_below hac
    · exact .unknown
    · obtain ⟨d, rfl⟩ | hb := kind_eq_of_below hbc
      · exact .unknown
      · exact absurd (ha.trans hb.symm) hkinds
  | object _ ih =>
    cases hac with
    | unknown => exact .unknown
    | object hdeclared hproperties hrequired hopen =>
      cases hbc with
      | object hdeclared' hproperties' hrequired' hopen' =>
        refine .object (fun k hk => ?_) (fun k m u hm hu => ?_) (fun name hname => ?_) fun ho => ?_
        · rw [has_mergedProperties, Bool.or_eq_true] at hk
          exact hk.elim (hdeclared k) (hdeclared' k)
        · obtain ⟨s, t, hs, ht, rfl⟩ | ⟨hs, -⟩ | ⟨-, ht⟩ := of_get?_mergedProperties hm
          · exact ih k s t hs ht (hproperties k s u hs hu) (hproperties' k t u ht hu)
          · exact hproperties k m u hs hu
          · exact hproperties' k m u ht hu
        · exact List.mem_filter.2 ⟨hrequired hname, by simpa using hrequired' hname⟩
        · exact (Bool.or_eq_true_iff.1 ho).elim hopen hopen'
  | array _ ih =>
    cases hac with
    | unknown => exact .unknown
    | array h =>
      cases hbc with
      | array h' => exact .array (ih h h')
  | string =>
    cases hac with
    | unknown => exact .unknown
    | string hformat =>
      cases hbc with
      | string hformat' =>
        refine .string fun name hname => ?_
        rw [hformat name hname, hformat' name hname, if_pos rfl]
  | number =>
    cases hac with
    | unknown => exact .unknown
    | number => exact .number
  | boolean =>
    cases hac with
    | unknown => exact .unknown
    | boolean => exact .boolean
  | null =>
    cases hac with
    | unknown => exact .unknown
    | null => exact .null
  | unknown =>
    cases hac with
    | unknown => exact .unknown

/-- **The merge is the least upper bound** of the two schemas. -/
theorem isLUB_merge (ha : a.Plain) (b : Schema) : IsLUB {a, b} (merge a b) := by
  have h := merged_merge a b
  constructor
  · rintro s (rfl | rfl)
    · exact le_merged_left h
    · exact le_merged_right h ha
  · intro c hc
    exact merged_le h (hc (.inl rfl)) (hc (.inr rfl))

/-- The merge of plain schemas is plain. -/
theorem Plain.of_merged {m : Schema} (h : Merged a b m) (ha : a.Plain) (hb : b.Plain) :
    m.Plain := by
  induction h with
  | same => exact ha
  | kinds => exact .unknown
  | object _ ih =>
    cases ha with
    | object hdistinct hrequired hps =>
      cases hb with
      | object hdistinct' hrequired' hps' =>
        have hmerged := distinct_mergedProperties hdistinct hdistinct'
        refine .object hmerged (hrequired.sublist List.filter_sublist) fun k m hm => ?_
        obtain ⟨s, t, hs, ht, rfl⟩ | ⟨hs, -⟩ | ⟨-, ht⟩ :=
          of_get?_mergedProperties (Entries.get?_of_mem hmerged hm)
        · exact ih k s t hs ht (hps k s (Entries.mem_of_get? hs))
            (hps' k t (Entries.mem_of_get? ht))
        · exact hps k m (Entries.mem_of_get? hs)
        · exact hps' k m (Entries.mem_of_get? ht)
  | array _ ih =>
    cases ha with
    | array hitems =>
      cases hb with
      | array hitems' => exact .array (ih hitems hitems')
  | string => exact .string
  | number =>
    cases ha
    exact .number
  | boolean =>
    cases ha
    exact .boolean
  | null =>
    cases ha
    exact .null
  | unknown =>
    cases ha
    exact .unknown

theorem Plain.merge (ha : a.Plain) (hb : b.Plain) : (merge a b).Plain :=
  ha.of_merged (merged_merge a b) hb

/-! ## Merging a list -/

/-- The least upper bound of two sets is that of their least upper bounds. -/
theorem isLUB_union {S T : Set Schema} (ha : IsLUB S a) (hb : IsLUB T b) (hc : IsLUB {a, b} c) :
    IsLUB (S ∪ T) c := by
  constructor
  · rintro s (hs | hs)
    · exact le_trans (ha.1 hs) (hc.1 (.inl rfl))
    · exact le_trans (hb.1 hs) (hc.1 (.inr rfl))
  · intro d hd
    refine hc.2 ?_
    rintro s (rfl | rfl)
    · exact ha.2 fun t ht => hd (.inl ht)
    · exact hb.2 fun t ht => hd (.inr ht)

/-- The merge with one schema more bounds that schema as well. -/
theorem isLUB_merge_of_isLUB {S T : Set Schema} (hplain : a.Plain) (ha : IsLUB S a)
    (hb : IsLUB T b) : IsLUB (S ∪ T) (merge a b) :=
  isLUB_union ha hb (isLUB_merge hplain b)

theorem Plain.foldl_merge {ss : List Schema} (ha : a.Plain) (hss : ∀ s ∈ ss, s.Plain) :
    (ss.foldl Schema.merge a).Plain := by
  induction ss generalizing a with
  | nil => exact ha
  | cons t ss ih =>
    exact ih (ha.merge (hss t List.mem_cons_self)) fun s hs => hss s (List.mem_cons_of_mem _ hs)

theorem Plain.mergeAll {ss : List Schema} (hss : ∀ s ∈ ss, s.Plain) : (mergeAll ss).Plain := by
  cases ss with
  | nil => exact .unknown
  | cons t ss =>
    exact (hss t List.mem_cons_self).foldl_merge fun s hs => hss s (List.mem_cons_of_mem _ hs)

/-- Schemas that are merged one after the other into one that bounds others. -/
theorem isLUB_foldl_merge {S : Set Schema} {ss : List Schema} (hplain : a.Plain)
    (hss : ∀ s ∈ ss, s.Plain) (ha : IsLUB S a) :
    IsLUB (S ∪ {s | s ∈ ss}) (ss.foldl merge a) := by
  induction ss generalizing a S with
  | nil => simpa using ha
  | cons t ss ih =>
    have ht := hss t List.mem_cons_self
    have hall := ih (hplain.merge ht) (fun s hs => hss s (List.mem_cons_of_mem _ hs))
      (isLUB_merge_of_isLUB hplain ha (isLUB_singleton (a := t)))
    have hcons : {s | s ∈ t :: ss} = {t} ∪ {s | s ∈ ss} := Set.ext fun s => by simp
    rw [hcons, ← Set.union_assoc]
    exact hall

/-- **The merge of a list is the least upper bound** of its items. -/
theorem isLUB_mergeAll {ss : List Schema} (hss : ∀ s ∈ ss, s.Plain) (hne : ss ≠ []) :
    IsLUB {s | s ∈ ss} (mergeAll ss) := by
  cases ss with
  | nil => exact absurd rfl hne
  | cons t ss =>
    have hall := isLUB_foldl_merge (hss t List.mem_cons_self)
      (fun s hs => hss s (List.mem_cons_of_mem _ hs)) (isLUB_singleton (a := t))
    have hcons : {s | s ∈ t :: ss} = {t} ∪ {s | s ∈ ss} := Set.ext fun s => by simp
    rw [hcons]
    exact hall

/-- The order of a list does not matter when it is merged. -/
theorem alike_mergeAll {ss ts : List Schema} (h : ss.Perm ts) (hss : ∀ s ∈ ss, s.Plain) :
    Alike (mergeAll ss) (mergeAll ts) := by
  by_cases hne : ss = []
  · subst hne
    obtain rfl := h.nil_eq
    exact .unknown
  · have hts : ∀ s ∈ ts, s.Plain := fun s hs => hss s (h.mem_iff.2 hs)
    have hset : {s | s ∈ ts} = {s | s ∈ ss} := Set.ext fun s => h.mem_iff.symm
    have hlub := isLUB_mergeAll hts fun hnil => hne (List.perm_nil.1 (hnil ▸ h))
    exact alike_of_isLUB (Plain.mergeAll hss) (Plain.mergeAll hts) (isLUB_mergeAll hss hne)
      (hset ▸ hlub)

/-! ## What is inferred -/

/-- **What is inferred is plain.** -/
theorem plain_inferWithin {room : Nat} {v : Json} (h : v.isKeyed = true) :
    (inferWithin room v).Plain := by
  induction v using Json.induct generalizing room with
  | null | bool b | int n | float x | str s =>
    cases room with
    | zero => exact .unknown
    | succ room => constructor
  | arr vs ih =>
    cases room with
    | zero => exact .unknown
    | succ room =>
      rw [Json.isKeyed] at h
      rw [inferWithin, inferItems_eq_map]
      refine .array (Plain.mergeAll fun s hs => ?_)
      obtain ⟨v, hv, rfl⟩ := List.mem_map.1 hs
      exact ih v hv (Json.isKeyed_of_mem_items h hv)
  | obj es ih =>
    cases room with
    | zero => exact .unknown
    | succ room =>
      rw [Json.isKeyed, Bool.and_eq_true_iff, decide_eq_true_iff] at h
      obtain ⟨hdistinct, hmembers⟩ := h
      rw [inferWithin]
      refine .object ?_ hdistinct fun k s hs => ?_
      · rw [Entries.Distinct, keys_inferMembers]
        exact hdistinct
      · obtain ⟨v, hv, rfl⟩ := mem_inferMembers.1 hs
        exact ih k v hv (Json.isKeyed_of_mem_members hmembers hv)

/-- What is inferred from a list does not depend on the order of its items. -/
theorem alike_inferWithin_arr {room : Nat} {vs ws : List Json} (h : vs.Perm ws)
    (hkeyed : (Json.arr vs).isKeyed = true) :
    Alike (inferWithin room (.arr vs)) (inferWithin room (.arr ws)) := by
  cases room with
  | zero => exact .unknown
  | succ room =>
    rw [Json.isKeyed] at hkeyed
    rw [inferWithin, inferWithin, inferItems_eq_map, inferItems_eq_map]
    refine .array (alike_mergeAll (h.map _) fun s hs => ?_)
    obtain ⟨v, hv, rfl⟩ := List.mem_map.1 hs
    exact plain_inferWithin (Json.isKeyed_of_mem_items hkeyed hv)

/-- **Merging is a semilattice**, up to the order of properties and of required names: it is
commutative, associative and idempotent for plain schemas. All schemas that are inferred are plain,
and so what is inferred from a list is the same for every order of its items, down to any depth. -/
theorem merge_semilattice :
    (∀ a b : Schema, a.Plain → b.Plain → Alike (merge a b) (merge b a)) ∧
      (∀ a b c : Schema, a.Plain → b.Plain → c.Plain →
        Alike (merge a (merge b c)) (merge (merge a b) c)) ∧
      (∀ a : Schema, a.Plain → Alike (merge a a) a) ∧
      (∀ (v : Json) (maxDepth : Int), v.isKeyed = true → (infer v maxDepth).Plain) ∧
      ∀ (vs ws : List Json) (maxDepth : Int), (Json.arr vs).isKeyed = true → vs.Perm ws →
        Alike (infer (.arr vs) maxDepth) (infer (.arr ws) maxDepth) := by
  refine ⟨fun a b ha hb => ?_, fun a b c ha hb hc => ?_, fun a ha => ?_,
    fun v maxDepth h => plain_inferWithin h, fun vs ws maxDepth hkeyed h => ?_⟩
  · have hba : IsLUB {a, b} (merge b a) := Set.pair_comm b a ▸ isLUB_merge hb a
    exact alike_of_isLUB (ha.merge hb) (hb.merge ha) (isLUB_merge ha b) hba
  · -- both sides are the least upper bound of all three
    have hleft : IsLUB ({a} ∪ {b, c}) (merge a (merge b c)) :=
      isLUB_merge_of_isLUB ha isLUB_singleton (isLUB_merge hb c)
    have hright : IsLUB ({a, b} ∪ {c}) (merge (merge a b) c) :=
      isLUB_merge_of_isLUB (ha.merge hb) (isLUB_merge ha b) isLUB_singleton
    have hset : ({a, b} ∪ {c} : Set Schema) = {a} ∪ {b, c} := Set.union_assoc {a} {b} {c}
    exact alike_of_isLUB (ha.merge (hb.merge hc)) ((ha.merge hb).merge hc) hleft (hset ▸ hright)
  · have hself : IsLUB {a, a} a := (Set.pair_eq_singleton a).symm ▸ isLUB_singleton
    exact alike_of_isLUB (ha.merge ha) ha (isLUB_merge ha a) hself
  · exact alike_inferWithin_arr h hkeyed

/-- An object with a day. -/
def sampleDated : Json := .obj [("id", .int 1), ("day", .str "2024-01-01")]

/-- An object with the same keys in the other order, and with no day. -/
def sampleVague : Json := .obj [("day", .str "soon"), ("id", .int 2)]

/-- An object with another key. -/
def sampleNoted : Json := .obj [("note", .null), ("id", .str "c")]

/-- Three objects and what they show. The order in which they are merged is seen in the order of
the properties and of the required names, and in nothing else. -/
theorem merge_semilattice_samples :
    (let a := infer sampleDated 5
      let b := infer sampleVague 5
      let c := infer sampleNoted 5
      (a.Plain ∧ b.Plain ∧ c.Plain) ∧ Alike (merge a b) (merge b a) ∧
        Alike (merge a (merge b c)) (merge (merge a b) c) ∧ Alike (merge b b) b) ∧
      (Json.arr [sampleDated, sampleVague, sampleNoted]).isKeyed = true ∧
      [sampleDated, sampleVague, sampleNoted].Perm [sampleNoted, sampleVague, sampleDated] ∧
      infer (.arr [sampleDated, sampleVague, sampleNoted]) 5 = .array none (.object none
        [("id", .unknown none), ("day", .string none none), ("note", .null none)] ["id"] false) ∧
      infer (.arr [sampleNoted, sampleVague, sampleDated]) 5 = .array none (.object none
        [("note", .null none), ("id", .unknown none), ("day", .string none none)] ["id"] false) ∧
      Alike (infer (.arr [sampleDated, sampleVague, sampleNoted]) 5)
        (infer (.arr [sampleNoted, sampleVague, sampleDated]) 5) := by
  obtain ⟨hcomm, hassoc, hself, hplain, hperm⟩ := merge_semilattice
  have ha := hplain sampleDated 5 (by decide +kernel)
  have hb := hplain sampleVague 5 (by decide +kernel)
  have hc := hplain sampleNoted 5 (by decide +kernel)
  have hkeyed : (Json.arr [sampleDated, sampleVague, sampleNoted]).isKeyed = true := by
    decide +kernel
  have hreverse : [sampleDated, sampleVague, sampleNoted].Perm
      [sampleNoted, sampleVague, sampleDated] := (List.reverse_perm _).symm
  exact ⟨⟨⟨ha, hb, hc⟩, hcomm _ _ ha hb, hassoc _ _ _ ha hb hc, hself _ hb⟩, hkeyed, hreverse,
    by rfl, by rfl, hperm _ _ 5 hkeyed hreverse⟩

end Schema

end Workflow
