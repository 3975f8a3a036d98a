import Workflow.Entries

/-!
# Looking up keys

How `Entries.get?` reads a map that was put together out of others, and what it has to do with
the pairs and the keys that stand in the list. Where a key stands twice the first pair counts;
where no key does (`Entries.Distinct`) all pairs do.
-/

namespace Workflow

namespace Entries

variable {α β : Type} {es fs : Entries α} {key k : String} {v : α}

theorem mem_of_get? (h : get? es key = some v) : (key, v) ∈ es := by
  induction es with
  | nil => cases h
  | cons e es ih =>
    obtain ⟨k, w⟩ := e
    rw [get?_cons] at h
    split at h
    · next hk =>
      rw [hk, Option.some.inj h]
      exact List.mem_cons_self
    · exact List.mem_cons_of_mem _ (ih h)

theorem mem_keys_of_mem (h : (key, v) ∈ es) : key ∈ keys es :=
  List.mem_map_of_mem h

theorem get?_eq_none_iff : get? es key = none ↔ key ∉ keys es := by
  induction es with
  | nil => simp [keys]
  | cons e es ih =>
    obtain ⟨k, w⟩ := e
    rw [get?_cons]
    by_cases hk : k = key
    · simp [hk, keys]
    · have hk' : ¬ key = k := fun he => hk he.symm
      rw [if_neg hk, ih]
      simp [keys, hk']

theorem has_iff : has es key = true ↔ ∃ v, get? es key = some v :=
  Option.isSome_iff_exists

/-- A key is in use when it stands in the list. -/
theorem has_iff_mem_keys : has es key = true ↔ key ∈ keys es := by
  rw [has, Option.isSome_iff_ne_none, Ne, get?_eq_none_iff, Classical.not_not]

/-- Where no key stands twice, a pair of the list is the one that is found. -/
theorem get?_of_mem (h : Distinct es) (hmem : (key, v) ∈ es) : get? es key = some v := by
  induction es with
  | nil => cases hmem
  | cons e es ih =>
    obtain ⟨k, w⟩ := e
    obtain ⟨hk, hdistinct⟩ := List.nodup_cons.1 h
    rw [get?_cons]
    obtain heq | hmem := List.mem_cons.1 hmem
    · cases heq
      exact if_pos rfl
    · have hne : ¬ k = key := fun he => hk (he ▸ mem_keys_of_mem hmem)
      rw [if_neg hne]
      exact ih hdistinct hmem

/-- Where no key stands twice, the order of the pairs does not matter. -/
theorem get?_perm (h : Distinct es) (hperm : es.Perm fs) : get? es key = get? fs key := by
  have hdistinct : Distinct fs := (hperm.map Prod.fst).nodup h
  ext v
  constructor
  · intro hv
    exact get?_of_mem hdistinct (hperm.subset (mem_of_get? hv))
  · intro hv
    exact get?_of_mem h (hperm.symm.subset (mem_of_get? hv))

/-- What stands in the first list hides what stands in the second. -/
theorem get?_append : get? (es ++ fs) key = (get? es key).or (get? fs key) := by
  induction es with
  | nil => rfl
  | cons e es ih =>
    obtain ⟨k, w⟩ := e
    rw [List.cons_append, get?_cons, get?_cons]
    split
    · rfl
    · exact ih

/-- What is in use already is left out. -/
theorem get?_filter_not_has {gs : Entries β} :
    get? (es.filter fun e => !has gs e.1) key = if has gs key then none else get? es key := by
  induction es with
  | nil => simp
  | cons e es ih =>
    obtain ⟨k, w⟩ := e
    by_cases hk : k = key
    · subst hk
      by_cases hg : has gs k = true
      · simp [hg, ih]
      · simp [hg, get?_cons]
    · by_cases hg : has gs k = true
      · simp [hg, ih, get?_cons, hk]
      · simp [hg, ih, get?_cons, hk]

/-- A key that is not put in reads what it read. -/
theorem get?_merge_of_not_has {more : Entries α} (h : has more key = false) :
    get? (merge es more) key = get? es key := by
  induction more generalizing es with
  | nil => rfl
  | cons e more ih =>
    obtain ⟨k, v⟩ := e
    rw [has, get?_cons] at h
    split at h
    · cases h
    · next hk =>
      refine (ih h).trans (get?_put_ne _ _ ?_)
      exact fun he => hk he.symm

/-- A key that is put in once reads what was put there. -/
theorem get?_merge_of_get? {more : Entries α} (hmore : Distinct more)
    (h : get? more key = some v) : get? (merge es more) key = some v := by
  induction more generalizing es with
  | nil => cases h
  | cons e more ih =>
    obtain ⟨k, w⟩ := e
    obtain ⟨hk, hdistinct⟩ := List.nodup_cons.1 hmore
    show get? (merge (put es k w) more) key = some v
    rw [get?_cons] at h
    split at h
    · next hkey =>
      subst hkey
      rw [get?_merge_of_not_has, get?_put_self, h]
      exact Bool.eq_false_iff.2 fun hhas => hk (has_iff_mem_keys.1 hhas)
    · exact ih hdistinct h

/-- The value at a key of a map with every value replaced. -/
theorem get?_mapValues {f : α → β} : get? (mapValues f es) key = (get? es key).map f := by
  induction es with
  | nil => rfl
  | cons e es ih =>
    obtain ⟨k, w⟩ := e
    show get? ((k, f w) :: mapValues f es) key = _
    rw [get?_cons, get?_cons, ih]
    split <;> rfl

theorem has_mapValues {f : α → β} : has (mapValues f es) key = has es key := by
  rw [has, get?_mapValues, Option.isSome_map, has]

theorem keys_mapValues {f : α → β} : keys (mapValues f es) = keys es := by
  rw [keys, mapValues, List.map_map]
  rfl

/-- Keys stay distinct when the values are replaced. -/
theorem Distinct.mapValues (h : Distinct es) (f : α → β) : Distinct (mapValues f es) := by
  rw [Distinct, keys_mapValues]
  exact h

theorem mem_keys_put : k ∈ keys (put es key v) ↔ k ∈ keys es ∨ k = key := by
  rw [keys_put]
  split
  · next hkey => exact ⟨.inl, fun h => h.elim id fun he => he ▸ hkey⟩
  · simp

theorem mem_keys_merge {more : Entries α} : k ∈ keys (merge es more) ↔ k ∈ keys es ∨ k ∈ keys more := by
  induction more generalizing es with
  | nil => simp [merge, keys]
  | cons e more ih =>
    show k ∈ keys (merge (put es e.1 e.2) more) ↔ _
    rw [ih, mem_keys_put, or_assoc]
    exact or_congr_right List.mem_cons.symm

/-- A value that is there is not hidden by one that is put at a key that is not in use. -/
theorem get?_putNew_of_get? {w : α} (h : get? es key = some v) :
    get? (putNew es k w) key = some v := by
  unfold putNew
  split
  · exact h
  · next hk =>
    have hne : key ≠ k := by
      rintro rfl
      exact hk (has_iff.2 ⟨v, h⟩)
    rw [get?_put_ne _ _ hne, h]

theorem get?_foldl_putNew_of_get? {more : Entries α} (h : get? es key = some v) :
    get? (more.foldl (fun es e => putNew es e.1 e.2) es) key = some v := by
  induction more generalizing es with
  | nil => exact h
  | cons e more ih => exact ih (get?_putNew_of_get? h)

end Entries

end Workflow
