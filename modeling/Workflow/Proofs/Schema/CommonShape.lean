import Workflow.Proofs.Schema.Truncation

/-!
# What the items of a list have in common

The items of a list share one schema, which comes about by merging what the single items show, two
at a time and from left to right. For objects the outcome can be said at once
(`Schema.commonShape`): the properties are those of all the objects, in the order in which they are
first seen, what every object has is required, and each property is itself the merge of the values
that the objects have there.

To get there the merge is followed along the list, in three respects that do not mix: which names
there are (`Schema.keys_foldl_mergedProperties`), what stands at each of them
(`Schema.eq_mergeAll_of_get?`), and which of them remain required. The short cut of the merge is no
part of this, since for schemas without descriptions it makes no difference
(`Schema.merge_object`). Where the items are of different kinds they have nothing in common, and
nothing that comes later brings anything back (`Schema.mergeAll_of_kind_ne`).
-/

namespace Workflow

namespace Entries

variable {α β : Type}

/-- The keys that are in use in one of the maps, in the order in which they first occur. -/
def keysOfAny (maps : List (Entries α)) : List String :=
  (maps.flatMap keys).eraseDups

/-- The keys that are in use in all of the maps, in the order of the first one. -/
def keysOfAll : List (Entries α) → List String
  | [] => []
  | es :: rest => (keys es).filter fun key => rest.all fun fs => has fs key

/-- The values at a key of those maps in which it is in use, in order. -/
def valuesAt (maps : List (Entries α)) (key : String) : List α :=
  maps.filterMap fun es => get? es key

variable {es : Entries α} {maps : List (Entries α)} {key : String}

theorem valuesAt_cons : valuesAt (es :: maps) key = (get? es key).toList ++ valuesAt maps key := by
  rw [valuesAt, valuesAt, List.filterMap_cons]
  cases get? es key <;> rfl

theorem keysOfAny_mapValues (f : α → β) : keysOfAny (maps.map (mapValues f)) = keysOfAny maps := by
  rw [keysOfAny, keysOfAny, List.flatMap_map]
  simp only [keys_mapValues]

theorem keysOfAll_mapValues (f : α → β) : keysOfAll (maps.map (mapValues f)) = keysOfAll maps := by
  cases maps with
  | nil => rfl
  | cons es rest =>
    rw [List.map_cons, keysOfAll, keysOfAll, keys_mapValues]
    simp only [List.all_map, Function.comp_def, has_mapValues]

theorem valuesAt_mapValues (f : α → β) :
    valuesAt (maps.map (mapValues f)) key = (valuesAt maps key).map f := by
  rw [valuesAt, valuesAt, List.filterMap_map, List.map_filterMap]
  simp only [Function.comp_def, get?_mapValues]

theorem contains_keys : (keys es).contains key = has es key := by
  rw [Bool.eq_iff_iff, List.contains_iff_mem, has_iff_mem_keys]

/-- A map in which each key has the value that goes with it. -/
theorem eq_map_keys {f : String → α} (h : ∀ key v, (key, v) ∈ es → v = f key) :
    es = (keys es).map fun key => (key, f key) := by
  rw [keys, List.map_map]
  refine (List.map_id _).symm.trans (List.map_congr_left fun e he => ?_)
  exact Prod.ext rfl (h e.1 e.2 he)

end Entries

namespace Schema

open Entries (keysOfAny keysOfAll valuesAt)

/-- **The common shape of objects**, inferred down to a nesting depth. -/
def commonShape (objects : List (Entries Json)) (maxDepth : Int) : Schema :=
  .object none
    ((keysOfAny objects).map fun key =>
      (key, mergeAll ((valuesAt objects key).map fun v => infer v maxDepth)))
    (keysOfAll objects) false

variable {a s t : Schema} {ps ps' : Entries Schema} {maps : List (Entries Schema)}
  {required : List String} {k : String}

/-! ## The names -/

theorem eraseDups_of_nodup {names : List String} (h : names.Nodup) : names.eraseDups = names := by
  induction names with
  | nil => rfl
  | cons name names ih =>
    obtain ⟨hname, hnames⟩ := List.nodup_cons.1 h
    have hfilter : (names.filter fun other => !other == name) = names := by
      refine List.filter_eq_self.2 fun other hother => ?_
      have hne : other ≠ name := fun heq => hname (heq ▸ hother)
      simpa using hne
    rw [List.eraseDups_cons, hfilter, ih hnames]

/-- The names of the second list come after those of the first, and no name comes again. -/
theorem keys_mergedProperties :
    Entries.keys (mergedProperties ps ps') =
      Entries.keys ps ++ (Entries.keys ps').removeAll (Entries.keys ps) := by
  have hnew : Entries.keys (ps'.filter fun e => !Entries.has ps e.1) =
      (Entries.keys ps').removeAll (Entries.keys ps) := by
    show _ = (ps'.map Prod.fst).filter fun name => !(Entries.keys ps).elem name
    rw [Entries.keys, List.filter_map]
    refine congrArg (List.map Prod.fst) (List.filter_congr fun e _ => ?_)
    rw [Function.comp_apply, ← Entries.contains_keys]
  rw [← hnew, ← @keys_mergeProperties ps ps']
  exact List.map_append

/-- In the order of first occurrence it is not seen whether two of the maps have been merged. -/
theorem keysOfAny_mergedProperties :
    keysOfAny (mergedProperties ps ps' :: maps) = keysOfAny (ps :: ps' :: maps) := by
  have htwice (names : List String) :
      (names.removeAll (Entries.keys ps)).removeAll (Entries.keys ps) =
        names.removeAll (Entries.keys ps) := by
    rw [List.removeAll, List.removeAll, List.filter_filter]
    simp only [Bool.and_self]
  have happend (names more : List String) : (names ++ more).removeAll (Entries.keys ps) =
      names.removeAll (Entries.keys ps) ++ more.removeAll (Entries.keys ps) :=
    List.filter_append names more
  rw [keysOfAny, keysOfAny, List.flatMap_cons, List.flatMap_cons, List.flatMap_cons,
    keys_mergedProperties, List.append_assoc, List.eraseDups_append, List.eraseDups_append, happend,
    happend, htwice]

/-- **The names of what is merged** are those of all that was merged. -/
theorem keys_foldl_mergedProperties (hps : Entries.Distinct ps)
    (hmaps : ∀ qs ∈ maps, Entries.Distinct qs) :
    Entries.keys (maps.foldl mergedProperties ps) = keysOfAny (ps :: maps) := by
  induction maps generalizing ps with
  | nil =>
    rw [keysOfAny, List.flatMap_singleton, eraseDups_of_nodup hps]
    rfl
  | cons ps' maps ih =>
    obtain ⟨hps', hmaps⟩ := List.forall_mem_cons.1 hmaps
    rw [List.foldl_cons, ih (distinct_mergedProperties hps hps') hmaps, keysOfAny_mergedProperties]

/-! ## The properties -/

theorem mergeAll_valuesAt_mergedProperties :
    mergeAll (valuesAt (mergedProperties ps ps' :: maps) k) =
      mergeAll (valuesAt (ps :: ps' :: maps) k) := by
  rw [Entries.valuesAt_cons, Entries.valuesAt_cons, Entries.valuesAt_cons, get?_mergedProperties]
  cases Entries.get? ps k with
  | none => cases Entries.get? ps' k <;> rfl
  | some s => cases Entries.get? ps' k <;> rfl

theorem eq_mergeAll_of_get? (h : Entries.get? (maps.foldl mergedProperties ps) k = some s) :
    s = mergeAll (valuesAt (ps :: maps) k) := by
  induction maps generalizing ps with
  | nil =>
    rw [List.foldl_nil] at h
    rw [Entries.valuesAt_cons, h]
    rfl
  | cons ps' maps ih => rw [ih h, mergeAll_valuesAt_mergedProperties]

theorem distinct_foldl_mergedProperties (hps : Entries.Distinct ps)
    (hmaps : ∀ qs ∈ maps, Entries.Distinct qs) :
    Entries.Distinct (maps.foldl mergedProperties ps) := by
  induction maps generalizing ps with
  | nil => exact hps
  | cons ps' maps ih =>
    obtain ⟨hps', hmaps⟩ := List.forall_mem_cons.1 hmaps
    exact ih (distinct_mergedProperties hps hps') hmaps

/-- **The properties of what is merged**, all of them at once. -/
theorem foldl_mergedProperties (hps : Entries.Distinct ps)
    (hmaps : ∀ qs ∈ maps, Entries.Distinct qs) :
    maps.foldl mergedProperties ps = (keysOfAny (ps :: maps)).map fun key =>
      (key, mergeAll (valuesAt (ps :: maps) key)) := by
  rw [← keys_foldl_mergedProperties hps hmaps]
  refine Entries.eq_map_keys fun key s hs => eq_mergeAll_of_get? ?_
  exact Entries.get?_of_mem (distinct_foldl_mergedProperties hps hmaps) hs

/-! ## What is merged -/

/-- The closed object that has given properties and requires all of them. -/
def exactly (ps : Entries Schema) : Schema :=
  .object none ps (Entries.keys ps) false

/-- **Merging one object after the other** merges the properties and keeps what all require. -/
theorem foldl_merge_exactly (hps : Entries.Distinct ps)
    (hmaps : ∀ qs ∈ maps, Entries.Distinct qs) :
    (maps.map exactly).foldl merge (.object none ps required false) =
      .object none (maps.foldl mergedProperties ps)
        (required.filter fun name => maps.all fun qs => Entries.has qs name) false := by
  induction maps generalizing ps required with
  | nil =>
    show object none ps required false = object none ps (required.filter fun _ => true) false
    rw [List.filter_true]
  | cons ps' maps ih =>
    obtain ⟨hps', hmaps⟩ := List.forall_mem_cons.1 hmaps
    rw [List.map_cons, List.foldl_cons, exactly, merge_object hps, Bool.or_self,
      ih (distinct_mergedProperties hps hps') hmaps, List.filter_filter]
    refine congrArg (fun names => object none _ names false) (List.filter_congr fun name _ => ?_)
    rw [Entries.contains_keys, List.all_cons, Bool.and_comm]

theorem mergeAll_exactly (hne : maps ≠ []) (hmaps : ∀ qs ∈ maps, Entries.Distinct qs) :
    mergeAll (maps.map exactly) =
      .object none ((keysOfAny maps).map fun key => (key, mergeAll (valuesAt maps key)))
        (keysOfAll maps) false := by
  cases maps with
  | nil => exact absurd rfl hne
  | cons ps maps =>
    obtain ⟨hps, hmaps⟩ := List.forall_mem_cons.1 hmaps
    show (maps.map exactly).foldl merge (.object none ps (Entries.keys ps) false) = _
    rw [foldl_merge_exactly hps hmaps, foldl_mergedProperties hps hmaps]
    rfl

/-! ## Different kinds -/

theorem kind_merge (h : a.kind = t.kind) : (merge a t).kind = a.kind := by
  have hmerged := merged_merge a t
  generalize merge a t = m at hmerged ⊢
  cases hmerged with
  | kinds hne => exact absurd h hne
  | _ => rfl

theorem merge_unknown (s : Schema) : merge (.unknown none) s = .unknown none := by
  cases s with
  | unknown d =>
    by_cases hsame : same (.unknown none) (.unknown d) = true
    · exact merge_of_same hsame
    · rw [merge, if_neg hsame]
  | _ => rfl

theorem foldl_merge_unknown (ss : List Schema) :
    ss.foldl merge (.unknown none) = .unknown none := by
  induction ss with
  | nil => rfl
  | cons s ss ih => rw [List.foldl_cons, merge_unknown, ih]

theorem foldl_merge_of_kind_ne {ss : List Schema} (ht : t ∈ ss) (h : t.kind ≠ a.kind) :
    ss.foldl merge a = .unknown none := by
  induction ss generalizing a with
  | nil => cases ht
  | cons s ss ih =>
    rw [List.foldl_cons]
    by_cases hs : a.kind = s.kind
    · obtain rfl | ht := List.mem_cons.1 ht
      · exact absurd hs.symm h
      · exact ih ht (by rwa [kind_merge hs])
    · rw [merge_of_kind_ne hs, foldl_merge_unknown]

/-- **Schemas of different kinds have nothing in common**, wherever they stand in the list. -/
theorem mergeAll_of_kind_ne {ss : List Schema} (hs : s ∈ ss) (ht : t ∈ ss) (h : s.kind ≠ t.kind) :
    mergeAll ss = .unknown none := by
  cases ss with
  | nil => cases hs
  | cons a ss =>
    show ss.foldl merge a = _
    by_cases hsa : s.kind = a.kind
    · obtain rfl | ht := List.mem_cons.1 ht
      · exact absurd hsa h
      · exact foldl_merge_of_kind_ne ht fun hta => h (hsa.trans hta.symm)
    · obtain rfl | hs := List.mem_cons.1 hs
      · exact absurd rfl hsa
      · exact foldl_merge_of_kind_ne hs hsa

/-! ## What is inferred -/

theorem inferWithin_obj (room : Nat) (es : Entries Json) :
    inferWithin (room + 1) (.obj es) = exactly (Entries.mapValues (inferWithin room) es) := by
  rw [inferWithin, inferMembers_eq_map, exactly, Entries.keys_mapValues]

/-- **What a list of objects shows is their common shape**, and what a list of values of different
kinds shows is nothing. -/
theorem infer_arr_eq_commonShape (maxDepth : Int) (hdepth : 2 ≤ maxDepth) :
    (∀ objects : List (Entries Json), objects ≠ [] → (∀ es ∈ objects, Entries.Distinct es) →
      infer (.arr (objects.map .obj)) maxDepth =
        .array none (commonShape objects (maxDepth - 2))) ∧
    ∀ (vs : List Json) (v w : Json), v ∈ vs → w ∈ vs →
      (infer v (maxDepth - 1)).kind ≠ (infer w (maxDepth - 1)).kind →
      infer (.arr vs) maxDepth = .array none (.unknown none) := by
  obtain ⟨room, rfl⟩ : ∃ room : Nat, maxDepth = (room + 1 + 1 : Nat) :=
    ⟨(maxDepth - 2).toNat, by omega⟩
  have hitems (vs : List Json) : infer (.arr vs) (room + 1 + 1 : Nat) =
      .array none (mergeAll (vs.map (inferWithin (room + 1)))) := by
    rw [← inferItems_eq_map]
    rfl
  constructor
  · intro objects hne hdistinct
    have hobjects : (objects.map Json.obj).map (inferWithin (room + 1)) =
        (objects.map (Entries.mapValues (inferWithin room))).map exactly := by
      rw [List.map_map, List.map_map]
      exact List.map_congr_left fun es _ => inferWithin_obj room es
    have hmaps :
        ∀ qs ∈ objects.map (Entries.mapValues (inferWithin room)), Entries.Distinct qs := by
      intro qs hqs
      obtain ⟨es, hes, rfl⟩ := List.mem_map.1 hqs
      exact (hdistinct es hes).mapValues _
    have hroom : ((room + 1 + 1 : Nat) : Int) - 2 = room := by omega
    rw [hitems, hobjects, mergeAll_exactly (by simpa using hne) hmaps, Entries.keysOfAny_mapValues,
      Entries.keysOfAll_mapValues, commonShape, hroom]
    simp only [Entries.valuesAt_mapValues]
    rfl
  · intro vs v w hv hw hkind
    have hroom : ((room + 1 + 1 : Nat) : Int) - 1 = (room + 1 : Nat) := by omega
    rw [hroom] at hkind
    rw [hitems]
    exact congrArg _ (mergeAll_of_kind_ne (List.mem_map_of_mem hv) (List.mem_map_of_mem hw) hkind)

/-- Three stays, of which only the day is always given. -/
def sampleStays : List (Entries Json) := [
  [("guest", .obj [("name", .str "Ada")]), ("day", .str "2024-01-01")],
  [("note", .null), ("day", .str "soon")],
  [("day", .str "2024-01-02"), ("note", .str "late"),
    ("guest", .obj [("name", .str "Eve"), ("age", .int 30)])]]

/-- The guest is merged over the second stay, which has none and because of which it is not
required. A stay and a number have nothing in common. -/
theorem infer_arr_eq_commonShape_sampleStays :
    (2 : Int) ≤ 4 ∧ sampleStays ≠ [] ∧ (∀ es ∈ sampleStays, Entries.Distinct es) ∧
      infer (.arr (sampleStays.map .obj)) 4 = .array none (commonShape sampleStays 2) ∧
      commonShape sampleStays 2 = .object none
        [("guest", .object none
            [("name", .string none none), ("age", .number none)] ["name"] false),
          ("day", .string none none), ("note", .unknown none)] ["day"] false ∧
      (infer (.obj []) 3).kind ≠ (infer (.int 1) 3).kind ∧
      infer (.arr [.obj [], .null, .int 1]) 4 = .array none (.unknown none) := by
  have hdistinct : ∀ es ∈ sampleStays, Entries.Distinct es := by
    simp [sampleStays, Entries.Distinct, Entries.keys]
  have hkind : (infer (.obj []) 3).kind ≠ (infer (.int 1) 3).kind := by decide
  obtain ⟨hobjects, hkinds⟩ := infer_arr_eq_commonShape 4 (by decide)
  refine ⟨by decide, by simp [sampleStays], hdistinct, ?_, by rfl, hkind, ?_⟩
  · exact hobjects sampleStays (by simp [sampleStays]) hdistinct
  · exact hkinds _ (.obj []) (.int 1) (by simp) (by simp) hkind

end Schema

end Workflow
