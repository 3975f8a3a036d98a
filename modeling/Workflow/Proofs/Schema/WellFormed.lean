import Mathlib.Data.List.Nodup
import Workflow.Proofs.Schema.Depth
import Workflow.Schema.Declared
import Workflow.Schema.Layering

/-!
# Well-formed schemas

A schema can require a property that it does not declare, or require one twice, and the type of
schemas does not rule this out. No value conforms to such a schema without having a key that the
schema says nothing about, and a check of the schema against itself finds the property missing. So
all that makes schemas has to see to it that what is required is declared, and declared once to be
so (`Schema.WellFormed`).

Five things make schemas, and each of them puts the required names together in a way of its own:
inference takes the keys of an object, a merge keeps those that both sides have, declared parameters
are gone through one by one, a trigger has names of its own before those, and a sample that is laid
over a base brings its names after those of the base. The last two do not look at what the second
list has twice, so each name is compared with all that were taken before it (`Schema.nodup_union`).
-/

namespace Workflow

namespace Schema

open Outcome

variable {a b s : Schema} {ps : Entries Schema}

/-- **Well-formed schemas**: in all objects in them the required names are those of properties, and
none is required twice. -/
inductive WellFormed : Schema → Prop
  /-- What an object requires it declares, and its properties are well formed. -/
  | object {d ps required isOpen} (hnodup : required.Nodup)
      (hdeclared : ∀ name ∈ required, name ∈ Entries.keys ps)
      (hproperties : ∀ k s, (k, s) ∈ ps → WellFormed s) :
      WellFormed (.object d ps required isOpen)
  /-- The items of an array are well formed. -/
  | array {d items} (hitems : WellFormed items) : WellFormed (.array d items)
  /-- Nothing is required of a text. -/
  | string {d format} : WellFormed (.string d format)
  /-- Nothing is required of a number. -/
  | number {d} : WellFormed (.number d)
  /-- Nothing is required of a truth value. -/
  | boolean {d} : WellFormed (.boolean d)
  /-- Nothing is required of null. -/
  | null {d} : WellFormed (.null d)
  /-- What is not known requires nothing. -/
  | unknown {d} : WellFormed (.unknown d)

/-- An object is well formed when its names are, and all its properties. -/
theorem wellFormed_object {d : Option String} {required : List String} {isOpen : Bool}
    (hnodup : required.Nodup) (hdeclared : ∀ name ∈ required, name ∈ Entries.keys ps)
    (hproperties : Entries.All WellFormed ps) : WellFormed (.object d ps required isOpen) :=
  .object hnodup hdeclared fun _ _ hs => hproperties _ hs

/-! ## Merging and inference -/

/-- What has nothing inside is merged to something that has nothing inside. -/
theorem Merged.wellFormed_of_kind {c : Schema} (h : Merged a b c) (hobject : a.kind ≠ .object)
    (harray : a.kind ≠ .array) : c.WellFormed := by
  cases h with
  | same =>
    cases a with
    | object => exact absurd rfl hobject
    | array => exact absurd rfl harray
    | string | number | boolean | null | unknown => constructor
  | object => exact absurd rfl hobject
  | array => exact absurd rfl harray
  | kinds | string | number | boolean | null | unknown => constructor

/-- **The merge of well-formed schemas is well formed.** It requires what both sides require, and
declares what either declares. -/
theorem WellFormed.merge (ha : a.WellFormed) (hb : b.WellFormed) : (merge a b).WellFormed := by
  induction a using induct generalizing b with
  | object d ps required isOpen ih =>
    have h := merged_merge (.object d ps required isOpen) b
    generalize Schema.merge (.object d ps required isOpen) b = c at h
    cases h with
    | same => exact ha
    | kinds => exact .unknown
    | object =>
      cases ha with
      | object hnodup hdeclared hps =>
        cases hb with
        | object _ _ hps' =>
          refine .object (hnodup.filter _) (fun name hname => ?_) fun k u hu => ?_
          · have hname : name ∈ Entries.keys ps := hdeclared name (List.mem_of_mem_filter hname)
            rw [← Entries.has_iff_mem_keys] at hname ⊢
            rw [has_mergedProperties, hname, Bool.true_or]
          -- a property of the first schema, merged or not, or one that only the second has
          · obtain hu | hu := List.mem_append.1 hu
            · obtain ⟨s, hs, rfl | ⟨t, ht, rfl⟩⟩ := mem_mergeProperties hu
              · exact hps k u hs
              · exact ih k s hs (hps k s hs) (hps' k t ht)
            · exact hps' k u (List.mem_of_mem_filter hu)
  | array d items ih =>
    have h := merged_merge (.array d items) b
    generalize Schema.merge (.array d items) b = c at h
    cases h with
    | same => exact ha
    | kinds => exact .unknown
    | array =>
      cases ha with
      | array hitems =>
        cases hb with
        | array hitems' => exact .array (ih hitems hitems')
  | string | number | boolean | null | unknown =>
    exact (merged_merge _ b).wellFormed_of_kind nofun nofun

theorem WellFormed.mergeAll {ss : List Schema} (h : ∀ s ∈ ss, s.WellFormed) :
    (mergeAll ss).WellFormed := by
  cases ss with
  | nil => exact .unknown
  | cons s ss =>
    obtain ⟨hs, hss⟩ := List.forall_mem_cons.1 h
    exact List.foldlRecOn ss Schema.merge hs fun a ha t ht => ha.merge (hss t ht)

/-- **What is inferred is well formed**: an object requires its keys, and these are its
properties. -/
theorem wellFormed_inferWithin {room : Nat} {v : Json} (h : v.isKeyed = true) :
    (inferWithin room v).WellFormed := by
  induction v using Json.induct generalizing room with
  | null | bool b | int n | float x | str s =>
    cases room with
    | zero => exact .unknown
    | succ room => constructor
  | arr vs ih =>
    cases room with
    | zero => exact .unknown
    | succ room =>
      rw [Json.isKeyed] at h
      rw [inferWithin, inferItems_eq_map]
      refine .array (WellFormed.mergeAll fun s hs => ?_)
      obtain ⟨v, hv, rfl⟩ := List.mem_map.1 hs
      exact ih v hv (Json.isKeyed_of_mem_items h hv)
  | obj es ih =>
    cases room with
    | zero => exact .unknown
    | succ room =>
      rw [Json.isKeyed, Bool.and_eq_true_iff, decide_eq_true_iff] at h
      obtain ⟨hdistinct, hmembers⟩ := h
      rw [inferWithin]
      refine .object hdistinct (fun name hname => ?_) fun k s hs => ?_
      · rwa [keys_inferMembers]
      · obtain ⟨v, hv, rfl⟩ := mem_inferMembers.1 hs
        exact ih k v hv (Json.isKeyed_of_mem_members hmembers hv)

/-! ## Declared parameters -/

theorem wellFormed_ofDeclaredType {type description : Json}
    (h : ofDeclaredType type description = .ok s) : s.WellFormed := by
  unfold ofDeclaredType at h
  obtain ⟨d, -, h⟩ := bind_eq_ok.1 h
  cases pure_eq_ok.1 h
  split <;> constructor

/-- Whether what was found so far makes a well-formed object. -/
structure Declared.WellFormed (d : Declared) : Prop where
  /-- No name is required twice. -/
  nodup : d.required.Nodup
  /-- What is required is declared. -/
  declared : ∀ name ∈ d.required, name ∈ Entries.keys d.properties
  /-- The properties are well formed. -/
  properties : Entries.All Schema.WellFormed d.properties

/-- **One more entry** declares the name that it requires, if it requires one at all. -/
theorem Declared.WellFormed.add {d d' : Declared} {entry : Json} (h : d.add entry = .ok d')
    (hd : d.WellFormed) : d'.WellFormed := by
  unfold Declared.add at h
  split at h
  · split at h
    · next name _ =>
      split at h
      · cases h
        exact hd
      · obtain ⟨s, hs, h⟩ := bind_eq_ok.1 h
        cases pure_eq_ok.1 h
        have hs : s.WellFormed := wellFormed_ofDeclaredType hs
        have hold : ∀ k ∈ d.required, k ∈ Entries.keys (Entries.put d.properties name s) :=
          fun k hk => Entries.mem_keys_put.2 (.inl (hd.declared k hk))
        refine ⟨?_, ?_, hd.properties.put hs⟩
        · dsimp only
          split
          · exact hd.nodup
          · next hnew =>
            simp only [Bool.or_eq_true, List.contains_iff_mem, not_or] at hnew
            rw [← List.concat_eq_append]
            exact List.Nodup.concat hnew.2 hd.nodup
        · dsimp only
          split
          · exact hold
          · intro k hk
            obtain hk | hk := List.mem_append.1 hk
            · exact hold k hk
            · exact Entries.mem_keys_put.2 (.inr (List.mem_singleton.1 hk))
    · cases h
      exact hd
  · cases h
    exact hd

theorem Declared.wellFormed_of_declared {d : Declared} {parameters : Json}
    (h : declared parameters = .ok d) : d.WellFormed := by
  unfold Schema.declared at h
  obtain ⟨items, -, h⟩ := bind_eq_ok.1 h
  exact of_foldlM_eq_ok h ⟨.nil, nofun, Entries.all_nil⟩ Declared.WellFormed.add

/-- **The object of declared parameters is well formed.** -/
theorem wellFormed_ofParameters {parameters : Json} (h : ofParameters parameters = .ok s) :
    s.WellFormed := by
  unfold ofParameters at h
  obtain ⟨d, hd, h⟩ := bind_eq_ok.1 h
  cases pure_eq_ok.1 h
  have hd : d.WellFormed := Declared.wellFormed_of_declared hd
  exact wellFormed_object hd.nodup hd.declared hd.properties

/-- **The output of a trigger is well formed**, whether or not the names of its own fields are
declared again. -/
theorem wellFormed_ofTrigger {parameters : Option Json} (h : ofTrigger parameters = .ok s) :
    s.WellFormed := by
  unfold ofTrigger at h
  obtain ⟨d, hd, h⟩ := bind_eq_ok.1 h
  cases pure_eq_ok.1 h
  have hd : d.WellFormed := Declared.wellFormed_of_declared hd
  have hown : Entries.All WellFormed triggerFields := by
    simp only [triggerFields, Entries.all_cons]
    exact ⟨.string, .boolean, .string, Entries.all_nil⟩
  refine wellFormed_object ?_ (fun name hname => ?_) (hown.merge hd.properties)
  · refine List.nodup_append.2 ⟨by decide, hd.nodup.filter _, ?_⟩
    rintro k hk _ hl rfl
    simpa [hk] using (List.mem_filter.1 hl).2
  · rw [Entries.mem_keys_merge]
    exact (List.mem_append.1 hname).imp_right fun h => hd.declared name (List.mem_of_mem_filter h)

/-! ## A sample over a base -/

theorem mem_union {xs ys : List String} {name : String} :
    name ∈ union xs ys ↔ name ∈ xs ∨ name ∈ ys := by
  unfold union
  induction ys generalizing xs with
  | nil => simp
  | cons y ys ih =>
    rw [List.foldl_cons, ih, List.mem_cons]
    split
    · next hy =>
      rw [List.contains_iff_mem] at hy
      refine ⟨fun h => h.imp_right .inr, ?_⟩
      rintro (hx | rfl | hys)
      · exact .inl hx
      · exact .inl hy
      · exact .inr hys
    · simp [or_assoc]

/-- **No name is taken twice**, though the second list may have it twice. -/
theorem nodup_union {xs : List String} (h : xs.Nodup) (ys : List String) : (union xs ys).Nodup := by
  refine List.foldlRecOn ys _ h fun acc hacc name _ => ?_
  split
  · exact hacc
  · next hname =>
    rw [List.contains_iff_mem] at hname
    rw [← List.concat_eq_append]
    exact List.Nodup.concat hname hacc

/-- **A schema that is laid over a base** leaves an object, in which no name is required twice if
none is in the base. -/
theorem layerOver_object (d : Option String) (ps : Entries Schema) {required : List String}
    (isOpen : Bool) (stored : Schema) (h : required.Nodup) :
    ∃ ps' required' isOpen',
      layerOver (.object d ps required isOpen) stored = .ok (.object d ps' required' isOpen') ∧
        required'.Nodup := by
  cases stored with
  | object d' ps' required' isOpen' => exact ⟨_, _, _, rfl, nodup_union h required'⟩
  | array | string | number | boolean | null | unknown => exact ⟨_, _, _, rfl, h⟩

theorem WellFormed.layerOver {base stored m : Schema} (hbase : base.WellFormed)
    (hstored : stored.WellFormed) (h : layerOver base stored = .ok m) : m.WellFormed := by
  unfold Schema.layerOver at h
  split at h
  · cases h
    cases hbase with
    | object hnodup hdeclared hps =>
      cases hstored with
      | object _ hdeclared' hps' =>
        refine wellFormed_object (nodup_union hnodup _) (fun name hname => ?_) ?_
        · rw [Entries.mem_keys_merge]
          exact (mem_union.1 hname).imp (hdeclared name) (hdeclared' name)
        · exact Entries.All.merge (fun e he => hps e.1 e.2 he) fun e he => hps' e.1 e.2 he
  · cases h
    cases hbase with
    | object hnodup hdeclared hps =>
      refine wellFormed_object hnodup (fun name hname => ?_) ?_
      · exact Entries.mem_keys_put.2 (.inl (hdeclared name hname))
      · exact Entries.All.put (fun e he => hps e.1 e.2 he) hstored
  · cases h

/-! ## All that makes schemas -/

/-- **All schemas that are made are well formed**: what is inferred from a sample, merges of
well-formed schemas, the objects of declared parameters, the outputs of triggers, and a well-formed
schema that is laid over a well-formed object, which is never refused. Whatever is laid over an
object, no name is required twice if none is in the object. -/
theorem wellFormed_of_made :
    (∀ sample maxDepth, sample.isKeyed = true → (infer sample maxDepth).WellFormed) ∧
    (∀ a b : Schema, a.WellFormed → b.WellFormed → (merge a b).WellFormed) ∧
    (∀ parameters s, ofParameters parameters = .ok s → s.WellFormed) ∧
    (∀ parameters s, ofTrigger parameters = .ok s → s.WellFormed) ∧
    (∀ base stored : Schema, base.kind = .object → base.WellFormed → stored.WellFormed →
      ∃ m, layerOver base stored = .ok m ∧ m.WellFormed) ∧
    ∀ d ps required isOpen stored, required.Nodup → ∃ ps' required' isOpen',
      layerOver (.object d ps required isOpen) stored = .ok (.object d ps' required' isOpen') ∧
        required'.Nodup := by
  refine ⟨fun _ _ => wellFormed_inferWithin, fun _ _ => .merge, fun _ _ => wellFormed_ofParameters,
    fun _ _ => wellFormed_ofTrigger, fun base stored hkind hbase hstored => ?_,
    fun d ps _ isOpen stored => layerOver_object d ps isOpen stored⟩
  cases base with
  | object d ps required isOpen =>
    have hnodup : required.Nodup := by
      cases hbase with
      | object hnodup => exact hnodup
    obtain ⟨_, _, _, hm, -⟩ := layerOver_object d ps isOpen stored hnodup
    exact ⟨_, hm, hbase.layerOver hstored hm⟩
  | array | string | number | boolean | null | unknown => cases hkind

/-- Parameters one of which is declared twice, the second time as optional, and one of which has the
name of a field of every trigger. -/
def sampleParameters : Json := .arr [
  .obj [("name", .str "city"), ("type", .str "string")],
  .obj [("name", .str "city"), ("type", .str "number"), ("optional", .bool true)],
  .obj [("name", .str "type"), ("type", .str "boolean")]]

/-- An object that requires a name twice, which it does not declare. -/
def sampleRepeated : Schema :=
  .object none [] ["id", "id"] false

/-- The output of a trigger with these parameters requires each name once. It can be merged with
what a sample shows and laid over it, and an object that requires a name twice does not require it
twice when it is laid over another one. -/
theorem wellFormed_of_made_sampleParameters :
    ∃ trigger,
      ofTrigger (some sampleParameters) = .ok trigger ∧
      trigger = .object none [("type", .boolean none), ("triggered", .boolean none),
        ("tool_name", .string none none), ("city", .number none)]
        ["type", "triggered", "tool_name", "city"] false ∧
      trigger.WellFormed ∧
      sampleItems.isKeyed = true ∧ (merge trigger (infer sampleItems 5)).WellFormed ∧
      (∃ m, layerOver trigger (infer sampleItems 5) = .ok m ∧ m.WellFormed) ∧
      (∃ s, ofParameters sampleParameters = .ok s ∧ s.WellFormed) ∧
      ["status"].Nodup ∧ ∃ ps' required' isOpen',
        layerOver (.object none [("status", .number none)] ["status"] false) sampleRepeated =
          .ok (.object none ps' required' isOpen') ∧ required'.Nodup := by
  obtain ⟨hinfer, hmerge, hparameters, htrigger, hlayer, hrequired⟩ := wellFormed_of_made
  have hkeyed : sampleItems.isKeyed = true := by decide +kernel
  have hitems : (infer sampleItems 5).WellFormed := hinfer _ _ hkeyed
  have hmade : (Schema.object none [("type", .boolean none), ("triggered", .boolean none),
      ("tool_name", .string none none), ("city", .number none)]
      ["type", "triggered", "tool_name", "city"] false).WellFormed :=
    htrigger (some sampleParameters) _ rfl
  have hobject : (Schema.object none [("city", .number none), ("type", .boolean none)]
      ["city", "type"] false).WellFormed :=
    hparameters sampleParameters _ rfl
  exact ⟨_, rfl, rfl, hmade, hkeyed, hmerge _ _ hmade hitems, hlayer _ _ rfl hmade hitems,
    ⟨_, rfl, hobject⟩, by decide, hrequired _ _ _ _ _ (by decide)⟩

end Schema

end Workflow
