import Workflow.Proofs.Keyed
import Workflow.Proofs.Schema.Merge
import Workflow.Schema.Inference

/-!
# Samples conform to what they show

The schema that is inferred from a sample is one that the sample conforms to, whatever the depth
at which inference stops. The induction is on the sample. Its one real step is the list: each
item conforms to what it shows itself, and the merge of what all items show loses no value of any
of them (`Schema.Conforms.mergeAll`), since what is inferred is exact.

In an object of a sample no key stands twice (`Json.isKeyed`). Objects as lists of pairs could
have it otherwise, and of such an object the schema would only tell the first of two values. What
is read from a text is always of this sort, so there nothing is asked (`conforms_of_read`).
-/

namespace Workflow

namespace Schema

variable {room : Nat} {v : Json}

theorem inferItems_eq_map (room : Nat) (vs : List Json) :
    inferItems room vs = vs.map (inferWithin room) := by
  induction vs with
  | nil => rfl
  | cons v vs ih => rw [inferItems, ih, List.map_cons]

theorem inferMembers_eq_map (room : Nat) (es : List (String × Json)) :
    inferMembers room es = Entries.mapValues (inferWithin room) es := by
  induction es with
  | nil => rfl
  | cons e es ih =>
    obtain ⟨k, v⟩ := e
    rw [inferMembers, ih]
    rfl

theorem keys_inferMembers (room : Nat) (es : List (String × Json)) :
    Entries.keys (inferMembers room es) = Entries.keys es := by
  rw [inferMembers_eq_map, Entries.keys_mapValues]

theorem mem_inferMembers {es : List (String × Json)} {k : String} {s : Schema} :
    (k, s) ∈ inferMembers room es ↔ ∃ v, (k, v) ∈ es ∧ inferWithin room v = s := by
  rw [inferMembers_eq_map, Entries.mapValues, List.mem_map]
  constructor
  · rintro ⟨⟨l, v⟩, hv, heq⟩
    cases heq
    exact ⟨v, hv, rfl⟩
  · rintro ⟨v, hv, rfl⟩
    exact ⟨(k, v), hv, rfl⟩

/-- **What is inferred is exact.** -/
theorem exact_inferWithin (h : v.isKeyed = true) : (inferWithin room v).Exact := by
  induction v using Json.induct generalizing room with
  | null | bool b | int n | float x | str s =>
    cases room with
    | zero => exact .unknown
    | succ room => constructor
  | arr vs ih =>
    cases room with
    | zero => exact .unknown
    | succ room =>
      rw [Json.isKeyed] at h
      rw [inferWithin, inferItems_eq_map]
      refine .array (Exact.mergeAll fun s hs => ?_)
      obtain ⟨v, hv, rfl⟩ := List.mem_map.1 hs
      exact ih v hv (Json.isKeyed_of_mem_items h hv)
  | obj es ih =>
    cases room with
    | zero => exact .unknown
    | succ room =>
      rw [Json.isKeyed, Bool.and_eq_true_iff, decide_eq_true_iff] at h
      obtain ⟨hdistinct, hmembers⟩ := h
      rw [inferWithin]
      refine .object ?_ fun k s hs => ?_
      · rw [Entries.Distinct, keys_inferMembers]
        exact hdistinct
      · obtain ⟨v, hv, rfl⟩ := mem_inferMembers.1 hs
        exact ih k v hv (Json.isKeyed_of_mem_members hmembers hv)

/-- A sample conforms to what is inferred when so many levels are looked at. -/
theorem conforms_inferWithin (h : v.isKeyed = true) : Conforms (inferWithin room v) v := by
  induction v using Json.induct generalizing room with
  | null | bool b | int n | float x =>
    cases room with
    | zero => exact .unknown
    | succ room => constructor
  | str s =>
    cases room with
    | zero => exact .unknown
    | succ room => exact .string fun name hname => hname
  | arr vs ih =>
    cases room with
    | zero => exact .unknown
    | succ room =>
      rw [Json.isKeyed] at h
      rw [inferWithin, inferItems_eq_map]
      have hexact : ∀ s ∈ vs.map (inferWithin room), s.Exact := by
        intro s hs
        obtain ⟨v, hv, rfl⟩ := List.mem_map.1 hs
        exact exact_inferWithin (Json.isKeyed_of_mem_items h hv)
      refine .array fun v hv => ?_
      exact (ih v hv (Json.isKeyed_of_mem_items h hv)).mergeAll hexact (List.mem_map_of_mem hv)
  | obj es ih =>
    cases room with
    | zero => exact .unknown
    | succ room =>
      rw [Json.isKeyed, Bool.and_eq_true_iff, decide_eq_true_iff] at h
      obtain ⟨hdistinct, hmembers⟩ := h
      rw [inferWithin]
      refine .object (fun _ hname => hname) (fun _ k v hv => ?_) fun k v s hv hs => ?_
      · rw [Entries.has_iff_mem_keys, keys_inferMembers]
        exact Entries.mem_keys_of_mem hv
      · obtain ⟨w, hw, rfl⟩ := mem_inferMembers.1 (Entries.mem_of_get? hs)
        -- no key stands twice, so the value that showed the property is the one at hand
        obtain rfl : v = w := Option.some.inj
          ((Entries.get?_of_mem hdistinct hv).symm.trans (Entries.get?_of_mem hdistinct hw))
        exact ih k v hv (Json.isKeyed_of_mem_members hmembers hv)

/-- A sample that was read from a text conforms to what it shows. -/
theorem conforms_of_read {text : String} (h : Json.read text = .ok v) :
    Conforms (inferWithin room v) v :=
  conforms_inferWithin (Json.isKeyed_of_read h)

/-- **Every sample conforms to the schema that it shows**, down to any depth. -/
theorem conforms_infer (sample : Json) (maxDepth : Int) (h : sample.isKeyed = true) :
    Conforms (infer sample maxDepth) sample :=
  conforms_inferWithin h

/-- A list of two objects that have one key in common, with values of two kinds. -/
def sampleItems : Json := .obj [("items", .arr [
  .obj [("id", .int 1), ("day", .str "2024-01-01")],
  .obj [("id", .str "b"), ("note", .null)]])]

/-- The two objects are merged to one shape, and the sample conforms to it. -/
theorem conforms_infer_sampleItems :
    sampleItems.isKeyed = true ∧
      infer sampleItems 5 = .object none [("items", .array none (.object none
        [("id", .unknown none), ("day", .string none (some "date")), ("note", .null none)]
        ["id"] false))] ["items"] false ∧
      Conforms (infer sampleItems 5) sampleItems := by
  have hkeyed : sampleItems.isKeyed = true := by decide +kernel
  exact ⟨hkeyed, by rfl, conforms_infer sampleItems 5 hkeyed⟩

end Schema

end Workflow
