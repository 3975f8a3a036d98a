import Mathlib.Tactic.Choose
import Workflow.Proofs.Schema.Values
import Workflow.Schema.Compatibility

/-!
# What compatibility promises

When two sides are found compatible, nothing is wrong with them, and what that means does not
depend on the place at which they are compared: `Schema.Fits` says it along the two schemas. Of
the values that the producer gives the consumer can then take all – but for one gap. The
comparison asks that what the consumer requires is declared by the producer, and does not ask
that the producer requires it too. So a key that the producer may leave out is missing where the
consumer relies on it.

Where the producer does require what it declares and the consumer requires
(`Schema.Guarantees`), compatibility is sound. Nothing less will do:
`Schema.guarantees_of_accepts` shows it for all producers that can give what they declare.
-/

namespace Workflow

namespace Schema

variable {p c s t : Schema} {ps fields : Entries Schema} {required : List String} {k path : String}
  {strict : Bool} {v : Json}

/-! ## When nothing is wrong -/

/-- **Nothing is wrong** when data of the one shape are consumed as the other one. -/
inductive Fits : Schema → Schema → Prop
  /-- Everything may be consumed where nothing is expected. -/
  | unknown {p d} : Fits p (.unknown d)
  /-- The producer declares what the consumer requires, and the properties that both declare
  fit. -/
  | object {d ps req o d' fields req' o'} (hrequired : ∀ name ∈ req', Entries.has ps name = true)
      (hshared : ∀ k s t, Entries.get? ps k = some s → (k, t) ∈ fields → Fits s t) :
      Fits (.object d ps req o) (.object d' fields req' o')
  /-- The items fit. -/
  | array {d items d' items'} (hitems : Fits items items') :
      Fits (.array d items) (.array d' items')
  /-- The formats are the same, where both are given. -/
  | string {d f d' f'} (hformats : ∀ path, compareFormats path f f' = []) :
      Fits (.string d f) (.string d' f')
  /-- A number is taken for a text. -/
  | stringOfNumber {d d' f} : Fits (.number d) (.string d' f)
  /-- A truth value is taken for a text. -/
  | stringOfBoolean {d d' f} : Fits (.boolean d) (.string d' f)
  /-- Two numbers. -/
  | number {d d'} : Fits (.number d) (.number d')
  /-- Two truth values. -/
  | boolean {d d'} : Fits (.boolean d) (.boolean d')
  /-- Null on both sides. -/
  | null {d d'} : Fits (.null d) (.null d')

/-- Whether two formats differ does not depend on the place. -/
theorem compareFormats_eq_nil {f g : Option String} (other : String) :
    compareFormats path f g = [] ↔ compareFormats other f g = [] := by
  unfold compareFormats
  split
  · split <;> simp
  · exact Iff.rfl

theorem missingFields_eq_nil :
    missingFields required ps path strict = [] ↔ ∀ name ∈ required, Entries.has ps name = true := by
  simp [missingFields]

theorem compareFields_eq_nil :
    compareFields ps required path strict fields = [] ↔
      ∀ k s t, Entries.get? ps k = some s → (k, t) ∈ fields →
        compare s t (Issue.join path k) (strict && required.contains k) = [] := by
  induction fields with
  | nil => simp [compareFields]
  | cons e fields ih =>
    obtain ⟨l, u⟩ := e
    rw [compareFields, List.append_eq_nil_iff, ih]
    constructor
    · rintro ⟨hhead, htail⟩ k s t hs hmem
      obtain heq | hmem := List.mem_cons.1 hmem
      · cases heq
        simpa [hs] using hhead
      · exact htail k s t hs hmem
    · intro h
      refine ⟨?_, fun k s t hs hmem => h k s t hs (List.mem_cons_of_mem _ hmem)⟩
      cases hs : Entries.get? ps l with
      | none => rfl
      | some s => exact h l s u hs List.mem_cons_self

/-- **The comparison finds nothing wrong** exactly when nothing is. -/
theorem compare_eq_nil : compare p c path strict = [] ↔ Fits p c := by
  induction c using induct generalizing p path strict with
  | object d fields required isOpen ih =>
    constructor
    · intro h
      cases p with
      | object d' ps required' isOpen' =>
        have h : missingFields required ps path strict ++
            compareFields ps required path strict fields = [] := h
        rw [List.append_eq_nil_iff, missingFields_eq_nil, compareFields_eq_nil] at h
        exact .object h.1 fun k s t hs ht => (ih k t ht).1 (h.2 k s t hs ht)
      | _ => simp [compare, imprecise?] at h
    · intro h
      cases h with
      | @object d' ps required' isOpen' _ _ _ _ hrequired hshared =>
        show missingFields required ps path strict ++
          compareFields ps required path strict fields = []
        rw [List.append_eq_nil_iff, missingFields_eq_nil, compareFields_eq_nil]
        exact ⟨hrequired, fun k s t hs ht => (ih k t ht).2 (hshared k s t hs ht)⟩
  | array d items ih =>
    constructor
    · intro h
      cases p with
      | array d' items' => exact .array (ih.1 h)
      | _ => simp [compare, imprecise?] at h
    · intro h
      cases h with
      | array hitems => exact ih.2 hitems
  | string d format =>
    constructor
    · intro h
      cases p with
      | string d' format' =>
        have h : compareFormats path format' format = [] := h
        exact .string fun other => (compareFormats_eq_nil other).1 h
      | number d' => exact .stringOfNumber
      | boolean d' => exact .stringOfBoolean
      | _ => simp [compare, imprecise?, compareSimple, kind, coerces] at h
    · intro h
      cases h with
      | string hformats => exact hformats path
      | stringOfNumber => rfl
      | stringOfBoolean => rfl
  | number d =>
    constructor
    · intro h
      cases p with
      | number d' => exact .number
      | _ => simp [compare, imprecise?, compareSimple, kind, coerces] at h
    · intro h
      cases h
      rfl
  | boolean d =>
    constructor
    · intro h
      cases p with
      | boolean d' => exact .boolean
      | _ => simp [compare, imprecise?, compareSimple, kind, coerces] at h
    · intro h
      cases h
      rfl
  | null d =>
    constructor
    · intro h
      cases p with
      | null d' => exact .null
      | _ => simp [compare, imprecise?, compareSimple, kind, coerces] at h
    · intro h
      cases h
      rfl
  | unknown d => exact ⟨fun _ => .unknown, fun _ => rfl⟩

theorem ofIssues_eq_compatible {issues : List Issue} :
    Status.ofIssues issues = .compatible ↔ issues = [] := by
  cases issues with
  | nil => simp [Status.ofIssues]
  | cons issue issues =>
    unfold Status.ofIssues
    split <;> simp

/-- **Two sides are compatible** exactly when nothing is wrong. -/
theorem check_compatible : (check (some p) (some c)).status = .compatible ↔ Fits p c := by
  show Status.ofIssues (compare p c "" true) = .compatible ↔ _
  rw [ofIssues_eq_compatible, compare_eq_nil]

/-! ## What the consumer can take -/

/-- **What the consumer requires and the producer declares, the producer requires too**, wherever
both have an object. -/
inductive Guarantees : Schema → Schema → Prop
  /-- Two objects, whose shared properties are again such. -/
  | object {d ps req o d' fields req' o'}
      (hrequired : ∀ name ∈ req', Entries.has ps name = true → name ∈ req)
      (hshared : ∀ k s t, Entries.get? ps k = some s → (k, t) ∈ fields → Guarantees s t) :
      Guarantees (.object d ps req o) (.object d' fields req' o')
  /-- Two arrays, whose items are such. -/
  | array {d items d' items'} (hitems : Guarantees items items') :
      Guarantees (.array d items) (.array d' items')
  /-- Two schemas that have nothing inside at the same place. -/
  | other {p c : Schema} (h : p.kind ≠ c.kind ∨ p.kind ≠ .object ∧ p.kind ≠ .array) :
      Guarantees p c

/-- What fits is taken, if the producer guarantees what the consumer relies on. -/
theorem Fits.accepts (h : Fits p c) (hg : Guarantees p c) (hv : Produces p v) : Accepts c v := by
  induction h generalizing v with
  | unknown => exact .unknown
  | object hrequired hshared ih =>
    cases hg with
    | object hguaranteed hguarantees =>
      cases hv with
      | object hpresent hdeclared hvalues =>
        refine .object (fun name hname => ?_) fun k v t hmem ht => ?_
        · exact hpresent name (hguaranteed name hname (hrequired name hname))
        · obtain ⟨s, hs⟩ := Entries.has_iff.1 (hdeclared k v hmem)
          exact ih k s t hs ht (hguarantees k s t hs ht) (hvalues k v s hmem hs)
    | other h => simp [kind] at h
  | array hitems ih =>
    cases hg with
    | array hguarantees =>
      cases hv with
      | array hvs => exact .array fun v hmem => ih hguarantees (hvs v hmem)
    | other h => simp [kind] at h
  | string =>
    cases hv
    exact .string
  | stringOfNumber =>
    cases hv with
    | int => exact .stringOfInt
    | float => exact .stringOfFloat
  | stringOfBoolean =>
    cases hv
    exact .stringOfBool
  | number =>
    cases hv with
    | int => exact .int
    | float => exact .float
  | boolean =>
    cases hv
    exact .boolean
  | null =>
    cases hv
    exact .null

/-! ## Nothing less will do -/

/-- **A producer that can give what it declares**: its objects are closed and declare what they
require, and the same holds of what is inside. -/
inductive Realizable : Schema → Prop
  /-- An object. -/
  | object {d ps required} (hrequired : ∀ name ∈ required, Entries.has ps name = true)
      (hproperties : ∀ k s, (k, s) ∈ ps → Realizable s) : Realizable (.object d ps required false)
  /-- An array. -/
  | array {d items} (hitems : Realizable items) : Realizable (.array d items)
  /-- Texts can be given. -/
  | string {d format} : Realizable (.string d format)
  /-- Numbers can be given. -/
  | number {d} : Realizable (.number d)
  /-- Truth values can be given. -/
  | boolean {d} : Realizable (.boolean d)
  /-- Null can be given. -/
  | null {d} : Realizable (.null d)
  /-- Anything can be given. -/
  | unknown {d} : Realizable (.unknown d)

/-- The object with chosen values at some of the properties. -/
def chosen (ps : Entries Schema) (keep : String → Bool) (value : String → Json) : Entries Json :=
  (ps.filter fun e => keep e.1).map fun e => (e.1, value e.1)

theorem mem_chosen {keep : String → Bool} {value : String → Json} :
    (k, v) ∈ chosen ps keep value ↔ keep k = true ∧ Entries.has ps k = true ∧ v = value k := by
  rw [chosen, List.mem_map, Entries.has_iff_mem_keys, Entries.keys]
  constructor
  · rintro ⟨⟨l, s⟩, hmem, heq⟩
    cases heq
    obtain ⟨hmem, hkeep⟩ := List.mem_filter.1 hmem
    exact ⟨hkeep, List.mem_map_of_mem hmem, rfl⟩
  · rintro ⟨hkeep, hmem, rfl⟩
    obtain ⟨⟨l, s⟩, hl, rfl⟩ := List.mem_map.1 hmem
    exact ⟨(l, s), List.mem_filter.2 ⟨hl, hkeep⟩, rfl⟩

theorem keys_chosen {keep : String → Bool} {value : String → Json} :
    k ∈ Entries.keys (chosen ps keep value) ↔ keep k = true ∧ Entries.has ps k = true := by
  constructor
  · intro h
    obtain ⟨⟨l, v⟩, hmem, rfl⟩ := List.mem_map.1 h
    obtain ⟨hkeep, hhas, -⟩ := mem_chosen.1 hmem
    exact ⟨hkeep, hhas⟩
  · rintro ⟨hkeep, hhas⟩
    exact Entries.mem_keys_of_mem (mem_chosen.2 ⟨hkeep, hhas, rfl⟩)

/-- What is chosen is produced, if nothing is left out that is required. -/
theorem produces_chosen {d : Option String} {keep : String → Bool} {value : String → Json}
    (hrequired : ∀ name ∈ required, Entries.has ps name = true)
    (hkeep : ∀ name ∈ required, keep name = true)
    (hvalue : ∀ k s, keep k = true → Entries.get? ps k = some s → Produces s (value k)) :
    Produces (.object d ps required false) (.obj (chosen ps keep value)) := by
  refine .object (fun name hname => ?_) (fun k v hmem => ?_) fun k v s hmem hs => ?_
  · exact keys_chosen.2 ⟨hkeep name hname, hrequired name hname⟩
  · exact (mem_chosen.1 hmem).2.1
  · obtain ⟨hkept, -, rfl⟩ := mem_chosen.1 hmem
    exact hvalue k s hkept hs

/-- If each property has a value, there is one choice of values for all of them. -/
theorem exists_values (h : ∀ k s, Entries.get? ps k = some s → ∃ v, Produces s v) :
    ∃ value : String → Json, ∀ k s, Entries.get? ps k = some s → Produces s (value k) := by
  have hk : ∀ k, ∃ v, ∀ s, Entries.get? ps k = some s → Produces s v := by
    intro k
    cases hs : Entries.get? ps k with
    | none => exact ⟨.null, nofun⟩
    | some s =>
      obtain ⟨v, hv⟩ := h k s hs
      refine ⟨v, fun t ht => ?_⟩
      rw [← Option.some.inj ht]
      exact hv
  choose value hvalue using hk
  exact ⟨value, hvalue⟩

/-- A producer that can give what it declares gives something. -/
theorem Realizable.exists_value (h : p.Realizable) : ∃ v, Produces p v := by
  induction h with
  | @object d ps required hrequired _ ih =>
    obtain ⟨value, hvalue⟩ := exists_values fun k s hs => ih k s (Entries.mem_of_get? hs)
    exact ⟨_, @produces_chosen ps required d (fun _ => true) value hrequired (fun _ _ => rfl)
      fun k s _ hs => hvalue k s hs⟩
  | array => exact ⟨.arr [], .array nofun⟩
  | string => exact ⟨.str "", .string⟩
  | number => exact ⟨.int 0, .int⟩
  | boolean => exact ⟨.bool true, .boolean⟩
  | null => exact ⟨.null, .null⟩
  | unknown => exact ⟨.null, .unknown⟩

/-- **Nothing less will do**: where the two sides fit, and the consumer can take whatever the
producer gives, the producer guarantees what the consumer relies on. -/
theorem guarantees_of_accepts (hfits : Fits p c) (hp : p.Realizable)
    (h : ∀ v, Produces p v → Accepts c v) : Guarantees p c := by
  induction hfits with
  | @object d ps req o d' fields req' o' _ _ ih =>
    cases hp with
    | object hrequired hproperties =>
      obtain ⟨value, hvalue⟩ := exists_values fun k s hs =>
        (hproperties k s (Entries.mem_of_get? hs)).exists_value
      refine .object (fun name hname hhas => ?_) fun k s t hs ht => ?_
      · -- the object with nothing in it but what the producer requires
        have hproduced := @produces_chosen ps req d (fun k => decide (k ∈ req)) value hrequired
          (fun name hname => decide_eq_true hname) fun k s _ hs => hvalue k s hs
        cases h _ hproduced with
        | object hpresent => exact of_decide_eq_true (keys_chosen.1 (hpresent name hname)).1
      · refine ih k s t hs ht (hproperties k s (Entries.mem_of_get? hs)) fun v hv => ?_
        -- the object with the value at the shared property, and else only what is required
        have hproduced := @produces_chosen ps req d (fun l => decide (l ∈ req ∨ l = k))
          (Function.update value k v) hrequired (fun name hname => decide_eq_true (.inl hname))
          fun l u _ hu => by
            by_cases hl : l = k
            · subst hl
              rw [Function.update_self, Option.some.inj (hu.symm.trans hs)]
              exact hv
            · rw [Function.update_of_ne hl]
              exact hvalue l u hu
        cases h _ hproduced with
        | object _ haccepted =>
          refine haccepted k v t (mem_chosen.2 ⟨decide_eq_true (.inr rfl), ?_, ?_⟩) ht
          · exact Entries.has_iff.2 ⟨s, hs⟩
          · exact (Function.update_self k v value).symm
  | @array d items d' items' _ ih =>
    cases hp with
    | array hitems =>
      refine .array (ih hitems fun v hv => ?_)
      have hproduced : Produces (.array d items) (.arr [v]) :=
        .array fun w hw => List.mem_singleton.1 hw ▸ hv
      cases h _ hproduced with
      | array haccepted => exact haccepted v (List.mem_singleton.2 rfl)
  | @unknown p d =>
    refine .other ?_
    cases p <;> simp [kind]
  | string => exact .other (.inr (by simp [kind]))
  | stringOfNumber => exact .other (.inl (by simp [kind]))
  | stringOfBoolean => exact .other (.inl (by simp [kind]))
  | number => exact .other (.inr (by simp [kind]))
  | boolean => exact .other (.inr (by simp [kind]))
  | null => exact .other (.inr (by simp [kind]))

/-! ## Compatibility is sound -/

/-- **Compatibility is sound** where the producer requires what it declares and the consumer
requires: whatever value the producer gives, the consumer can take it. -/
theorem accepts_of_compatible (h : (check (some p) (some c)).status = .compatible)
    (hg : Guarantees p c) (hv : Produces p v) : Accepts c v :=
  (check_compatible.1 h).accepts hg hv

/-- A list of objects that have an id, and may have a note. -/
def notedItems (required : List String) : Schema :=
  .array none (.object none [("id", .number none), ("note", .string none none)] required false)

/-- The list of an object that has nothing but an id. -/
def plainItems : Json :=
  .arr [.obj [("id", .int 1)]]

theorem produces_plainItems : Produces (notedItems ["id"]) plainItems := by
  refine .array fun v hv => ?_
  rw [List.mem_singleton.1 hv]
  refine .object (by decide +kernel) (fun k v hmem => ?_) fun k v s hmem hs => ?_
  · cases List.mem_singleton.1 hmem
    decide +kernel
  · cases List.mem_singleton.1 hmem
    cases hs
    exact .int

theorem guarantees_notedItems : Guarantees (notedItems ["id"]) (notedItems ["id"]) := by
  refine .array (.object (fun _ hname _ => hname) fun k s t hs _ => .other (.inr ?_))
  have hs := Entries.mem_of_get? hs
  simp only [List.mem_cons, Prod.mk.injEq, List.not_mem_nil, or_false] at hs
  obtain ⟨-, rfl⟩ | ⟨-, rfl⟩ := hs
  · exact ⟨nofun, nofun⟩
  · exact ⟨nofun, nofun⟩

/-- The items have an id, and the id is all that is relied on. -/
theorem accepts_of_compatible_plainItems :
    (check (some (notedItems ["id"])) (some (notedItems ["id"]))).status = .compatible ∧
      Guarantees (notedItems ["id"]) (notedItems ["id"]) ∧
      Produces (notedItems ["id"]) plainItems ∧ Accepts (notedItems ["id"]) plainItems := by
  have hcompatible : (check (some (notedItems ["id"])) (some (notedItems ["id"]))).status
      = .compatible := by decide +kernel
  exact ⟨hcompatible, guarantees_notedItems, produces_plainItems,
    accepts_of_compatible hcompatible guarantees_notedItems produces_plainItems⟩

/-- **A key that may be left out** is missing where the consumer relies on it: the two sides are
found compatible, and of what the producer gives there is a list that the consumer cannot
take. -/
theorem not_accepts_optional :
    Realizable (notedItems ["id"]) ∧
      (check (some (notedItems ["id"])) (some (notedItems ["id", "note"]))).status = .compatible ∧
      Produces (notedItems ["id"]) plainItems ∧
      ¬ Accepts (notedItems ["id", "note"]) plainItems := by
  refine ⟨.array (.object (by decide +kernel) fun k s hs => ?_), by decide +kernel,
    produces_plainItems, fun h => ?_⟩
  · simp only [List.mem_cons, Prod.mk.injEq, List.not_mem_nil, or_false] at hs
    obtain ⟨-, rfl⟩ | ⟨-, rfl⟩ := hs
    · exact .number
    · exact .string
  · cases h with
    | array hitems =>
      cases hitems _ List.mem_cons_self with
      | object hrequired => exact absurd (hrequired "note" (by simp)) (by decide +kernel)

end Schema

end Workflow
