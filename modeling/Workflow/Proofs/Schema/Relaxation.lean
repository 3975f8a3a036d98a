import Workflow.Proofs.Schema.Breakage

/-!
# Asking for less

A consumer that asks for less is served at least as well. What asking for less means is said by
`Schema.Relaxes`, along the two consumers: one does not require everything that the other requires,
does not look at every property, takes a text of any format, or takes anything at all.

For the comparison this is not a matter of leaving issues out. When a name is no longer required,
all that is found below it turns into warnings, and what is no object may do where an object is
expected. So nothing is said here about the issues of the two comparisons one by one. That nothing
is wrong (`Schema.Fits`) and that a required path breaks (`Schema.Breaks`) are relations on the two
sides that know neither paths nor strictness, and each is carried over by the relaxation
(`Schema.Fits.of_relaxes`, `Schema.Breaks.of_relaxes`).
-/

namespace Workflow

namespace Schema

/-- **The first consumer relaxes the second**: it asks for nothing that the second does not ask
for. -/
inductive Relaxes : Schema → Schema → Prop
  /-- Nothing is asked for. -/
  | unknown {d c} : Relaxes (.unknown d) c
  /-- The formats are the same, or none is asked for. -/
  | string {d' f' d f} (hformat : f' = f ∨ f' = none) : Relaxes (.string d' f') (.string d f)
  /-- Two numbers. -/
  | number {d' d} : Relaxes (.number d') (.number d)
  /-- Two truth values. -/
  | boolean {d' d} : Relaxes (.boolean d') (.boolean d)
  /-- Null on both sides. -/
  | null {d' d} : Relaxes (.null d') (.null d)
  /-- The items of a list are relaxed. -/
  | array {d' items' d items} (hitems : Relaxes items' items) :
      Relaxes (.array d' items') (.array d items)
  /-- No further names are required, and every property is one of the other consumer, relaxed. -/
  | object {d' fields' required' o' d fields required o} (hrequired : required' ⊆ required)
      (hdeclared : ∀ k t', (k, t') ∈ fields' → Entries.has fields k = true)
      (hrelaxed : ∀ k t' t, (k, t') ∈ fields' → Entries.get? fields k = some t → Relaxes t' t) :
      Relaxes (.object d' fields' required' o') (.object d fields required o)

variable {p c c' : Schema} {d d' : Option String} {fields fields' : Entries Schema}
  {required required' : List String} {isOpen isOpen' : Bool}

/-- Objects are relaxed name by name. -/
theorem relaxes_object :
    Relaxes (.object d' fields' required' isOpen') (.object d fields required isOpen) ↔
      required' ⊆ required ∧
        ∀ k t', (k, t') ∈ fields' → ∃ t, Entries.get? fields k = some t ∧ Relaxes t' t := by
  constructor
  · intro h
    cases h with
    | object hrequired hdeclared hrelaxed =>
      refine ⟨hrequired, fun k t' ht' => ?_⟩
      obtain ⟨t, ht⟩ := Entries.has_iff.1 (hdeclared k t' ht')
      exact ⟨t, ht, hrelaxed k t' t ht' ht⟩
  · rintro ⟨hrequired, hfields⟩
    refine .object hrequired (fun k t' ht' => ?_) fun k t' t ht' ht => ?_
    · obtain ⟨t, ht, -⟩ := hfields k t' ht'
      exact Entries.has_iff.2 ⟨t, ht⟩
    · obtain ⟨u, hu, h⟩ := hfields k t' ht'
      rw [ht] at hu
      rw [Option.some.inj hu]
      exact h

/-! ## What fits -/

theorem compareFormats_none (path : String) (f : Option String) :
    compareFormats path f none = [] := by
  cases f <;> rfl

/-- **What fits a consumer fits one that asks for less.** The induction is on the relaxation. -/
theorem Fits.of_relaxes (h : Relaxes c' c) (hfits : Fits p c) : Fits p c' := by
  induction h generalizing p with
  | unknown => exact .unknown
  | string hformat =>
    cases hfits with
    | string hformats =>
      obtain rfl | rfl := hformat
      · exact .string hformats
      · exact .string fun path => compareFormats_none path _
    | stringOfNumber => exact .stringOfNumber
    | stringOfBoolean => exact .stringOfBoolean
  | number =>
    cases hfits
    exact .number
  | boolean =>
    cases hfits
    exact .boolean
  | null =>
    cases hfits
    exact .null
  | array _ ih =>
    cases hfits with
    | array hitems => exact .array (ih hitems)
  | object hrequired hdeclared _ ih =>
    cases hfits with
    | object hpresent hshared =>
      refine .object (fun name hname => hpresent name (hrequired hname)) fun k s t' hs ht' => ?_
      obtain ⟨t, ht⟩ := Entries.has_iff.1 (hdeclared k t' ht')
      exact ih k t' t ht' ht (hshared k s t hs (Entries.mem_of_get? ht))

/-! ## What breaks -/

/-- Whether something can be wrong is a matter of the kinds. -/
theorem Comparable.of_kind_eq (h : Comparable p c') (hkind : c'.kind = c.kind) :
    Comparable p c := by
  rw [Comparable, ← hkind]
  exact h

/-- Where single values are expected it is a matter of the kinds whether they break. -/
theorem Breaks.of_kind_eq (h : Breaks p c') (hkind : c'.kind = c.kind) (hobject : c.kind ≠ .object)
    (hlist : c.kind ≠ .array) : Breaks p c := by
  rw [breaks_value (hkind ▸ hobject) (hkind ▸ hlist), hkind] at h
  rw [breaks_value hobject hlist]
  exact ⟨h.1.of_kind_eq hkind, h.2⟩

/-- **What breaks for a consumer breaks for one that asks for more.** The induction is on the
relaxation. A path that breaks leads through properties that the first consumer requires, and so
does the second. -/
theorem Breaks.of_relaxes (h : Relaxes c' c) (hbreaks : Breaks p c') : Breaks p c := by
  induction h generalizing p with
  | unknown => exact absurd rfl hbreaks.comparable.1
  | string | number | boolean | null =>
    exact hbreaks.of_kind_eq rfl nofun nofun
  | array _ ih =>
    cases hbreaks with
    | noList hcomparable hp => exact .noList (hcomparable.of_kind_eq rfl) hp
    | items hitems => exact .items (ih hitems)
    | value _ _ hlist => exact absurd rfl hlist
  | object hrequired hdeclared _ ih =>
    cases hbreaks with
    | missing hname hmissing => exact .missing (hrequired hname) hmissing
    | property hname hs ht' hbelow =>
      obtain ⟨t, ht⟩ := Entries.has_iff.1 (hdeclared _ _ ht')
      exact .property (hrequired hname) hs (Entries.mem_of_get? ht) (ih _ _ t ht' ht hbelow)
    | noObject hcomparable hp hne =>
      refine .noObject (hcomparable.of_kind_eq rfl) hp ?_
      rintro rfl
      exact hne (List.subset_nil.1 hrequired)
    | value _ hobject => exact absurd rfl hobject

/-! ## The status of two consumers -/

theorem check_error : (check (some p) (some c)).status = .error ↔ Breaks p c := by
  show Status.ofIssues (compare p c "" true) = .error ↔ _
  rw [ofIssues_eq_error, hasError_compare]
  exact and_iff_right rfl

/-- **Asking for less never makes a connection worse**, whatever the producer is: what was
compatible stays so, and what was no error becomes none. -/
theorem check_of_relaxes (p : Option Schema) (c c' : Schema) (h : Relaxes c' c) :
    ((check p (some c)).status = .compatible → (check p (some c')).status = .compatible) ∧
      ((check p (some c)).status ≠ .error → (check p (some c')).status ≠ .error) := by
  cases p with
  | none => exact ⟨id, id⟩
  | some p =>
    rw [check_compatible, check_compatible, Ne, Ne, check_error, check_error]
    exact ⟨.of_relaxes h, mt (.of_relaxes h)⟩

/-- A consumer of orders that relies on whom they are for. -/
def sampleDemand : Schema := .object none
  [("buyer", .object none [("name", .string none none), ("mail", .string none (some "email"))]
    ["name", "mail"] false), ("items", .array none (.number none))] ["buyer", "items"] false

/-- The same with a mail address of any form, to which an order need not have a buyer. -/
def sampleWish : Schema := .object none
  [("items", .array none (.unknown none)), ("buyer", .object none [("mail", .string none none)]
    ["mail"] true)] ["items"] false

/-- Orders whose buyers have a web address. -/
def sampleOrder : Schema := .object none
  [("buyer", .object none [("name", .string none none), ("mail", .string none (some "uri"))]
    [] false), ("items", .array none (.number none))] [] false

theorem relaxes_sampleWish : Relaxes sampleWish sampleDemand := by
  refine relaxes_object.2 ⟨by simp, fun k t' ht' => ?_⟩
  simp only [List.mem_cons, Prod.mk.injEq, List.not_mem_nil, or_false] at ht'
  obtain ⟨rfl, rfl⟩ | ⟨rfl, rfl⟩ := ht'
  · exact ⟨_, rfl, .array .unknown⟩
  · refine ⟨_, rfl, relaxes_object.2 ⟨by simp, fun k t' ht' => ?_⟩⟩
    simp only [List.mem_singleton, Prod.mk.injEq] at ht'
    obtain ⟨rfl, rfl⟩ := ht'
    exact ⟨_, rfl, .string (.inr rfl)⟩

/-- What comes with a warning, for the form of the mail address, is no error for the consumer that
asks for less, and what is compatible stays so. -/
theorem check_of_relaxes_sampleWish :
    Relaxes sampleWish sampleDemand ∧
      (check (some sampleOrder) (some sampleDemand)).status = .warning ∧
      (check (some sampleOrder) (some sampleWish)).status ≠ .error ∧
      (check (some sampleDemand) (some sampleDemand)).status = .compatible ∧
      (check (some sampleDemand) (some sampleWish)).status = .compatible := by
  have h := relaxes_sampleWish
  have hwarning : (check (some sampleOrder) (some sampleDemand)).status = .warning := by
    decide +kernel
  have hcompatible : (check (some sampleDemand) (some sampleDemand)).status = .compatible := by
    decide +kernel
  refine ⟨h, hwarning, ?_, hcompatible, ?_⟩
  · refine (check_of_relaxes (some sampleOrder) sampleDemand sampleWish h).2 ?_
    rw [hwarning]
    decide
  · exact (check_of_relaxes (some sampleDemand) sampleDemand sampleWish h).1 hcompatible

end Schema

end Workflow
