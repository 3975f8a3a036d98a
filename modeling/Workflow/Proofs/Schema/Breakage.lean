import Workflow.Proofs.Schema.Compatibility

/-!
# When two sides are in error

An issue is an error or a warning, and which of the two it is depends on where it is found. The
comparison goes down both schemas at once and carries along whether all properties on the way were
required; below one that was not it has only warnings to give, for the consumer can do without what
is there.

So there is an error exactly when the two sides go apart at a place that only required properties
and items of lists lead to. `Schema.Breaks` says that along the two schemas, without paths and
without issues, and `Schema.hasError_compare` is the induction that shows it to be what the
comparison finds.
-/

namespace Workflow

namespace Schema

/-! ## Paths that break -/

/-- **Something can be wrong** between two sides of which both are known. A producer that gives null
is known only where null is expected. -/
def Comparable (p c : Schema) : Prop :=
  c.kind ≠ .unknown ∧ p.kind ≠ .unknown ∧ (p.kind = .null → c.kind = .null)

/-- **A required path breaks**: the consumer relies on something that the producer does not give. -/
inductive Breaks : Schema → Schema → Prop
  /-- A property that is required is not there. -/
  | missing {d ps req o d' fields req' o' name} (hname : name ∈ req')
      (hmissing : Entries.has ps name = false) :
      Breaks (.object d ps req o) (.object d' fields req' o')
  /-- A path breaks below a property that is required. -/
  | property {d ps req o d' fields req' o' name s t} (hname : name ∈ req')
      (hs : Entries.get? ps name = some s) (ht : (name, t) ∈ fields) (h : Breaks s t) :
      Breaks (.object d ps req o) (.object d' fields req' o')
  /-- Properties are required of what is no object. -/
  | noObject {p d fields req o} (h : Comparable p (.object d fields req o))
      (hp : p.kind ≠ .object) (hreq : req ≠ []) : Breaks p (.object d fields req o)
  /-- A list is expected of what is none. -/
  | noList {p d items} (h : Comparable p (.array d items)) (hp : p.kind ≠ .array) :
      Breaks p (.array d items)
  /-- A path breaks in the items of two lists. -/
  | items {d items d' items'} (h : Breaks items items') :
      Breaks (.array d items) (.array d' items')
  /-- A single value is expected and one of another kind is given. Only numbers and truth values
  are taken for texts. -/
  | value {p c} (h : Comparable p c) (hobject : c.kind ≠ .object) (hlist : c.kind ≠ .array)
      (hkind : p.kind ≠ c.kind)
      (htext : c.kind = .string → p.kind ≠ .number ∧ p.kind ≠ .boolean) : Breaks p c

variable {p c items items' : Schema} {d d' : Option String} {ps fields : Entries Schema}
  {required required' : List String} {isOpen isOpen' strict : Bool} {path : String}

/-- No path breaks where nothing can be wrong. -/
theorem Breaks.comparable (h : Breaks p c) : Comparable p c := by
  cases h with
  | missing => exact ⟨nofun, nofun, nofun⟩
  | property => exact ⟨nofun, nofun, nofun⟩
  | noObject h => exact h
  | noList h => exact h
  | items => exact ⟨nofun, nofun, nofun⟩
  | value h => exact h

theorem breaks_object :
    Breaks (.object d ps required isOpen) (.object d' fields required' isOpen') ↔
      (∃ name ∈ required', Entries.has ps name = false) ∨
        ∃ name s t, name ∈ required' ∧ Entries.get? ps name = some s ∧ (name, t) ∈ fields ∧
          Breaks s t := by
  constructor
  · intro h
    cases h with
    | missing hname hmissing => exact .inl ⟨_, hname, hmissing⟩
    | property hname hs ht h => exact .inr ⟨_, _, _, hname, hs, ht, h⟩
    | noObject _ hp => exact absurd rfl hp
    | value _ hobject => exact absurd rfl hobject
  · rintro (⟨name, hname, hmissing⟩ | ⟨name, s, t, hname, hs, ht, h⟩)
    · exact .missing hname hmissing
    · exact .property hname hs ht h

theorem breaks_object_of_ne (hp : p.kind ≠ .object) :
    Breaks p (.object d fields required isOpen) ↔
      Comparable p (.object d fields required isOpen) ∧ required ≠ [] := by
  constructor
  · intro h
    cases h with
    | missing => exact absurd rfl hp
    | property => exact absurd rfl hp
    | noObject h _ hrequired => exact ⟨h, hrequired⟩
    | value _ hobject => exact absurd rfl hobject
  · rintro ⟨h, hrequired⟩
    exact .noObject h hp hrequired

theorem breaks_array : Breaks (.array d items) (.array d' items') ↔ Breaks items items' := by
  constructor
  · intro h
    cases h with
    | noList _ hp => exact absurd rfl hp
    | items h => exact h
    | value _ _ hlist => exact absurd rfl hlist
  · exact .items

theorem breaks_array_of_ne (hp : p.kind ≠ .array) :
    Breaks p (.array d items) ↔ Comparable p (.array d items) := by
  refine ⟨Breaks.comparable, fun h => .noList h hp⟩

theorem breaks_value (hobject : c.kind ≠ .object) (hlist : c.kind ≠ .array) :
    Breaks p c ↔ Comparable p c ∧ p.kind ≠ c.kind ∧
      (c.kind = .string → p.kind ≠ .number ∧ p.kind ≠ .boolean) := by
  constructor
  · intro h
    cases h with
    | missing => exact absurd rfl hobject
    | property => exact absurd rfl hobject
    | noObject => exact absurd rfl hobject
    | noList => exact absurd rfl hlist
    | items => exact absurd rfl hlist
    | value h _ _ hkind htext => exact ⟨h, hkind, htext⟩
  · rintro ⟨h, hkind, htext⟩
    exact .value h hobject hlist hkind htext

/-- A consumer that requires nothing relies on nothing. -/
theorem not_breaks_of_nil : ¬ Breaks p (.object d fields [] isOpen) := by
  intro h
  cases h with
  | missing hname => cases hname
  | property hname => cases hname
  | noObject _ _ hrequired => exact hrequired rfl
  | value _ hobject => exact hobject rfl

/-! ## Errors among issues -/

/-- Whether one of the issues is an error. -/
def HasError (issues : List Issue) : Prop :=
  ∃ issue ∈ issues, issue.severity = .error

theorem not_hasError_nil : ¬ HasError [] := by
  simp [HasError]

theorem hasError_singleton {issue : Issue} : HasError [issue] ↔ issue.severity = .error := by
  simp [HasError]

theorem hasError_append {xs ys : List Issue} : HasError (xs ++ ys) ↔ HasError xs ∨ HasError ys := by
  simp [HasError, or_and_right, exists_or]

theorem severityOf_eq_error : Issue.severityOf strict = .error ↔ strict = true := by
  cases strict <;> simp [Issue.severityOf]

theorem hasError_mismatch {source target : Kind} :
    HasError [Issue.mismatch strict path source target] ↔ strict = true :=
  hasError_singleton.trans severityOf_eq_error

theorem ofIssues_eq_error {issues : List Issue} :
    Status.ofIssues issues = .error ↔ HasError issues := by
  have hany : (issues.any fun issue => issue.severity == .error) = true ↔ HasError issues := by
    simp [HasError]
  rw [← hany, Status.ofIssues]
  split
  · next h => simp [h]
  · next h =>
    refine iff_of_false ?_ h
    split <;> simp

theorem ofIssues_ne_unknown {issues : List Issue} : Status.ofIssues issues ≠ .unknown := by
  unfold Status.ofIssues
  split
  · simp
  · split <;> simp

/-- A warning is all that is left when there is neither an error nor nothing at all. -/
theorem ofIssues_eq_warning {issues : List Issue} :
    Status.ofIssues issues = .warning ↔
      Status.ofIssues issues ≠ .error ∧ Status.ofIssues issues ≠ .compatible := by
  have hunknown := @ofIssues_ne_unknown issues
  revert hunknown
  cases Status.ofIssues issues <;> simp

/-! ## What the comparison finds -/

/-- The producer is imprecise where nothing can be wrong. -/
theorem imprecise?_eq_none {path : String} (hc : c.kind ≠ .unknown) :
    imprecise? p path c.kind = none ↔ Comparable p c := by
  unfold Comparable
  generalize c.kind = target at hc ⊢
  cases p with
  | null => by_cases hnull : target = .null <;> simp [imprecise?, kind, hc, hnull]
  | unknown => simp [imprecise?, kind]
  | _ => simp [imprecise?, kind, hc]

theorem severity_of_imprecise? {target : Kind} {issue : Issue}
    (h : imprecise? p path target = some issue) : issue.severity = .warning := by
  unfold imprecise? at h
  split at h
  · cases h
    rfl
  · split at h
    · cases h
    · cases h
      rfl
  · cases h

/-- Where an imprecise producer is told instead of all else, there is an error when something can be
wrong and something is. -/
theorem hasError_elim_imprecise? {target : Kind} (hc : c.kind = target) (htarget : target ≠ .unknown)
    {issues : List Issue} :
    HasError ((imprecise? p path target).elim issues fun issue => [issue]) ↔
      Comparable p c ∧ HasError issues := by
  subst hc
  rw [← imprecise?_eq_none htarget]
  cases h : imprecise? p path c.kind with
  | none => simp
  | some issue => simp [hasError_singleton, severity_of_imprecise? h]

theorem compare_object_of_ne (hp : p.kind ≠ .object) :
    compare p (.object d fields required isOpen) path strict =
      (imprecise? p path .object).elim
        [Issue.mismatch (strict && !required.isEmpty) path p.kind .object] fun issue => [issue] := by
  cases p with
  | object => exact absurd rfl hp
  | _ => rfl

theorem compare_array_of_ne (hp : p.kind ≠ .array) :
    compare p (.array d items) path strict =
      (imprecise? p path .array).elim [Issue.mismatch strict path p.kind .array]
        fun issue => [issue] := by
  cases p with
  | array => exact absurd rfl hp
  | _ => rfl

theorem compare_value (hobject : c.kind ≠ .object) (hlist : c.kind ≠ .array)
    (hunknown : c.kind ≠ .unknown) :
    compare p c path strict =
      (imprecise? p path c.kind).elim (compareSimple p c path strict) fun issue => [issue] := by
  cases c with
  | object => exact absurd rfl hobject
  | array => exact absurd rfl hlist
  | unknown => exact absurd rfl hunknown
  | _ =>
    rw [compare.eq_def]
    dsimp only
    split
    · next h => rw [h, Option.elim_some]
    · next h => rw [h, Option.elim_none]

theorem hasError_missingFields :
    HasError (missingFields required ps path strict) ↔
      strict = true ∧ ∃ name ∈ required, Entries.has ps name = false := by
  rw [← severityOf_eq_error]
  constructor
  · rintro ⟨issue, hissue, herror⟩
    obtain ⟨name, hname, rfl⟩ := List.mem_map.1 hissue
    obtain ⟨hname, hmissing⟩ := List.mem_filter.1 hname
    exact ⟨herror, name, hname, by simpa using hmissing⟩
  · rintro ⟨herror, name, hname, hmissing⟩
    refine ⟨_, List.mem_map_of_mem (List.mem_filter.2 ⟨hname, ?_⟩), herror⟩
    simp [hmissing]

/-- What is found in the properties is found in one that both sides have. -/
theorem mem_compareFields {issue : Issue} :
    issue ∈ compareFields ps required path strict fields ↔
      ∃ k s t, Entries.get? ps k = some s ∧ (k, t) ∈ fields ∧
        issue ∈ compare s t (Issue.join path k) (strict && required.contains k) := by
  induction fields with
  | nil => simp [compareFields]
  | cons e fields ih =>
    obtain ⟨l, u⟩ := e
    rw [compareFields, List.mem_append, ih]
    constructor
    · rintro (h | ⟨k, s, t, hs, ht, h⟩)
      · split at h
        · next s hs => exact ⟨l, s, u, hs, List.mem_cons_self, h⟩
        · cases h
      · exact ⟨k, s, t, hs, List.mem_cons_of_mem _ ht, h⟩
    · rintro ⟨k, s, t, hs, ht, h⟩
      obtain heq | ht := List.mem_cons.1 ht
      · cases heq
        rw [hs]
        exact .inl h
      · exact .inr ⟨k, s, t, hs, ht, h⟩

theorem hasError_compareFields :
    HasError (compareFields ps required path strict fields) ↔
      ∃ k s t, Entries.get? ps k = some s ∧ (k, t) ∈ fields ∧
        HasError (compare s t (Issue.join path k) (strict && required.contains k)) := by
  constructor
  · rintro ⟨issue, hissue, herror⟩
    obtain ⟨k, s, t, hs, ht, hissue⟩ := mem_compareFields.1 hissue
    exact ⟨k, s, t, hs, ht, issue, hissue, herror⟩
  · rintro ⟨k, s, t, hs, ht, issue, hissue, herror⟩
    exact ⟨issue, mem_compareFields.2 ⟨k, s, t, hs, ht, hissue⟩, herror⟩

theorem not_hasError_compareFormats {f g : Option String} : ¬ HasError (compareFormats path f g) := by
  unfold compareFormats
  split
  · split
    · exact fun h => nomatch hasError_singleton.1 h
    · exact not_hasError_nil
  · exact not_hasError_nil

/-- Single values of one kind are never in error, and of two kinds they are unless the one is taken
for the other. -/
theorem hasError_compareSimple :
    HasError (compareSimple p c path strict) ↔
      strict = true ∧ p.kind ≠ c.kind ∧ coerces p.kind c.kind = false := by
  unfold compareSimple
  split
  · refine iff_of_false not_hasError_compareFormats fun h => h.2.1 rfl
  · split
    · next h =>
      refine iff_of_false not_hasError_nil fun ⟨_, hkind, hcoerces⟩ => ?_
      obtain h | h := h
      · exact hkind h
      · rw [h] at hcoerces
        cases hcoerces
    · next h =>
      rw [hasError_mismatch]
      simp only [not_or, Bool.not_eq_true] at h
      simp [h]

theorem coerces_eq_false {source target : Kind} :
    coerces source target = false ↔
      (target = .string → source ≠ .number ∧ source ≠ .boolean) := by
  cases source <;> cases target <;> simp [coerces]

/-! ## The comparison of two sides -/

/-- A consumer of single values. -/
theorem hasError_compare_value (hobject : c.kind ≠ .object) (hlist : c.kind ≠ .array)
    (hunknown : c.kind ≠ .unknown) :
    HasError (compare p c path strict) ↔ strict = true ∧ Breaks p c := by
  rw [compare_value hobject hlist hunknown, hasError_elim_imprecise? rfl hunknown,
    hasError_compareSimple, breaks_value hobject hlist, coerces_eq_false, and_left_comm]

/-- **The comparison finds an error** exactly when a required path breaks and it was asked to be
strict. The induction is on the consumer; whether it is strict is handed down to the properties
that are required and to the items of lists. -/
theorem hasError_compare : HasError (compare p c path strict) ↔ strict = true ∧ Breaks p c := by
  induction c using induct generalizing p path strict with
  | object d fields required isOpen ih =>
    by_cases hp : p.kind = .object
    · cases p with
      | object d' ps required' isOpen' =>
        show HasError (missingFields required ps path strict ++
          compareFields ps required path strict fields) ↔ _
        rw [hasError_append, hasError_missingFields, hasError_compareFields, breaks_object,
          and_or_left]
        refine or_congr_right ⟨?_, ?_⟩
        · rintro ⟨k, s, t, hs, ht, h⟩
          obtain ⟨hstrict, h⟩ := (ih k t ht).1 h
          obtain ⟨hstrict, hk⟩ := Bool.and_eq_true_iff.1 hstrict
          exact ⟨hstrict, k, s, t, List.contains_iff_mem.1 hk, hs, ht, h⟩
        · rintro ⟨hstrict, k, s, t, hk, hs, ht, h⟩
          refine ⟨k, s, t, hs, ht, (ih k t ht).2 ⟨?_, h⟩⟩
          exact Bool.and_eq_true_iff.2 ⟨hstrict, List.contains_iff_mem.2 hk⟩
      | _ => cases hp
    · have hkind : (object d fields required isOpen).kind = .object := rfl
      have hrequired : (strict && !required.isEmpty) = true ↔ strict = true ∧ required ≠ [] := by
        simp
      rw [compare_object_of_ne hp, hasError_elim_imprecise? hkind (by decide), hasError_mismatch,
        hrequired, breaks_object_of_ne hp, and_left_comm]
  | array d items ih =>
    by_cases hp : p.kind = .array
    · cases p with
      | array d' items' =>
        rw [breaks_array]
        exact ih
      | _ => cases hp
    · have hkind : (array d items).kind = .array := rfl
      rw [compare_array_of_ne hp, hasError_elim_imprecise? hkind (by decide), hasError_mismatch,
        breaks_array_of_ne hp, and_comm]
  | unknown d => exact iff_of_false not_hasError_nil fun h => h.2.comparable.1 rfl
  | string | number | boolean | null => apply hasError_compare_value <;> simp [kind]

/-- **What the status of two sides says**, whatever they are: an error, that a required path breaks;
compatible, that there are no issues; a warning, that there are issues and no required path breaks.
A consumer that requires nothing is never in error. -/
theorem check_status (p c : Schema) :
    ((check (some p) (some c)).status = .error ↔ Breaks p c) ∧
    ((check (some p) (some c)).status = .compatible ↔ (check (some p) (some c)).issues = []) ∧
    ((check (some p) (some c)).status = .warning ↔
      ¬ Breaks p c ∧ (check (some p) (some c)).issues ≠ []) ∧
    ∀ d fields isOpen, (check (some p) (some (.object d fields [] isOpen))).status ≠ .error := by
  have herror : ∀ c, (check (some p) (some c)).status = .error ↔ Breaks p c := by
    intro c
    show Status.ofIssues (compare p c "" true) = .error ↔ _
    rw [ofIssues_eq_error, hasError_compare]
    exact and_iff_right rfl
  have hcompatible : (check (some p) (some c)).status = .compatible ↔
      (check (some p) (some c)).issues = [] := ofIssues_eq_compatible
  refine ⟨herror c, hcompatible, ?_, fun d fields isOpen h => not_breaks_of_nil ((herror _).1 h)⟩
  rw [← herror, Ne, ← hcompatible]
  exact ofIssues_eq_warning

end Schema

end Workflow
