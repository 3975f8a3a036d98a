import Workflow.Proofs.Schema.Compatibility
import Workflow.Proofs.Schema.Merge

/-!
# A merge covers its parts

A merge is a shape that the data of both sides fit, and the check of compatibility, which knows
nothing of merging, agrees: whatever has one of the two shapes can be consumed as their merge
(`Schema.check_merge`). The two recursions go different ways. The check goes along the consumer,
here the merge, and looks up its properties on the side of the producer; the merge goes along its
left side and takes in the properties of the right one at the end. They meet in `Schema.Merged`,
which says of each merge what it was put together from.

One thing has to be asked for. A schema that requires a name and does not declare it is found
incompatible even with itself, so what is merged must declare what it requires
(`Schema.Coherent`). Descriptions, formats and openness are whatever they are.
-/

namespace Workflow

namespace Schema

variable {a b m : Schema}

/-- **Coherent schemas**: at every depth, what an object requires it declares. As in any map, no
property stands twice. -/
inductive Coherent : Schema → Prop
  /-- An object whose properties are coherent. -/
  | object {d ps required o} (hdistinct : Entries.Distinct ps)
      (hrequired : ∀ name ∈ required, Entries.has ps name = true)
      (hproperties : ∀ k s, (k, s) ∈ ps → Coherent s) : Coherent (.object d ps required o)
  /-- An array whose items are coherent. -/
  | array {d items} (hitems : Coherent items) : Coherent (.array d items)
  /-- Nothing is required of a text. -/
  | string {d format} : Coherent (.string d format)
  /-- Nothing is required of a number. -/
  | number {d} : Coherent (.number d)
  /-- Nothing is required of a truth value. -/
  | boolean {d} : Coherent (.boolean d)
  /-- Nothing is required of null. -/
  | null {d} : Coherent (.null d)
  /-- What is not known requires nothing. -/
  | unknown {d} : Coherent (.unknown d)

/-! ## What is the same fits -/

theorem compareFormats_self (path : String) (f : Option String) : compareFormats path f f = [] := by
  cases f <;> simp [compareFormats]

/-- **A coherent schema fits itself.** -/
theorem Coherent.fits (h : a.Coherent) : Fits a a := by
  induction h with
  | object hdistinct hrequired _ ih =>
    refine .object hrequired fun k s t hs ht => ?_
    obtain rfl : s = t := Option.some.inj (hs.symm.trans (Entries.get?_of_mem hdistinct ht))
    exact ih k s ht
  | array _ ih => exact .array ih
  | string => exact .string fun path => compareFormats_self path _
  | number => exact .number
  | boolean => exact .boolean
  | null => exact .null
  | unknown => exact .unknown

/-- What is the same up to the order of properties fits as well. -/
theorem Coherent.fits_of_same (ha : a.Coherent) (h : same a b = true) : Fits b a := by
  induction ha generalizing b with
  | @object d ps required o _ hrequired _ ih =>
    cases b with
    | object d' ps' required' o' =>
      simp only [same, Bool.and_eq_true, beq_iff_eq] at h
      obtain ⟨-, hsame⟩ := h
      refine .object (fun name hname => ?_) fun k s t hs ht => ?_
      · obtain ⟨s, hs⟩ := Entries.has_iff.1 (hrequired name hname)
        obtain ⟨t, ht, -⟩ := exists_of_sameProperties hsame (Entries.mem_of_get? hs)
        exact Entries.has_iff.2 ⟨t, ht⟩
      · obtain ⟨u, hu, htu⟩ := exists_of_sameProperties hsame ht
        obtain rfl : s = u := Option.some.inj (hs.symm.trans hu)
        exact ih k t ht htu
    | _ => simp [same] at h
  | array _ ih =>
    cases b with
    | array d' items' =>
      simp only [same, Bool.and_eq_true] at h
      exact .array (ih h.2)
    | _ => simp [same] at h
  | string =>
    cases b with
    | string d' format' =>
      simp only [same, Bool.and_eq_true, beq_iff_eq] at h
      exact h.2 ▸ .string fun path => compareFormats_self path _
    | _ => simp [same] at h
  | number =>
    cases b with
    | number => exact .number
    | _ => simp [same] at h
  | boolean =>
    cases b with
    | boolean => exact .boolean
    | _ => simp [same] at h
  | null =>
    cases b with
    | null => exact .null
    | _ => simp [same] at h
  | unknown => exact .unknown

/-! ## What is merged fits -/

/-- A format that is left where two texts are merged is that of both. -/
theorem compareFormats_merged_left (path : String) (f f' : Option String) :
    compareFormats path f (if f = f' then f else none) = [] := by
  split
  · exact compareFormats_self path f
  · cases f <;> rfl

theorem compareFormats_merged_right (path : String) (f f' : Option String) :
    compareFormats path f' (if f = f' then f else none) = [] := by
  split
  · next h => exact h ▸ compareFormats_self path f
  · cases f' <;> rfl

/-- **The left side fits the merge.** A property of the merge that the left side has too is merged
out of it or taken over from it. -/
theorem Merged.fits_left (h : Merged a b m) (ha : a.Coherent) (hb : b.Coherent) : Fits a m := by
  induction h with
  | same => exact ha.fits
  | kinds => exact .unknown
  | object _ ih =>
    cases ha with
    | object hdistinct hrequired hps =>
      cases hb with
      | object hdistinct' _ hps' =>
        refine .object (fun name hname => hrequired name (List.mem_of_mem_filter hname))
          fun k s m hs hm => ?_
        have hm := Entries.get?_of_mem (distinct_mergedProperties hdistinct hdistinct') hm
        have hcoherent := hps k s (Entries.mem_of_get? hs)
        -- the property stems from both sides, from the left one or from the right one alone
        obtain ⟨u, t, hu, ht, rfl⟩ | ⟨hu, -⟩ | ⟨hnone, -⟩ := of_get?_mergedProperties hm
        · obtain rfl : s = u := Option.some.inj (hs.symm.trans hu)
          exact ih k s t hs ht hcoherent (hps' k t (Entries.mem_of_get? ht))
        · obtain rfl : s = m := Option.some.inj (hs.symm.trans hu)
          exact hcoherent.fits
        · rw [hnone] at hs
          cases hs
  | array _ ih =>
    cases ha with
    | array hitems =>
      cases hb with
      | array hitems' => exact .array (ih hitems hitems')
  | string => exact .string fun path => compareFormats_merged_left path _ _
  | number => exact .number
  | boolean => exact .boolean
  | null => exact .null
  | unknown => exact .unknown

/-- **The right side fits the merge.** What the merge requires both sides require, so that the
right one declares it. -/
theorem Merged.fits_right (h : Merged a b m) (ha : a.Coherent) (hb : b.Coherent) : Fits b m := by
  induction h with
  | same hsame => exact ha.fits_of_same hsame
  | kinds => exact .unknown
  | object _ ih =>
    cases ha with
    | object hdistinct _ hps =>
      cases hb with
      | object hdistinct' hrequired' hps' =>
        refine .object (fun name hname => hrequired' name ?_) fun k t m ht hm => ?_
        · simpa using (List.mem_filter.1 hname).2
        have hm := Entries.get?_of_mem (distinct_mergedProperties hdistinct hdistinct') hm
        have hcoherent := hps' k t (Entries.mem_of_get? ht)
        obtain ⟨s, u, hs, hu, rfl⟩ | ⟨-, hnone⟩ | ⟨-, hu⟩ := of_get?_mergedProperties hm
        · obtain rfl : t = u := Option.some.inj (ht.symm.trans hu)
          exact ih k s t hs ht (hps k s (Entries.mem_of_get? hs)) hcoherent
        · rw [hnone] at ht
          cases ht
        · obtain rfl : t = m := Option.some.inj (ht.symm.trans hu)
          exact hcoherent.fits
  | array _ ih =>
    cases ha with
    | array hitems =>
      cases hb with
      | array hitems' => exact .array (ih hitems hitems')
  | string => exact .string fun path => compareFormats_merged_right path _ _
  | number => exact .number
  | boolean => exact .boolean
  | null => exact .null
  | unknown => exact .unknown

/-! ## The check -/

/-- What fits is found compatible, and no issue is told. -/
theorem check_eq_of_fits {p c : Schema} (h : Fits p c) :
    check (some p) (some c) = ⟨.compatible, [], some p, some c⟩ := by
  have hnil : compare p c "" true = [] := compare_eq_nil.2 h
  simp only [check, hnil]
  rfl

/-- **A merged schema accepts both its parts**: either of two coherent schemas is found compatible
with their merge, and no issue is told. So is every coherent schema with itself. -/
theorem check_merge (ha : a.Coherent) (hb : b.Coherent) :
    check (some a) (some (merge a b)) = ⟨.compatible, [], some a, some (merge a b)⟩ ∧
      check (some b) (some (merge a b)) = ⟨.compatible, [], some b, some (merge a b)⟩ ∧
      check (some a) (some a) = ⟨.compatible, [], some a, some a⟩ := by
  have h := merged_merge a b
  exact ⟨check_eq_of_fits (h.fits_left ha hb), check_eq_of_fits (h.fits_right ha hb),
    check_eq_of_fits ha.fits⟩

/-- A schema that requires a name and does not declare it is found wrong even with itself. -/
example :
    let s : Schema := .object none [] ["id"] false
    (check (some s) (some s)).status = .error := by
  decide +kernel

/-- A described and closed object with a day. -/
def sampleVisit : Schema := .object (some "a visit")
  [("id", .number none), ("day", .string none (some "date")),
    ("tags", .array none (.string none none))] ["id", "day"] false

/-- An open object with a day of another format, tags of another kind and a note. -/
def sampleEvent : Schema := .object none
  [("day", .string (some "when it takes place") (some "date-time")), ("tags", .boolean none),
    ("note", .null none)] ["day"] true

theorem coherent_sampleVisit : sampleVisit.Coherent := by
  refine .object (by simp [Entries.Distinct, Entries.keys]) (by decide +kernel) fun k s hs => ?_
  simp only [List.mem_cons, Prod.mk.injEq, List.not_mem_nil, or_false] at hs
  obtain ⟨-, rfl⟩ | ⟨-, rfl⟩ | ⟨-, rfl⟩ := hs
  · exact .number
  · exact .string
  · exact .array .string

theorem coherent_sampleEvent : sampleEvent.Coherent := by
  refine .object (by simp [Entries.Distinct, Entries.keys]) (by decide +kernel) fun k s hs => ?_
  simp only [List.mem_cons, Prod.mk.injEq, List.not_mem_nil, or_false] at hs
  obtain ⟨-, rfl⟩ | ⟨-, rfl⟩ | ⟨-, rfl⟩ := hs
  · exact .string
  · exact .boolean
  · exact .null

/-- The two do not fit each other, and both fit their merge: it loses the format, knows nothing of
the tags and requires no more than the day. -/
theorem check_merge_samples :
    sampleVisit.Coherent ∧ sampleEvent.Coherent ∧
      (check (some sampleVisit) (some sampleEvent)).status = .warning ∧
      (check (some sampleEvent) (some sampleVisit)).status = .error ∧
      merge sampleVisit sampleEvent = .object none
        [("id", .number none), ("day", .string none none), ("tags", .unknown none),
          ("note", .null none)] ["day"] true ∧
      (check (some sampleVisit) (some (merge sampleVisit sampleEvent))).issues = [] ∧
      (check (some sampleEvent) (some (merge sampleVisit sampleEvent))).issues = [] := by
  obtain ⟨hleft, hright, -⟩ := check_merge coherent_sampleVisit coherent_sampleEvent
  exact ⟨coherent_sampleVisit, coherent_sampleEvent, by decide +kernel, by decide +kernel, by rfl,
    congrArg Verdict.issues hleft, congrArg Verdict.issues hright⟩

end Schema

end Workflow
