import Mathlib.Order.Interval.Finset.Nat
import Workflow.Naming
import Workflow.Proofs.Text

/-!
# Identifiers that are not taken

The search for a free number looks at one candidate more than there are identifiers taken. The
candidates are different from each other, so they cannot all be taken (`sub_le_card`), and the
number that is found is the least one that is free (`isLeast_firstFree`). So the default that stands
in for a search without a result is never used, and an identifier that was made different is
different (`numbered_not_mem`).

What a display name is made into has small letters, digits and bars only (`Naming.IsIdentifier`),
so a slug can stand in a path without being taken for more than one part of it.
-/

namespace Workflow

namespace Naming

open Workflow.Text

variable {taken : List String}

/-- **Candidates that are all different** are no more than the names, if all of them are taken. -/
theorem sub_le_card {candidate : Nat → String} (h : Function.Injective candidate)
    {names : Finset String} {start n : Nat}
    (htaken : ∀ k, start ≤ k → k < n → candidate k ∈ names) : n - start ≤ names.card := by
  have hsub : (Finset.Ico start n).image candidate ⊆ names := by
    intro name hname
    obtain ⟨k, hk, rfl⟩ := Finset.mem_image.1 hname
    obtain ⟨hstart, hn⟩ := Finset.mem_Ico.1 hk
    exact htaken k hstart hn
  calc n - start = ((Finset.Ico start n).image candidate).card := by
        rw [Finset.card_image_of_injective _ h, Nat.card_Ico]
    _ ≤ names.card := Finset.card_le_card hsub

/-- **The number that is found** is the least one whose candidate is not taken, when the search
looks at more candidates than there are identifiers taken. -/
theorem isLeast_firstFree {candidate : Nat → String} (h : Function.Injective candidate)
    {bound : Nat} (hbound : taken.length ≤ bound) (start : Nat) :
    IsLeast {k | start ≤ k ∧ candidate k ∉ taken}
      (firstFree (fun n => taken.contains (candidate n)) start bound) := by
  unfold firstFree
  cases hfind : (List.range' start (bound + 1)).find? fun n =>
      !taken.contains (candidate n) with
  | some n =>
    obtain ⟨hfree, hmem, hbelow⟩ := List.find?_range'_eq_some.1 hfind
    refine ⟨⟨(List.mem_range'_1.1 hmem).1, by simpa using hfree⟩, fun k hk => ?_⟩
    by_contra hlt
    exact hk.2 (by simpa using hbelow k hk.1 (Nat.lt_of_not_le hlt))
  | none =>
    -- then all candidates are taken, and they are too many
    have htaken : ∀ k, start ≤ k → k < start + (bound + 1) →
        candidate k ∈ taken.toFinset := by
      intro k hstart hk
      simpa using List.find?_eq_none.1 hfind k (List.mem_range'_1.2 ⟨hstart, hk⟩)
    have hcard := sub_le_card h htaken
    have hlength := List.toFinset_card_le taken
    omega

/-- Of candidates that are all different, the one that is found is not taken. -/
theorem firstFree_not_mem {candidate : Nat → String} (h : Function.Injective candidate)
    (taken : List String) (start : Nat) :
    candidate (firstFree (fun n => taken.contains (candidate n)) start taken.length) ∉ taken :=
  (isLeast_firstFree h le_rfl start).1.2

theorem append_toString_injective (base : String) :
    Function.Injective fun n : Nat => base ++ toString n := by
  intro m n h
  have hdigits : (toString m).toList = (toString n).toList :=
    congrArg String.toList ((String.append_right_inj _).1 h)
  -- the digits say which number it is
  simpa using congrArg (fun digits => Nat.ofDigitChars 10 digits 0) hdigits

theorem withNumber_injective (base : String) : Function.Injective (withNumber base) :=
  append_toString_injective (base ++ "_")

/-- **An identifier that was made different** is not taken. -/
theorem numbered_not_mem (base : String) (taken : List String) : numbered base taken ∉ taken := by
  unfold numbered
  split
  · exact firstFree_not_mem (withNumber_injective base) taken 2
  · next hbase => simpa using hbase

theorem numbered_ne_empty {base : String} (h : base ≠ "") : numbered base taken ≠ "" := by
  unfold numbered withNumber
  split
  · simp [h]
  · exact h

theorem slug_not_mem (name : String) (taken : List String) : slug name taken ∉ taken :=
  numbered_not_mem _ _

/-- **A tool name** is not taken. -/
theorem toolName_not_mem (name : String) (taken : List String) : toolName name taken ∉ taken :=
  numbered_not_mem _ _

/-- A tool name counts as given. -/
theorem toolName_ne_empty (name : String) : toolName name taken ≠ "" := by
  refine numbered_ne_empty ?_
  split
  · decide
  · assumption

/-! ## What identifiers are made of -/

/-- A character of an identifier: an ASCII small letter, a digit or a bar. -/
def isWordChar (c : Char) : Bool :=
  ('a' ≤ c && c ≤ 'z') || isKept.isAsciiDigit c || c == '_'

/-- The characters of an identifier by their codes. -/
theorem isWordChar_iff {c : Char} : isWordChar c = true ↔
    (97 ≤ c.toNat ∧ c.toNat ≤ 122) ∨ (48 ≤ c.toNat ∧ c.toNat ≤ 57) ∨ c.toNat = 95 := by
  have hbar : c = '_' ↔ c.toNat = 95 := Char.toNat_inj.symm
  simp only [isWordChar, isKept.isAsciiDigit, Bool.or_eq_true, Bool.and_eq_true,
    decide_eq_true_eq, beq_iff_eq, le_iff_toNat_le, hbar, or_assoc]
  rfl

/-- **An identifier**: it is not empty and has no other characters. -/
def IsIdentifier (s : String) : Prop :=
  s ≠ "" ∧ ∀ c ∈ s.toList, isWordChar c = true

instance : DecidablePred IsIdentifier :=
  fun s => decidable_of_iff (s ≠ "" ∧ s.toList.all isWordChar = true)
    (and_congr_right fun _ => List.all_eq_true)

/-- The words of a text are made of what was there, and of no blanks. -/
theorem mem_of_mem_wordsFrom {current cs w : List Char} {c : Char} (hw : w ∈ wordsFrom current cs)
    (hc : c ∈ w) : c ∈ current ∨ c ∈ cs ∧ isBlank c = false := by
  induction cs generalizing current with
  | nil =>
    unfold wordsFrom at hw
    split at hw
    · cases hw
    · rw [List.mem_singleton.1 hw, List.mem_reverse] at hc
      exact .inl hc
  | cons d cs ih =>
    have hlater : ∀ {x : Char}, x ∈ cs ∧ isBlank x = false → x ∈ d :: cs ∧ isBlank x = false :=
      fun hx => ⟨List.mem_cons_of_mem _ hx.1, hx.2⟩
    unfold wordsFrom at hw
    split at hw
    · split at hw
      · exact .inr (hlater ((ih hw).resolve_left List.not_mem_nil))
      · obtain rfl | hw := List.mem_cons.1 hw
        · exact .inl (List.mem_reverse.1 hc)
        · exact .inr (hlater ((ih hw).resolve_left List.not_mem_nil))
    · next hblank =>
      obtain hcurrent | hlate := ih hw
      · obtain rfl | hcurrent := List.mem_cons.1 hcurrent
        · exact .inr ⟨List.mem_cons_self, by simpa using hblank⟩
        · exact .inl hcurrent
      · exact .inr (hlater hlate)

/-- A display name becomes letters, digits and bars. -/
theorem isWordChar_of_mem_snakeCase {name : String} {c : Char}
    (h : c ∈ (snakeCase name).toList) : isWordChar c = true := by
  rw [snakeCase, String.toList_ofList] at h
  obtain h | ⟨w, hw, h⟩ := mem_intercalate h
  · rw [List.mem_singleton.1 h]
    decide
  · obtain h | ⟨h, hblank⟩ := mem_of_mem_wordsFrom hw h
    · cases h
    · have hkept : isKept c = true := (List.mem_filter.1 h).2
      simpa [isKept, isWordChar, hblank] using hkept

theorem IsIdentifier.append {s t : String} (hs : IsIdentifier s)
    (ht : ∀ c ∈ t.toList, isWordChar c = true) : IsIdentifier (s ++ t) := by
  refine ⟨by simp [hs.1], fun c hc => ?_⟩
  rw [String.toList_append, List.mem_append] at hc
  exact hc.elim (hs.2 c) (ht c)

theorem IsIdentifier.numbered {base : String} (h : IsIdentifier base) (taken : List String) :
    IsIdentifier (numbered base taken) := by
  unfold Naming.numbered withNumber
  split
  · refine (h.append (List.all_eq_true.1 (by decide))).append fun c hc => ?_
    have hdigit : isKept.isAsciiDigit c = true :=
      @Nat.isDigit_of_mem_toDigits 10 _ c (by decide) (by decide) (by simpa using hc)
    simp [isWordChar, hdigit]
  · exact h

/-- **A slug** is an identifier. -/
theorem isIdentifier_slug (name : String) (taken : List String) :
    IsIdentifier (slug name taken) := by
  refine IsIdentifier.numbered ?_ taken
  unfold slugBase
  dsimp only
  split
  · decide
  · next hne =>
    have hbase : IsIdentifier (snakeCase name) := ⟨hne, fun c => isWordChar_of_mem_snakeCase⟩
    split
    · exact hbase
    · exact IsIdentifier.append (by decide) hbase.2

end Naming

end Workflow
