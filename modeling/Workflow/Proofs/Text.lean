import Mathlib.Data.List.TakeWhile
import Workflow.Text.Blank
import Workflow.Text.Case

/-!
# Texts taken apart

Cutting a text at a character is what lists are split by (`Text.cutAt_eq_splitOn`), so what is
known of that is known of paths, of addresses and of the groups in them. A text without the blanks
at both ends is the text between them. A text without blanks is a single word, and one whose
characters lower case leaves alone is left as it is.
-/

namespace Workflow

namespace Text

variable {sep : Char} {cs p rest gap current before : List Char}

/-- Characters are in the order of their codes. -/
theorem le_iff_toNat_le {a b : Char} : a ≤ b ↔ a.toNat ≤ b.toNat :=
  Iff.rfl

/-! ## Cutting -/

theorem cutAt_eq_splitOn (sep : Char) (cs : List Char) : cutAt sep cs = cs.splitOn sep := by
  induction cs with
  | nil => rw [cutAt, List.splitOn_nil]
  | cons c cs ih =>
    simp only [cutAt, ih, List.splitOn_eq_splitOnP, List.splitOnP_cons_eq_if_modifyHead]
    by_cases hc : c = sep
    · simp [hc]
    · rw [if_neg hc, if_neg (by simpa using hc)]
      cases hsplit : List.splitOnP (· == sep) cs with
      | nil => exact absurd hsplit (by simp)
      | cons p ps => rfl

/-- No part has a separator in it. -/
theorem not_mem_of_mem_cutAt (h : p ∈ cutAt sep cs) : sep ∉ p := by
  induction cs generalizing p with
  | nil =>
    rw [cutAt, List.mem_singleton] at h
    exact h ▸ List.not_mem_nil
  | cons c cs ih =>
    rw [cutAt] at h
    split at h
    · obtain rfl | h := List.mem_cons.1 h
      · exact List.not_mem_nil
      · exact ih h
    · next hc =>
      have hne : sep ≠ c := fun he => hc he.symm
      split at h
      · obtain rfl := List.mem_singleton.1 h
        simpa using hne
      · next piece rest hcut =>
        obtain rfl | h := List.mem_cons.1 h
        · exact List.not_mem_cons_of_ne_of_not_mem hne (ih (hcut ▸ List.mem_cons_self))
        · exact ih (hcut ▸ List.mem_cons_of_mem _ h)

/-- A text with a separator in it is cut there. -/
theorem cutAt_append (cs rest : List Char) :
    cutAt sep (cs ++ sep :: rest) = cutAt sep cs ++ cutAt sep rest := by
  simp only [cutAt_eq_splitOn, List.splitOn_append_cons_self]

theorem cutAt_intercalate {ps : List (List Char)} (h : ∀ p ∈ ps, sep ∉ p) (hne : ps ≠ []) :
    cutAt sep (List.intercalate [sep] ps) = ps := by
  rw [cutAt_eq_splitOn, List.splitOn_intercalate sep h hne]

theorem cutAt_of_not_mem (h : sep ∉ p) : cutAt sep p = [p] := by
  simpa [List.intercalate] using
    cutAt_intercalate (List.forall_mem_singleton.2 h) (List.cons_ne_nil p [])

theorem cutAt_append_cons (h : sep ∉ p) : cutAt sep (p ++ sep :: rest) = p :: cutAt sep rest := by
  rw [cutAt_append, cutAt_of_not_mem h, List.singleton_append]

/-- The first part of a text that is cut goes up to the first separator, if there is one. -/
theorem exists_of_cutAt {ps : List (List Char)} (h : cutAt sep cs = p :: ps) :
    cs = p ∨ ∃ rest, cs = p ++ sep :: rest := by
  by_cases hsep : sep ∈ cs
  · obtain ⟨q, rest, rfl, hq⟩ := List.eq_append_cons_of_mem hsep
    rw [cutAt_append_cons hq] at h
    exact .inr ⟨rest, by rw [(List.cons_eq_cons.1 h).1]⟩
  · rw [cutAt_of_not_mem hsep] at h
    exact .inl (List.cons_eq_cons.1 h).1

theorem mem_intercalate {sep : List Char} {ws : List (List Char)} {c : Char}
    (h : c ∈ List.intercalate sep ws) : c ∈ sep ∨ ∃ w ∈ ws, c ∈ w := by
  induction ws with
  | nil => cases h
  | cons w ws ih =>
    cases ws with
    | nil => exact .inr ⟨w, List.mem_cons_self, by simpa [List.intercalate] using h⟩
    | cons w' ws =>
      rw [List.intercalate_cons_cons, List.mem_append, List.mem_append] at h
      obtain (h | h) | h := h
      · exact .inr ⟨w, List.mem_cons_self, h⟩
      · exact .inl h
      · obtain h | ⟨v, hv, h⟩ := ih h
        · exact .inl h
        · exact .inr ⟨v, List.mem_cons_of_mem _ hv, h⟩

/-- What is no separator stands in one of the parts. -/
theorem exists_mem_cutAt {c : Char} (h : c ∈ cs) (hc : c ≠ sep) : ∃ p ∈ cutAt sep cs, c ∈ p := by
  have hwhole : c ∈ [sep].intercalate (cutAt sep cs) := by
    rwa [cutAt_eq_splitOn, List.intercalate_splitOn]
  exact (mem_intercalate hwhole).resolve_left (by simpa using hc)

/-! ## Blanks at both ends -/

theorem trim_append_left (h : ∀ c ∈ gap, isBlank c = true) : trim (gap ++ cs) = trim cs := by
  rw [trim, trim, stripWhere, stripWhere, List.dropWhile_append_of_pos h]

/-- Nothing is dropped in front of a character that is not blank. -/
theorem trim_append_cons {c : Char} (hp : ∀ d ∈ p, isBlank d = false) (hc : isBlank c = false) :
    trim (p ++ c :: rest) = p ++ c :: (rest.reverse.dropWhile isBlank).reverse := by
  have hfront : (p ++ c :: rest).dropWhile isBlank = p ++ c :: rest := by
    cases p with
    | nil => rw [List.nil_append, List.dropWhile_cons_of_neg (by simp [hc])]
    | cons d p =>
      rw [List.cons_append, List.dropWhile_cons_of_neg (by simp [hp d List.mem_cons_self])]
  have hback : (rest.reverse ++ (c :: p.reverse)).dropWhile isBlank
      = rest.reverse.dropWhile isBlank ++ (c :: p.reverse) := by
    rw [List.dropWhile_append]
    split
    · next h => rw [List.isEmpty_iff.1 h, List.dropWhile_cons_of_neg (by simp [hc]),
        List.nil_append]
    · rfl
  rw [trim, stripWhere, hfront, List.reverse_append, List.reverse_cons, List.append_assoc,
    List.singleton_append, hback]
  simp

/-- Nothing is dropped where the first character is of another class. -/
theorem dropWhile_eq_self {p : Char → Bool} (h : ∀ c ∈ cs.head?, p c = false) :
    cs.dropWhile p = cs := by
  cases cs with
  | nil => rfl
  | cons c cs => exact List.dropWhile_cons_of_neg (by simp [h c rfl])

/-- What is left begins with a character of another class. -/
theorem of_mem_head?_dropWhile {c : Char} {p : Char → Bool} (h : c ∈ (cs.dropWhile p).head?) :
    p c = false := by
  have hnot := List.head?_dropWhile_not p cs
  rw [Option.mem_def.1 h] at hnot
  exact hnot

/-- What is dropped at both ends of a text stands around what is left. -/
theorem exists_stripped (p : Char → Bool) (cs : List Char) :
    ∃ before after, cs = before ++ stripWhere p cs ++ after ∧ (∀ c ∈ before, p c = true) ∧
      ∀ c ∈ after, p c = true := by
  refine ⟨cs.takeWhile p, ((cs.dropWhile p).reverse.takeWhile p).reverse, ?_,
    fun c hc => List.mem_takeWhile_imp hc,
    fun c hc => List.mem_takeWhile_imp (List.mem_reverse.1 hc)⟩
  have hback : cs.dropWhile p = stripWhere p cs
      ++ ((cs.dropWhile p).reverse.takeWhile p).reverse := by
    rw [stripWhere, ← List.reverse_append, List.takeWhile_append_dropWhile, List.reverse_reverse]
  rw [List.append_assoc, ← hback, List.takeWhile_append_dropWhile]

/-! ## Words -/

/-- A text without blanks goes on with the word that has begun. -/
theorem wordsFrom_of_not_isBlank (h : ∀ c ∈ cs, isBlank c = false) (hne : current ++ cs ≠ []) :
    wordsFrom current cs = [current.reverse ++ cs] := by
  induction cs generalizing current with
  | nil =>
    rw [List.append_nil] at hne
    rw [wordsFrom, if_neg (by simpa using hne), List.append_nil]
  | cons c cs ih =>
    have hc : ¬ isBlank c = true := by simp [h c List.mem_cons_self]
    rw [wordsFrom, if_neg hc, ih (fun d hd => h d (List.mem_cons_of_mem _ hd)) (by simp),
      List.reverse_cons, List.append_assoc, List.singleton_append]

/-- **A text without blanks is one word**, if it is not empty. -/
theorem words_of_not_isBlank (h : ∀ c ∈ cs, isBlank c = false) (hne : cs ≠ []) :
    words cs = [cs] :=
  wordsFrom_of_not_isBlank h hne

/-! ## Lower case -/

/-- A character that is its own lower-case form stays, and is no sigma, whose form depends on what
stands around it. -/
theorem lowerAfter_cons_self {c : Char} (h : c.toNat ≠ 0x3A3 ∧ lowerChar c = [c]) :
    lowerAfter before (c :: cs) = c :: lowerAfter (c :: before) cs := by
  rw [lowerAfter, if_neg h.1, h.2]
  rfl

theorem lowerAfter_eq_self (h : ∀ c ∈ cs, c.toNat ≠ 0x3A3 ∧ lowerChar c = [c]) :
    lowerAfter before cs = cs := by
  induction cs generalizing before with
  | nil => rfl
  | cons c cs ih =>
    rw [lowerAfter_cons_self (h c List.mem_cons_self),
      ih fun d hd => h d (List.mem_cons_of_mem _ hd)]

end Text

end Workflow
