import Workflow.Proofs.Filling
import Workflow.Proofs.Reference

/-!
# Slugs can be referred to

A display name may be any text. What it is made into has ASCII small letters, digits and bars only,
whatever lower case makes of its characters, and such a text is left as it is
(`Naming.snakeCase_eq_self_iff`). A slug begins with a letter besides (`Naming.IsSlug`): where the
identifier does not, or is empty, a word is put in front, and a number that makes it different
stands behind.

So a slug has no point, no brace and no blank in it, and a template that names it along with the
members of what the node put out is read the way it was meant (`Template.resolve_reference`).
-/

namespace Workflow

/-! ## Identifiers -/

namespace Naming

open Workflow.Text

variable {s t base : String} {c : Char}

theorem lowerChar_of_isWordChar (h : isWordChar c = true) : lowerChar c = [c] := by
  rw [isWordChar_iff] at h
  have hcapital : ¬ (('A' ≤ c && c ≤ 'Z') = true) := by
    have hA : 'A'.toNat = 65 := rfl
    have hZ : 'Z'.toNat = 90 := rfl
    simp only [Bool.and_eq_true, decide_eq_true_eq, le_iff_toNat_le, hA, hZ]
    omega
  rw [lowerChar, if_pos (by omega), if_neg hcapital]

theorem isKept_of_isWordChar (h : isWordChar c = true) : isKept c = true := by
  simp_all [isWordChar, isKept]

/-- **A text is left as it is** exactly when it has small letters, digits and bars only. -/
theorem snakeCase_eq_self_iff : snakeCase s = s ↔ ∀ c ∈ s.toList, isWordChar c = true := by
  constructor
  · intro h c hc
    exact isWordChar_of_mem_snakeCase (h ▸ hc)
  · intro h
    have hlower : lower s.toList = s.toList := lowerAfter_eq_self fun c hc => by
      have hcode := isWordChar_iff.1 (h c hc)
      exact ⟨by omega, lowerChar_of_isWordChar (h c hc)⟩
    have hkept : s.toList.filter isKept = s.toList :=
      List.filter_eq_self.2 fun c hc => isKept_of_isWordChar (h c hc)
    rw [snakeCase, nameWords, hlower, hkept]
    by_cases hs : s.toList = []
    · rw [hs, String.toList_eq_nil_iff.1 hs]
      rfl
    · rw [words_of_not_isBlank (fun c hc => not_isBlank_of_isWordChar (h c hc)) hs]
      simp [List.intercalate]

/-- **To make an identifier of a name again changes nothing.** -/
theorem snakeCase_snakeCase (name : String) : snakeCase (snakeCase name) = snakeCase name :=
  snakeCase_eq_self_iff.2 fun _ => isWordChar_of_mem_snakeCase

/-! ## Slugs -/

/-- **A slug**: an ASCII small letter, and after it ASCII small letters, digits and bars. -/
def IsSlug (s : String) : Prop :=
  ∃ c cs, s.toList = c :: cs ∧ ('a' ≤ c ∧ c ≤ 'z') ∧ ∀ d ∈ cs, isWordChar d = true

theorem beginsWithLetter_iff :
    beginsWithLetter s = true ↔ ∃ c cs, s.toList = c :: cs ∧ 'a' ≤ c ∧ c ≤ 'z' := by
  unfold beginsWithLetter
  split
  · next c cs hs => simp [hs]
  · next hs => simp [hs]

/-- A slug is an identifier that begins with a letter. -/
theorem isSlug_iff : IsSlug s ↔ IsIdentifier s ∧ beginsWithLetter s = true := by
  rw [beginsWithLetter_iff]
  constructor
  · rintro ⟨c, cs, hs, hletter, hrest⟩
    refine ⟨⟨?_, fun d hd => ?_⟩, c, cs, hs, hletter⟩
    · rintro rfl
      cases hs
    · rw [hs] at hd
      obtain rfl | hd := List.mem_cons.1 hd
      · simp [isWordChar, hletter]
      · exact hrest d hd
  · rintro ⟨hs, c, cs, hcs, hletter⟩
    exact ⟨c, cs, hcs, hletter, fun d hd => hs.2 d (hcs ▸ List.mem_cons_of_mem _ hd)⟩

theorem beginsWithLetter_append (h : beginsWithLetter s = true) :
    beginsWithLetter (s ++ t) = true := by
  rw [beginsWithLetter_iff] at h ⊢
  obtain ⟨c, cs, hs, hletter⟩ := h
  exact ⟨c, cs ++ t.toList, by rw [String.toList_append, hs, List.cons_append], hletter⟩

theorem beginsWithLetter_slugBase (name : String) : beginsWithLetter (slugBase name) = true := by
  unfold slugBase
  dsimp only
  split
  · decide
  · split
    · assumption
    · exact beginsWithLetter_append (by decide)

/-- A number stands behind. -/
theorem beginsWithLetter_numbered (h : beginsWithLetter base = true) (taken : List String) :
    beginsWithLetter (numbered base taken) = true := by
  unfold numbered withNumber
  split
  · rw [String.append_assoc]
    exact beginsWithLetter_append h
  · exact h

theorem isSlug_slug (name : String) (taken : List String) : IsSlug (slug name taken) :=
  isSlug_iff.2 ⟨isIdentifier_slug name taken,
    beginsWithLetter_numbered (beginsWithLetter_slugBase name) taken⟩

end Naming

/-! ## References -/

namespace Template

open Workflow.Text

variable {values : Entries Json} {body : List Char} {names : List String} {p : String} {v : Json}

/-- **A name that can stand in a path**: there is no point in it, no closing brace and no blank. It
may be empty. -/
def IsPathName (p : String) : Prop :=
  ∀ c ∈ p.toList, c ≠ '.' ∧ c ≠ '\x7d' ∧ isBlank c = false

instance : DecidablePred IsPathName :=
  fun p => List.decidableBAll _ p.toList

/-- **A reference to what names lead to**, with points between the names and a blank on both
sides. -/
def reference (names : List String) : String :=
  "\x7b\x7b " ++ ".".intercalate names ++ " \x7d\x7d"

/-- The path in a reference. -/
def pathOf (names : List String) : List Char :=
  List.intercalate ['.'] (names.map String.toList)

theorem isPathName_of_isIdentifier (h : Naming.IsIdentifier p) : IsPathName p := by
  refine fun c hc => ⟨?_, ?_, h.not_isBlank c hc⟩
  · rintro rfl
    exact h.not_mem (by decide) hc
  · rintro rfl
    exact h.not_mem (by decide) hc

/-- **A text that is one placeholder** becomes what the placeholder becomes. -/
theorem resolve_hole (h : IsBody body) (values : Entries Json) :
    resolve (String.ofList (Piece.hole body).text) (some values) =
      (fill values (.hole body)).map fun filled => ⟨String.ofList filled.1, filled.2.toList⟩ := by
  have hpieces : pieces (Piece.hole body).text = [.hole body] := by
    rw [← List.append_nil (Piece.hole body).text, pieces_hole_append h]
    rfl
  rw [resolve, String.toList_ofList, hpieces, Option.getD_some, List.mapM_cons, List.mapM_nil]
  cases fill values (.hole body) with
  | error e => rfl
  | ok filled =>
    obtain ⟨text, _ | told⟩ := filled <;> simp [Except.map]

/-- **A reference becomes the text of the value that its names lead to.** -/
theorem resolve_reference (hnames : ∀ p ∈ names, IsPathName p) (hne : names ≠ [])
    (hv : LeadsTo (.obj values) (names.map String.toList) v) (hnull : v ≠ .null) :
    resolve (reference names) (some values) = v.display.map fun shown => ⟨shown, []⟩ := by
  have hplain : ∀ c ∈ pathOf names, c ≠ '\x7d' ∧ isBlank c = false := by
    intro c hc
    obtain hc | ⟨w, hw, hc⟩ := mem_intercalate hc
    · rw [List.mem_singleton.1 hc]
      decide
    · obtain ⟨p, hp, rfl⟩ := List.mem_map.1 hw
      exact (hnames p hp c hc).2
  have hbody : IsBody (' ' :: pathOf names ++ [' ']) := by
    refine ⟨List.cons_ne_nil _ _, ?_⟩
    simpa using fun hmem => (hplain _ hmem).1 rfl
  have hstripped : IsStripped (pathOf names) (' ' :: pathOf names ++ [' ']) := by
    have hblank : ∀ c ∈ [' '], isBlank c = true := List.forall_mem_singleton.2 rfl
    refine ⟨⟨[' '], [' '], rfl, hblank, hblank⟩, fun c hc => ?_, fun c hc => ?_⟩
    · exact (hplain c (List.mem_of_mem_head? hc)).2
    · exact (hplain c (List.mem_of_mem_getLast? hc)).2
  have hpath : IsPath (names.map String.toList) (pathOf names) := by
    refine ⟨by simpa using hne, fun w hw hpoint => ?_, rfl⟩
    obtain ⟨p, hp, rfl⟩ := List.mem_map.1 hw
    exact (hnames p hp _ hpoint).1 rfl
  have hlookup := standsFor_iff.1 (.intro hstripped hpath hv hnull)
  have htext :
      reference names = String.ofList (Piece.hole (' ' :: pathOf names ++ [' '])).text := by
    rw [← String.toList_inj]
    simp [reference, Piece.text, pathOf]
  rw [htext, resolve_hole hbody, fill, hlookup]
  dsimp only
  cases v.display with
  | error e => rfl
  | ok shown =>
    show Except.ok (⟨String.ofList shown.toList, []⟩ : Resolved) = .ok ⟨shown, []⟩
    rw [String.ofList_toList]

example :
    resolve "\x7b\x7b user.profile.id \x7d\x7d"
      (some [("user", .obj [("profile", .obj [("id", .int 42)])])]) = .ok ⟨"42", []⟩ := by
  decide +kernel

end Template

namespace Naming

open Workflow.Template

/-- **A slug is its own, and can be referred to.** Whatever the name and the slugs that are taken,
it is none of these, begins with a letter and goes on with letters, digits and bars, and a reference
to a member of what the node put out becomes the text of that member, if there is one. What it is
made from has no other characters either, and is left as it is when it is made once more. -/
theorem isReferable_slug (name : String) (taken : List String) :
    slug name taken ∉ taken ∧ IsSlug (slug name taken) ∧
    (∀ (p : String) (v : Json), IsPathName p → v ≠ .null →
      resolveFrom (reference [slug name taken, p])
        (.obj [(slug name taken, .obj [(p, v)])]) = v.display.map fun shown => ⟨shown, []⟩) ∧
    snakeCase (snakeCase name) = snakeCase name ∧
    ∀ c ∈ (snakeCase name).toList, isWordChar c = true := by
  refine ⟨slug_not_mem name taken, isSlug_slug name taken, fun p v hp hnull => ?_,
    snakeCase_snakeCase name, fun c => isWordChar_of_mem_snakeCase⟩
  have hnames : ∀ q ∈ [slug name taken, p], IsPathName q := by
    simp only [List.forall_mem_cons, List.not_mem_nil, false_imp_iff, implies_true, and_true]
    exact ⟨isPathName_of_isIdentifier (isIdentifier_slug name taken), hp⟩
  have hv : LeadsTo (.obj [(slug name taken, .obj [(p, v)])])
      ([slug name taken, p].map String.toList) v := by
    refine .member (w := .obj [(p, v)]) ?_ (.member (w := v) ?_ .here)
    all_goals rw [String.ofList_toList, Entries.get?, if_pos rfl]
  exact resolve_reference hnames (List.cons_ne_nil _ _) hv hnull

/-- A reference to a member whose name has an opening brace in it, of a node whose name begins with
a digit and has a capital that is two characters in lower case. -/
theorem isReferable_slug_sampleCapital :
    IsPathName "\x7bid" ∧ Json.int 42 ≠ .null ∧
    resolveFrom (reference [slug "2nd İD" ["node_2nd_id"], "\x7bid"])
      (.obj [(slug "2nd İD" ["node_2nd_id"], .obj [("\x7bid", .int 42)])]) =
        .ok ⟨"42", []⟩ := by
  have hname : IsPathName "\x7bid" := by decide
  exact ⟨hname, nofun,
    (isReferable_slug "2nd İD" ["node_2nd_id"]).2.2.1 "\x7bid" (.int 42) hname nofun⟩

example : slug "2nd İD" ["node_2nd_id"] = "node_2nd_id_2" := by decide +kernel

end Naming

end Workflow
