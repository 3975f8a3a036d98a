import Workflow.Proofs.Entries
import Workflow.Proofs.Naming
import Workflow.Proofs.Outcome
import Workflow.Proofs.Template
import Workflow.Proofs.Text
import Workflow.Reference

/-!
# References that follow a slug

Two readings of a text have to agree when a slug changes. One cuts the text into single characters
and placeholders and looks the path in each placeholder up; the other searches the text for opening
braces, blanks, the slug and a point, and writes these anew. They agree on a placeholder whose path
goes on after the slug. They do not agree on one whose path is the slug alone, which the search
does not know, and on what looks like the beginning of a reference and is no placeholder, or stands
in the middle of one, which it rewrites all the same. `Template.RefersByPath` leaves these two out.

For the texts that are left, redirecting a slug is putting other paths into the placeholders
(`Template.pieces_redirect`), and a text that is redirected along with the values says what it said
(`Template.RefersByPath.resolve_redirect`).
-/

namespace Workflow

/-! ## Slugs in paths -/

namespace Naming

open Workflow.Text

variable {slug : String} {c : Char}

theorem not_isBlank_of_isWordChar (h : isWordChar c = true) : isBlank c = false := by
  rw [isWordChar_iff] at h
  simp only [isBlank, Bool.or_eq_false_iff, Bool.and_eq_false_iff, decide_eq_false_iff_not,
    beq_eq_false_iff_ne]
  omega

theorem IsIdentifier.not_isBlank (h : IsIdentifier slug) : ∀ c ∈ slug.toList, isBlank c = false :=
  fun c hc => not_isBlank_of_isWordChar (h.2 c hc)

/-- What is no character of an identifier does not stand in one. -/
theorem IsIdentifier.not_mem (h : IsIdentifier slug) (hc : isWordChar c = false) :
    c ∉ slug.toList :=
  fun hmem => by simp [h.2 c hmem] at hc

end Naming

/-! ## The search for references -/

namespace Reference

open Workflow.Text Workflow.Template

variable {pattern cs pre rest body : List Char} {slug : String} {n : Nat}

/-- **A pattern that the search cannot miss** begins with a character that is not blank, and ends
before a placeholder does. -/
structure IsPattern (pattern : List Char) : Prop where
  /-- The blanks in front of it are those that stand before its first character. -/
  first : ∃ c cs, pattern = c :: cs ∧ isBlank c = false
  /-- It does not close a placeholder. -/
  closed : '\x7d' ∉ pattern

theorem isPattern_patternOf (h : Naming.IsIdentifier slug) : IsPattern (patternOf slug) := by
  have hclosed : '\x7d' ∉ patternOf slug := by
    simpa [patternOf] using h.not_mem (by decide)
  obtain ⟨c, cs, hcs⟩ := List.exists_cons_of_ne_nil fun he => h.1 (String.toList_eq_nil_iff.1 he)
  exact ⟨⟨c, cs ++ ['.'], by rw [patternOf, hcs]; rfl,
    h.not_isBlank c (hcs ▸ List.mem_cons_self)⟩, hclosed⟩

theorem gapBefore?_nil (hp : IsPattern pattern) : gapBefore? pattern [] = none := by
  obtain ⟨c, cs, rfl, -⟩ := hp.first
  rfl

theorem gapBefore?_cons (pattern : List Char) (c : Char) (cs : List Char) :
    gapBefore? pattern (c :: cs) =
      match if isBlank c then gapBefore? pattern cs else none with
      | some n => some (n + 1)
      | none => if pattern.isPrefixOf (c :: cs) then some 0 else none := by
  delta gapBefore?
  rfl

/-- What is found is blanks and the pattern, and all that begins so is found. -/
theorem gapBefore?_eq_some (hp : IsPattern pattern) : gapBefore? pattern cs = some n ↔
    ∃ gap rest, cs = gap ++ pattern ++ rest ∧ gap.length = n ∧ ∀ c ∈ gap, isBlank c = true := by
  induction cs generalizing n with
  | nil =>
    obtain ⟨d, ds, rfl, -⟩ := hp.first
    rw [gapBefore?_nil hp]
    simp
  | cons c cs ih =>
    obtain ⟨d, ds, rfl, hd⟩ := hp.first
    have hprefix : (d :: ds).isPrefixOf (c :: cs) = true ↔ ∃ rest, c :: cs = d :: ds ++ rest := by
      rw [List.isPrefixOf_iff_prefix]
      exact exists_congr fun rest => eq_comm
    rw [gapBefore?_cons]
    constructor
    · intro h
      split at h
      · next m hm =>
        cases h
        split at hm
        · next hc =>
          obtain ⟨gap, rest, rfl, rfl, hgap⟩ := ih.1 hm
          refine ⟨c :: gap, rest, rfl, rfl, ?_⟩
          rintro b (_ | ⟨_, hb⟩)
          · exact hc
          · exact hgap b hb
        · cases hm
      · split at h
        · next hpre =>
          cases h
          obtain ⟨rest, hrest⟩ := hprefix.1 hpre
          exact ⟨[], rest, hrest, rfl, nofun⟩
        · cases h
    · rintro ⟨_ | ⟨b, gap⟩, rest, htext, rfl, hgap⟩
      · obtain rfl := (List.cons_eq_cons.1 htext).1
        simp [hd, hprefix.2 ⟨rest, htext⟩]
      · obtain ⟨rfl, hcs⟩ := List.cons_eq_cons.1 htext
        have hfound := ih.2 ⟨gap, rest, hcs, rfl, fun b hb => hgap b (List.mem_cons_of_mem _ hb)⟩
        rw [if_pos (hgap c List.mem_cons_self), hfound]
        rfl

/-- The search stays between the braces of a placeholder. -/
theorem gapBefore?_append (hp : IsPattern pattern) (body rest : List Char) :
    gapBefore? pattern (body ++ '\x7d' :: rest) = gapBefore? pattern body := by
  ext n
  rw [gapBefore?_eq_some hp, gapBefore?_eq_some hp]
  constructor
  · rintro ⟨gap, rest', htext, hn, hgap⟩
    obtain ⟨more, rfl, -⟩ | ⟨more, hbody, hrest⟩ := List.append_eq_append_iff.1 htext.symm
    · exact ⟨gap, more, rfl, hn, hgap⟩
    · -- what was found would reach over the closing brace
      have hclosing : '\x7d' ∉ gap ++ pattern := by
        rw [List.mem_append]
        rintro (hmem | hmem)
        · exact absurd (hgap _ hmem) (by decide)
        · exact hp.closed hmem
      cases more with
      | nil => exact ⟨gap, [], by rw [hbody, List.append_nil, List.append_nil], hn, hgap⟩
      | cons c more =>
        obtain ⟨rfl, -⟩ := List.cons_eq_cons.1 hrest
        exact absurd (hbody ▸ List.mem_append_right _ List.mem_cons_self) hclosing
  · rintro ⟨gap, more, rfl, hn, hgap⟩
    exact ⟨gap, more ++ '\x7d' :: rest, by simp, hn, hgap⟩

theorem length?_hole (hp : IsPattern pattern) (body rest : List Char) :
    length? pattern ((Piece.hole body).text ++ rest)
      = (gapBefore? pattern body).map (· + 2 + pattern.length) := by
  rw [← gapBefore?_append hp body ('\x7d' :: rest)]
  simp [Piece.text, length?]

variable {expand : List Char → List Char}

theorem replaceFrom_eq_drop (skip : Nat) (cs : List Char) :
    replaceFrom pattern expand skip cs = replaceFrom pattern expand 0 (cs.drop skip) := by
  induction cs generalizing skip with
  | nil => cases skip <;> rfl
  | cons c cs ih =>
    cases skip with
    | zero => rfl
    | succ skip => exact ih skip

/-- A reference at the front is written anew. -/
theorem replaceFrom_of_length? (h : length? pattern cs = some (n + 1)) :
    replaceFrom pattern expand 0 cs
      = expand (cs.take (n + 1)) ++ replaceFrom pattern expand 0 (cs.drop (n + 1)) := by
  cases cs with
  | nil => cases h
  | cons c cs =>
    rw [replaceFrom, h]
    dsimp only
    rw [replaceFrom_eq_drop]
    rfl

/-- Where no reference begins the text stays. -/
theorem replaceFrom_append
    (h : ∀ k < pre.length, length? pattern ((pre ++ rest).drop k) = none) :
    replaceFrom pattern expand 0 (pre ++ rest) = pre ++ replaceFrom pattern expand 0 rest := by
  induction pre with
  | nil => rfl
  | cons c pre ih =>
    have hc : length? pattern (c :: (pre ++ rest)) = none := h 0 (Nat.zero_lt_succ _)
    rw [List.cons_append, replaceFrom, hc]
    exact congrArg _ (ih fun k hk => h (k + 1) (Nat.succ_lt_succ hk))

end Reference

/-! ## Redirected texts -/

namespace Template

open Workflow.Text Workflow.Reference

variable {slug old new : String} {body cs : List Char} {k : Nat} {ps : List Piece}

/-- The path in the braces of a placeholder. -/
def Piece.path? : Piece → Option (List Char)
  | .char _ => none
  | .hole body => some (pathText body)

/-- The positions at which placeholders begin in a text that begins at a position. -/
def holeStarts : Nat → List Piece → List Nat
  | _, [] => []
  | k, .char _ :: ps => holeStarts (k + 1) ps
  | k, .hole body :: ps => k :: holeStarts (k + body.length + 4) ps

/-- **A text that refers to a slug by paths only.** -/
structure RefersByPath (slug : String) (text : List Char) : Prop where
  /-- No placeholder has the slug alone as its path. -/
  pathed : ∀ p ∈ pieces text, p.path? ≠ some slug.toList
  /-- What looks like the beginning of a reference is the beginning of a placeholder. -/
  opening : ∀ k < text.length, (length? (patternOf slug) (text.drop k)).isSome →
    k ∈ holeStarts 0 (pieces text)

instance (slug : String) (text : List Char) : Decidable (RefersByPath slug text) :=
  decidable_of_iff
    ((∀ p ∈ pieces text, p.path? ≠ some slug.toList) ∧
      ∀ k < text.length, (length? (patternOf slug) (text.drop k)).isSome →
        k ∈ holeStarts 0 (pieces text))
    ⟨fun h => ⟨h.1, h.2⟩, fun h => ⟨h.1, h.2⟩⟩

/-- What stands between the braces of a placeholder after a slug was redirected. -/
def redirectBody (old new : String) (body : List Char) : List Char :=
  match gapBefore? (patternOf old) body with
  | some n => ' ' :: patternOf new ++ body.drop (n + (patternOf old).length)
  | none => body

theorem isBody_redirectBody (hnew : Naming.IsIdentifier new) (h : IsBody body) :
    IsBody (redirectBody old new body) := by
  unfold redirectBody
  split
  · refine ⟨List.cons_ne_nil _ _, ?_⟩
    rw [List.cons_append, List.mem_cons, List.mem_append]
    rintro (hmem | hmem | hmem)
    · exact absurd hmem (by decide)
    · exact (isPattern_patternOf hnew).closed hmem
    · exact h.2 (List.mem_of_mem_drop hmem)
  · exact h

theorem le_of_mem_holeStarts {i : Nat} (h : k ∈ holeStarts i ps) : i ≤ k := by
  induction ps generalizing i with
  | nil => cases h
  | cons p ps ih =>
    cases p with
    | char c => exact (Nat.le_succ i).trans (ih h)
    | hole body =>
      obtain rfl | h := List.mem_cons.1 h
      · exact Nat.le_refl _
      · have := ih h
        omega

theorem length_text_hole (body : List Char) : (Piece.hole body).text.length = body.length + 4 := by
  simp [Piece.text]

/-- A placeholder inside which no reference begins is written anew as a whole, or not at all. -/
theorem replaceFrom_hole (hold : Naming.IsIdentifier old) {rest : List Char}
    (hinner : ∀ k, 0 < k → k < body.length + 4 →
      length? (patternOf old) (((Piece.hole body).text ++ rest).drop k) = none) :
    replaceFrom (patternOf old) (fun _ => Reference.opening new) 0 ((Piece.hole body).text ++ rest)
      = (Piece.hole (redirectBody old new body)).text
        ++ replaceFrom (patternOf old) (fun _ => Reference.opening new) 0 rest := by
  have hp := isPattern_patternOf hold
  rw [redirectBody]
  cases hgap : gapBefore? (patternOf old) body with
  | none =>
    refine replaceFrom_append fun k hk => ?_
    obtain rfl | hpos := Nat.eq_zero_or_pos k
    · rw [List.drop_zero, length?_hole hp, hgap, Option.map_none]
    · exact hinner k hpos (length_text_hole body ▸ hk)
  | some n =>
    obtain ⟨gap, tail, rfl, rfl, -⟩ := (gapBefore?_eq_some hp).1 hgap
    have hfound : length? (patternOf old)
        ((Piece.hole (gap ++ patternOf old ++ tail)).text ++ rest)
          = some (gap.length + 1 + (patternOf old).length + 1) := by
      rw [length?_hole hp, hgap, Option.map_some]
      congr 1
      omega
    have htail : ((Piece.hole (gap ++ patternOf old ++ tail)).text ++ rest).drop
        (gap.length + 1 + (patternOf old).length + 1) = tail ++ ['\x7d', '\x7d'] ++ rest := by
      rw [show (Piece.hole (gap ++ patternOf old ++ tail)).text ++ rest
          = ('\x7b' :: '\x7b' :: (gap ++ patternOf old)) ++ (tail ++ ['\x7d', '\x7d'] ++ rest)
        by simp [Piece.text]]
      exact List.drop_left' (by simp; omega)
    rw [replaceFrom_of_length? hfound, htail, replaceFrom_append]
    · simp [Piece.text, Reference.opening]
    · intro k hk
      have := hinner (gap.length + 1 + (patternOf old).length + 1 + k) (by omega) (by
        simp at hk ⊢
        omega)
      rwa [← List.drop_drop, htail] at this

/-- Where references begin with placeholders only, the search changes the placeholders and nothing
else. -/
theorem replaceFrom_pieces (hold : Naming.IsIdentifier old) {i : Nat}
    (h : ∀ k < cs.length, (length? (patternOf old) (cs.drop k)).isSome →
      k + i ∈ holeStarts i (pieces cs)) :
    replaceFrom (patternOf old) (fun _ => Reference.opening new) 0 cs
      = ((pieces cs).map (Piece.withBody (redirectBody old new))).flatMap Piece.text := by
  induction cs using text_induct generalizing i with
  | nil => rfl
  | char c cs hhole ih =>
    rw [pieces_cons_of_eq_none hhole] at h ⊢
    have hc : length? (patternOf old) (c :: cs) = none := by
      rw [← Option.not_isSome_iff_eq_none]
      intro hfound
      have hstart : i + 1 ≤ 0 + i := le_of_mem_holeStarts (h 0 (Nat.zero_lt_succ _) hfound)
      omega
    rw [replaceFrom, hc]
    refine congrArg _ (ih (i := i + 1) fun k hk hfound => ?_)
    have := h (k + 1) (Nat.succ_lt_succ hk) hfound
    rwa [Nat.add_right_comm] at this
  | hole body rest hbody ih =>
    rw [pieces_hole_append hbody] at h ⊢
    have hlength := length_text_hole body
    have hrest : replaceFrom (patternOf old) (fun _ => Reference.opening new) 0 rest
        = ((pieces rest).map (Piece.withBody (redirectBody old new))).flatMap Piece.text := by
      refine ih (i := i + body.length + 4) fun k hk hfound => ?_
      have hmem := h (k + (body.length + 4)) (by simp [hlength]; omega) (by
        rwa [Nat.add_comm, ← List.drop_drop, List.drop_left' hlength])
      obtain hk | hmem := List.mem_cons.1 hmem
      · omega
      · rwa [show k + (body.length + 4) + i = k + (i + body.length + 4) by omega] at hmem
    rw [List.map_cons, List.flatMap_cons, ← hrest, Piece.withBody]
    refine replaceFrom_hole hold fun k hpos hk => ?_
    -- the next place at which a reference can begin is behind the closing braces
    rw [← Option.not_isSome_iff_eq_none]
    intro hfound
    obtain hk' | hmem := List.mem_cons.1 (h k (by simp [hlength]; omega) hfound)
    · omega
    · have := le_of_mem_holeStarts hmem
      omega

/-- **Redirecting a slug** puts other paths into the placeholders of a text. -/
theorem pieces_redirect (hold : Naming.IsIdentifier old) (hnew : Naming.IsIdentifier new)
    {text : String} (h : RefersByPath old text.toList) :
    pieces (redirect old new text).toList
      = (pieces text.toList).map (Piece.withBody (redirectBody old new)) := by
  rw [redirect, String.toList_ofList, replaceFrom_pieces hold (i := 0) h.opening]
  exact ((cut_pieces _).map fun _ => isBody_redirectBody hnew).pieces_eq

/-! ## The same values under another slug -/

/-- A map of values with one slug in the place of another. -/
def renameKey {α : Type} (old new : String) (values : Entries α) : Entries α :=
  values.map fun e => if e.1 = old then (new, e.2) else e

theorem get?_renameKey {α : Type} {values : Entries α} (h : Entries.get? values new = none)
    (key : String) : Entries.get? (renameKey old new values) key =
      if key = new then Entries.get? values old
      else if key = old then none else Entries.get? values key := by
  induction values with
  | nil => simp [renameKey]
  | cons e values ih =>
    obtain ⟨k, v⟩ := e
    rw [Entries.get?_cons] at h
    split at h
    · cases h
    · next hk =>
      have ih := ih h
      rw [renameKey, List.map_cons]
      by_cases ho : k = old
      · rw [if_pos ho, Entries.get?_cons, ← renameKey, ih]
        grind [Entries.get?_cons]
      · rw [if_neg ho, Entries.get?_cons, ← renameKey, ih]
        grind [Entries.get?_cons]

variable {values : Entries Json} {path : List Char}

/-- The value that a path leads to below a slug. -/
def lookupBelow (value : Option Json) (names : List (List Char)) : Option Json :=
  match value.map (descend · names) with
  | some .null => none
  | v => v

theorem lookup_eq {root : List Char} {names : List (List Char)}
    (h : cutAt '.' path = root :: names) :
    lookup values path = lookupBelow (Entries.get? values (String.ofList root)) names := by
  rw [lookup, h]
  dsimp only
  cases Entries.get? values (String.ofList root) with
  | none => rfl
  | some v =>
    rw [lookupBelow, Option.map_some]
    dsimp only
    split <;> simp_all

/-- A path that begins with a slug and a point is cut there. -/
theorem cutAt_pathText {gap tail : List Char} (hslug : Naming.IsIdentifier slug)
    (hgap : ∀ c ∈ gap, isBlank c = true) :
    cutAt '.' (pathText (gap ++ patternOf slug ++ tail))
      = slug.toList :: cutAt '.' (tail.reverse.dropWhile isBlank).reverse := by
  rw [pathText, List.append_assoc, trim_append_left hgap, patternOf, List.append_assoc,
    List.singleton_append, trim_append_cons hslug.not_isBlank (by decide),
    cutAt_append_cons (hslug.not_mem (by decide))]

/-- **The search finds a path** that goes on after the slug. -/
theorem isSome_gapBefore? (hslug : Naming.IsIdentifier slug) {names : List (List Char)}
    (hcut : cutAt '.' (pathText body) = slug.toList :: names)
    (hpath : pathText body ≠ slug.toList) : (gapBefore? (patternOf slug) body).isSome := by
  obtain hroot | ⟨rest, hroot⟩ := exists_of_cutAt hcut
  · exact absurd hroot hpath
  · obtain ⟨before, after, hbody, hblank, -⟩ := exists_stripped isBlank body
    have hbegins : body = before ++ patternOf slug ++ (rest ++ after) := by
      rw [hbody, ← trim, ← pathText, hroot, patternOf]
      simp
    rw [(gapBefore?_eq_some (isPattern_patternOf hslug)).2 ⟨before, _, hbegins, rfl, hblank⟩]
    rfl

/-- A path in which the slug was redirected leads to the same value. -/
theorem lookup_redirectBody (hold : Naming.IsIdentifier old) (hnew : Naming.IsIdentifier new)
    (hvalues : Entries.get? values new = none) (hpath : pathText body ≠ old.toList)
    (hfound : lookup values (pathText body) ≠ none) :
    lookup (renameKey old new values) (pathText (redirectBody old new body))
      = lookup values (pathText body) := by
  unfold redirectBody
  cases hgap : gapBefore? (patternOf old) body with
  | some n =>
    -- the path begins with the slug, and with the new one then
    obtain ⟨gap, tail, rfl, rfl, hblank⟩ := (gapBefore?_eq_some (isPattern_patternOf hold)).1 hgap
    have hspace : ∀ c ∈ [' '], isBlank c = true := List.forall_mem_singleton.2 (by decide)
    have htail : (gap ++ patternOf old ++ tail).drop (gap.length + (patternOf old).length)
        = tail := List.drop_left' (by simp)
    dsimp only
    rw [htail, show ' ' :: patternOf new ++ tail = [' '] ++ patternOf new ++ tail from rfl,
      lookup_eq (cutAt_pathText hnew hspace), lookup_eq (cutAt_pathText hold hblank),
      String.ofList_toList, String.ofList_toList, get?_renameKey hvalues, if_pos rfl]
  | none =>
    dsimp only
    cases hcut : cutAt '.' (pathText body) with
    | nil =>
      rw [lookup, hcut] at hfound
      exact absurd rfl hfound
    | cons root names =>
      rw [lookup_eq hcut] at hfound ⊢
      rw [lookup_eq hcut, get?_renameKey hvalues]
      -- the root is a slug with a value, and it is not the old one
      have hroot : String.ofList root ≠ new := by
        rintro rfl
        rw [hvalues] at hfound
        exact hfound rfl
      have hroot' : String.ofList root ≠ old := by
        rintro rfl
        rw [String.toList_ofList] at hpath
        have hsome := isSome_gapBefore? hold (by rw [hcut, String.toList_ofList])
          (by rwa [String.toList_ofList])
        rw [hgap] at hsome
        cases hsome
      rw [if_neg hroot, if_neg hroot']

/-- **A text that is redirected along with the values says what it said.** -/
theorem RefersByPath.resolve_redirect (hold : Naming.IsIdentifier old)
    (hnew : Naming.IsIdentifier new) {text : String} (h : RefersByPath old text.toList)
    (hvalues : Entries.get? values new = none) {said : Resolved}
    (hsaid : resolve text (some values) = .ok said) (hresolved : said.unresolved = []) :
    resolve (redirect old new text) (some (renameKey old new values)) = .ok said := by
  obtain ⟨filled, hfilled, hsaid'⟩ := Outcome.bind_eq_ok.1 hsaid
  cases Outcome.pure_eq_ok.1 hsaid'
  have hfill : ∀ p ∈ pieces text.toList,
      (fill (renameKey old new values) ∘ Piece.withBody (redirectBody old new)) p
        = fill values p := by
    intro p hmem
    cases p with
    | char c => rfl
    | hole body =>
      cases hlookup : lookup values (pathText body) with
      | none =>
        -- then the path would be reported
        obtain ⟨told, htold, hkept⟩ := Outcome.exists_of_mapM_eq_ok hfilled hmem
        rw [Option.getD_some, fill, hlookup] at hkept
        cases hkept
        have hreported : String.ofList (pathText body) ∈ filled.filterMap Prod.snd :=
          List.mem_filterMap.2 ⟨_, htold, rfl⟩
        have hnone : filled.filterMap Prod.snd = [] := hresolved
        rw [hnone] at hreported
        cases hreported
      | some v =>
        have hsame := lookup_redirectBody hold hnew hvalues
          (fun he => h.pathed _ hmem (congrArg some he)) (by simp [hlookup])
        rw [Function.comp_apply, Piece.withBody, fill, fill, hsame, hlookup]
  rw [← hsaid, resolve, resolve, pieces_redirect hold hnew h, Option.getD_some, Option.getD_some]
  refine congrArg (· >>= _) (Outcome.mapM_congr_map ?_)
  rw [List.map_map, List.map_congr_left hfill]

end Template

end Workflow
